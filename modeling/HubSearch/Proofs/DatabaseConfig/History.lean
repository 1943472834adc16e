/-
The database's ConfigMap over many releases. Each upgrade generates the file anew, merges the live
settings into it and amends the live map; between upgrades anybody edits any key but the overlay. An
overlay that is set stays as it is for good, and every upgrade writes the file from its own generated
one and the overlay alone, so nothing accumulates. Main statement: `overlay_survives_history`.
-/
import Mathlib.Logic.Relation
import HubSearch.Amend.ConfigMap
import HubSearch.Proofs.Amend.Match
import HubSearch.Proofs.DatabaseConfig.Lines

namespace HubSearch.DatabaseConfig

/-! ## One upgrade -/

/-- The text under a key of a ConfigMap. -/
def value? (c : ConfigMap) (key : String) : Option String := c.data.bind (·.get? key)

theorem textAt_of_value? {c : ConfigMap} {key text : String} (h : value? c key = some text) :
    textAt c.data key = text.toList := by
  rw [textAt, show c.data.bind (·.get? key) = some text from h]
  rfl

/-- A live ConfigMap after an upgrade to a release: its settings are merged into the release's ConfigMap and the
live one is amended. -/
def upgraded (live release : ConfigMap) (known : List String) : ConfigMap :=
  (live.amend (merge live release known)).getD live

theorem value?_upgraded_of_some {live release : ConfigMap} {known : List String} {key text : String}
    (h : (merge live release known).data.bind (·.get? key) = some text) :
    value? (upgraded live release known) key = some text := by
  unfold upgraded
  cases ha : live.amend (merge live release known) with
  | none => exact ConfigMap.amend_eq_none_iff.1 ha key text h
  | some after => exact ConfigMap.matches_of_amend ha key text h

theorem value?_upgraded_of_none {live release : ConfigMap} {known : List String} {key : String}
    (h : (merge live release known).data.bind (·.get? key) = none) :
    value? (upgraded live release known) key = value? live key := by
  unfold upgraded
  cases ha : live.amend (merge live release known) with
  | none => rfl
  | some after => exact ConfigMap.get?_amend_of_none ha h

/-- The file for a release's generated one and an overlay: the overlay stands after it unless the file has every
setting line of the overlay. -/
def written (generated overlay : String) : String :=
  if ∀ line ∈ lines overlay.toList, trim line ≠ [] → ∃ l ∈ lines generated.toList, trim l = trim line then generated
  else String.ofList (trimEnd generated.toList ++ ['\n'] ++ trim overlay.toList ++ ['\n'])

theorem ofList_combined (generated overlay : String) :
    String.ofList (combined generated.toList overlay.toList) = written generated overlay := by
  unfold combined written
  by_cases h : isCovered (trim overlay.toList) generated.toList = true
  · rw [if_pos h, if_pos (isCovered_trim_iff.1 h), String.ofList_toList]
  · rw [if_neg h, if_neg (fun hall => h (isCovered_trim_iff.2 hall))]
    simp

section upgrade

variable {live release : ConfigMap} {generated overlay : String} (known : List String)

/-- An upgrade over a set overlay keeps it and writes the file from the generated one and the overlay, whatever the
file was. -/
theorem upgraded_of_overlay (hrelease : release.data = some (freshData generated))
    (hoverlay : value? live overlayKey = some overlay) (hset : trim overlay.toList ≠ []) :
    value? (upgraded live release known) overlayKey = some overlay ∧
      value? (upgraded live release known) baseKey = some (written generated overlay) := by
  have hmerged : (merge live release known).data = some (((freshData generated).insert baseKey
      (written generated overlay)).insert overlayKey overlay) := by
    have ho : overlay? (textAt live.data overlayKey) (textAt live.data baseKey) generated.toList
        (known.map String.toList) = some overlay.toList := by
      rw [textAt_of_value? hoverlay]
      exact overlay?_self hset
    have hdata := mergeData_eq_of_overlay? ho
    rw [ofList_combined, String.ofList_toList, ← hrelease] at hdata
    exact hdata
  constructor
  · refine value?_upgraded_of_some ?_
    rw [hmerged]
    exact Dict.get?_insert_self ..
  · refine value?_upgraded_of_some ?_
    rw [hmerged, Option.bind_some, Dict.get?_insert_of_ne _ _ (by decide)]
    exact Dict.get?_insert_self ..

/-- An upgrade writes no key but the file and the overlay. -/
theorem value?_upgraded_of_ne (hrelease : release.data = some (freshData generated)) {key : String}
    (hbase : key ≠ baseKey) (hoverlay : key ≠ overlayKey) :
    value? (upgraded live release known) key = value? live key := by
  have hfresh : (freshData generated).get? key = none :=
    Dict.get?_insert_of_ne .empty generated hbase
  refine value?_upgraded_of_none ?_
  show (mergeData live.data release.data known).bind _ = none
  rw [hrelease]
  cases ho : overlay? (textAt live.data overlayKey) (textAt live.data baseKey) generated.toList
      (known.map String.toList) with
  | none => rw [mergeData_eq_fresh ho, Option.bind_some, hfresh]
  | some ov =>
    rw [mergeData_eq_of_overlay? ho, Option.bind_some, Dict.get?_insert_of_ne _ _ hoverlay,
      Dict.get?_insert_of_ne _ _ hbase, hfresh]

end upgrade

/-! ## Histories -/

/-- What happens to the live ConfigMap: an upgrade to a release that knows any earlier files, or an edit of any key
but the overlay. -/
inductive Step : ConfigMap → ConfigMap → Prop
  | upgrade {live release : ConfigMap} {generated : String} (known : List String)
      (hrelease : release.data = some (freshData generated)) : Step live (upgraded live release known)
  | edit {live after : ConfigMap} (hoverlay : value? after overlayKey = value? live overlayKey) : Step live after

theorem Step.overlay_eq {live after : ConfigMap} {overlay : String} (h : Step live after)
    (hoverlay : value? live overlayKey = some overlay) (hset : trim overlay.toList ≠ []) :
    value? after overlayKey = some overlay := by
  cases h with
  | upgrade known hrelease => exact (upgraded_of_overlay known hrelease hoverlay hset).1
  | edit hkept => rw [hkept, hoverlay]

theorem overlay_eq_of_history {live now : ConfigMap} {overlay : String} (hrun : Relation.ReflTransGen Step live now)
    (hoverlay : value? live overlayKey = some overlay) (hset : trim overlay.toList ≠ []) :
    value? now overlayKey = some overlay := by
  induction hrun with
  | refl => exact hoverlay
  | tail _ hstep ih => exact hstep.overlay_eq ih hset

/-- From the moment when the overlay holds a text that is not blank it holds this text for good. Each upgrade after
that writes the file from its own generated one and the overlay, and no upgrade touches any other key. -/
theorem overlay_survives_history {live now release : ConfigMap} {generated : String} (known : List String)
    (hrun : Relation.ReflTransGen Step live now) (hrelease : release.data = some (freshData generated)) :
    (∀ overlay, value? live overlayKey = some overlay → trim overlay.toList ≠ [] →
      value? now overlayKey = some overlay ∧
      value? (upgraded now release known) overlayKey = some overlay ∧
      value? (upgraded now release known) baseKey = some (written generated overlay)) ∧
    ∀ key, key ≠ baseKey → key ≠ overlayKey → value? (upgraded now release known) key = value? now key := by
  refine ⟨fun overlay hoverlay hset => ?_, fun key => value?_upgraded_of_ne known hrelease⟩
  have hnow := overlay_eq_of_history hrun hoverlay hset
  exact ⟨hnow, upgraded_of_overlay known hrelease hnow hset⟩

/-- A live ConfigMap whose overlay is set. -/
def sampleLive : ConfigMap :=
  { data := some (.ofList [(baseKey, "ssl = 'on'\n"), (overlayKey, "work_mem = '64MB'\n"), ("note", "mine")]) }

/-- A release that generates one more line. -/
def sampleRelease : ConfigMap := { data := some (freshData "ssl = 'on'\nmax_connections = 200\n") }

/-- Upgraded twice, the file has the overlay once. -/
theorem overlay_survives_sampleLive :
    value? (upgraded (upgraded sampleLive sampleRelease []) sampleRelease []) overlayKey = some "work_mem = '64MB'\n" ∧
    value? (upgraded (upgraded sampleLive sampleRelease []) sampleRelease []) baseKey =
      some "ssl = 'on'\nmax_connections = 200\nwork_mem = '64MB'\n" := by
  have hrun : Relation.ReflTransGen Step sampleLive (upgraded sampleLive sampleRelease []) :=
    .single (.upgrade [] rfl)
  have hwritten : written "ssl = 'on'\nmax_connections = 200\n" "work_mem = '64MB'\n" =
      "ssl = 'on'\nmax_connections = 200\nwork_mem = '64MB'\n" := by decide +kernel
  have hrelease : sampleRelease.data = some (freshData "ssl = 'on'\nmax_connections = 200\n") := rfl
  obtain ⟨-, hoverlay, hbase⟩ := (overlay_survives_history [] hrun hrelease).1 "work_mem = '64MB'\n"
    (by decide +kernel) (by decide +kernel)
  exact ⟨hoverlay, hwritten ▸ hbase⟩

end HubSearch.DatabaseConfig
