/-
Releases one after the other. An upgrade that is made again changes nothing (`upgraded_twice`). Where nobody has set
an overlay or edited the file, and each release knows the files of the earlier ones, the file is always the one that
the last release has generated, and there is never an overlay (`untouched_follows_releases`).
-/
import HubSearch.Proofs.DatabaseConfig.History

namespace HubSearch.DatabaseConfig

variable {live start now release : ConfigMap} {generated : String} {known : List String}

/-! ## The same release again -/

/-- Data that was merged is merged again as it is. -/
theorem mergeData_mergeData (live : Option (Dict String)) (generated : String) (known : List String) :
    mergeData (mergeData live (some (freshData generated)) known) (some (freshData generated)) known =
      mergeData live (some (freshData generated)) known := by
  cases ho : overlay? (textAt live overlayKey) (textAt live baseKey) generated.toList (known.map String.toList) with
  | none =>
    have hoverlay : textAt (some (freshData generated)) overlayKey = [] := by
      rw [textAt, Option.bind_some, get?_freshData_overlayKey]
      rfl
    rw [mergeData_eq_fresh ho]
    refine mergeData_eq_fresh ?_
    rw [hoverlay, textAt_freshData, overlay?, if_neg (fun h => h rfl)]
    exact migrated?_generated _ _
  | some ov =>
    rw [mergeData_eq_of_overlay? ho]
    refine mergeData_eq_of_overlay? ?_
    rw [textAt, Option.bind_some, Dict.get?_insert_self, Option.getD_some, String.toList_ofList]
    exact overlay?_self (trim_overlay_ne_nil ho)

theorem merge_merge (hrelease : release.data = some (freshData generated)) :
    merge (merge live release known) release known = merge live release known := by
  have hdata : mergeData (mergeData live.data release.data known) release.data known =
      mergeData live.data release.data known := by
    rw [hrelease]
    exact mergeData_mergeData _ _ _
  exact congrArg (fun data => ({ release with data } : ConfigMap)) hdata

/-- After an upgrade each key is as it was merged, or as it was before. -/
theorem value?_upgraded (live release : ConfigMap) (known : List String) (key : String) :
    value? (upgraded live release known) key =
      ((merge live release known).data.bind (·.get? key)).or (value? live key) := by
  cases hkey : (merge live release known).data.bind (·.get? key) with
  | none => exact value?_upgraded_of_none hkey
  | some text => exact value?_upgraded_of_some hkey

/-- The same settings are merged after an upgrade as before it. -/
theorem merge_upgraded (hrelease : release.data = some (freshData generated)) :
    merge (upgraded live release known) release known = merge live release known := by
  have hdata : mergeData (upgraded live release known).data release.data known =
      mergeData live.data release.data known := by
    rw [hrelease]
    refine mergeData_written fun key => ?_
    rw [← hrelease]
    exact value?_upgraded live release known key
  exact congrArg (fun data => ({ release with data } : ConfigMap)) hdata

/-- An upgrade writes what was merged. Made again, it has nothing to amend and leaves everything as it is, and what
was merged is merged again as it is. -/
theorem upgraded_twice (live : ConfigMap) (known : List String)
    (hrelease : release.data = some (freshData generated)) :
    (upgraded live release known).Matches (merge live release known) ∧
      (upgraded live release known).amend (merge (upgraded live release known) release known) = none ∧
      upgraded (upgraded live release known) release known = upgraded live release known ∧
      merge (merge live release known) release known = merge live release known := by
  have hmatches : (upgraded live release known).Matches (merge live release known) := fun key text =>
    value?_upgraded_of_some
  have hnone : (upgraded live release known).amend (merge (upgraded live release known) release known) = none := by
    rw [merge_upgraded hrelease]
    exact ConfigMap.amend_eq_none_iff.2 hmatches
  refine ⟨hmatches, hnone, ?_, merge_merge hrelease⟩
  rw [upgraded, hnone, Option.getD_none]

/-- A live ConfigMap whose file was edited in place, with other line ends, and whose overlay is blank. -/
def editedLive : ConfigMap :=
  { data := some (.ofList [(baseKey, "ssl = 'on'\r\n  work_mem = '8MB'\r\n"), (overlayKey, " \n")]) }

/-- The line that was edited in is moved into the overlay by the first upgrade, and the second one changes nothing. -/
theorem upgraded_twice_editedLive :
    value? (upgraded editedLive sampleRelease []) overlayKey =
        some "# Custom configuration migrated from postgresql.conf\nwork_mem = '8MB'\n" ∧
      upgraded (upgraded editedLive sampleRelease []) sampleRelease [] = upgraded editedLive sampleRelease [] := by
  have hrelease : sampleRelease.data = some (freshData "ssl = 'on'\nmax_connections = 200\n") := rfl
  obtain ⟨hmatches, -, hsame, -⟩ := upgraded_twice editedLive [] hrelease
  exact ⟨hmatches _ _ (by decide +kernel), hsame⟩

/-! ## Installs that nobody has touched -/

/-- A file is one of those that a release knows, up to the blanks at its ends. -/
def IsKnown (known : List String) (file : String) : Prop := ∃ t ∈ known, trim t.toList = trim file.toList

/-- The overlay is absent or blank. -/
def NoOverlay (c : ConfigMap) : Prop := ∀ text, value? c overlayKey = some text → trim text.toList = []

instance (c : ConfigMap) : Decidable (NoOverlay c) :=
  inferInstanceAs (Decidable (∀ text ∈ value? c overlayKey, trim text.toList = []))

theorem trim_textAt_of_forall {c : ConfigMap} {key : String} {P : List Char → Prop} (hnil : P [])
    (h : ∀ text, value? c key = some text → P (trim text.toList)) : P (trim (textAt c.data key)) := by
  unfold textAt
  cases htext : c.data.bind (·.get? key) with
  | none => exact hnil
  | some text => exact h text htext

/-- Nothing is moved out of a file that is blank or known. -/
theorem migrated?_eq_none {base generated : List Char} {known : List (List Char)}
    (h : trim base = [] ∨ trim base ∈ known.map trim) : migrated? base generated known = none := by
  unfold migrated?
  rw [if_pos]
  exact h.imp_right .inr

/-- An upgrade that has nothing to merge writes the generated file and leaves the overlay as it is. -/
theorem upgraded_of_fresh (hmerged : (merge live release known).data = some (freshData generated)) :
    value? (upgraded live release known) overlayKey = value? live overlayKey ∧
      value? (upgraded live release known) baseKey = some generated := by
  constructor
  · refine value?_upgraded_of_none ?_
    rw [hmerged]
    exact get?_freshData_overlayKey
  · refine value?_upgraded_of_some ?_
    rw [hmerged]
    exact Dict.get?_insert_self .empty baseKey generated

/-- An upgrade of an install that nobody has touched writes the generated file and leaves the overlay as it is. -/
theorem upgraded_of_untouched (hrelease : release.data = some (freshData generated)) (hoverlay : NoOverlay live)
    (hbase : ∀ text, value? live baseKey = some text → trim text.toList = [] ∨ IsKnown known text) :
    value? (upgraded live release known) overlayKey = value? live overlayKey ∧
      value? (upgraded live release known) baseKey = some generated := by
  have hblank : trim (textAt live.data overlayKey) = [] :=
    trim_textAt_of_forall (P := (· = [])) rfl hoverlay
  have hmigrated : migrated? (textAt live.data baseKey) generated.toList (known.map String.toList) = none := by
    refine migrated?_eq_none ?_
    refine trim_textAt_of_forall (P := fun file => file = [] ∨ file ∈ (known.map String.toList).map trim) (.inl rfl)
      fun text htext => (hbase text htext).imp_right ?_
    rintro ⟨t, ht, heq⟩
    exact heq ▸ List.mem_map_of_mem (List.mem_map_of_mem ht)
  refine upgraded_of_fresh ?_
  show mergeData live.data release.data known = _
  rw [hrelease]
  refine mergeData_eq_fresh ?_
  rw [overlay?, if_neg (fun h => h hblank)]
  exact hmigrated

/-- What happens to an install that nobody touches: upgrades and edits of other keys than the file and the overlay,
with the files that were generated, the latest last. The first release knows the file that it finds, unless that is
blank or absent, and each later one knows all files that were generated before it. -/
inductive Releases (start : ConfigMap) : List String → ConfigMap → Prop
  | start : Releases start [] start
  | edit {files : List String} {live after : ConfigMap} (before : Releases start files live)
      (hbase : value? after baseKey = value? live baseKey)
      (hoverlay : value? after overlayKey = value? live overlayKey) : Releases start files after
  | upgrade {files : List String} {live release : ConfigMap} {generated : String} (known : List String)
      (before : Releases start files live) (hrelease : release.data = some (freshData generated))
      (hfirst : files = [] → ∀ text, value? start baseKey = some text → trim text.toList = [] ∨ IsKnown known text)
      (hearlier : ∀ file ∈ files, IsKnown known file) :
      Releases start (files ++ [generated]) (upgraded live release known)

/-- The overlay is as it was at the start, and the file is the last that was generated. -/
theorem Releases.values_eq {files : List String} (hoverlay : NoOverlay start) (h : Releases start files now) :
    value? now overlayKey = value? start overlayKey ∧
      value? now baseKey = files.getLast?.or (value? start baseKey) := by
  induction h with
  | start => exact ⟨rfl, rfl⟩
  | edit _ hbase hkept ih => exact ⟨hkept.trans ih.1, hbase.trans ih.2⟩
  | @upgrade files live release generated known _ hrelease hfirst hearlier ih =>
    obtain ⟨hover, hfile⟩ := ih
    have hlive : NoOverlay live := fun text htext => hoverlay text (hover.symm.trans htext)
    -- the release finds the file of the one before it, or the file of the start
    have hbase : ∀ text, value? live baseKey = some text → trim text.toList = [] ∨ IsKnown known text := by
      intro text htext
      rw [hfile] at htext
      cases hlast : files.getLast? with
      | none =>
        rw [hlast] at htext
        exact hfirst (List.getLast?_eq_none_iff.1 hlast) text htext
      | some file =>
        rw [hlast] at htext
        obtain rfl := Option.some.inj htext
        exact .inr (hearlier file (List.mem_of_getLast? hlast))
    obtain ⟨hover', hfile'⟩ := upgraded_of_untouched hrelease hlive hbase
    refine ⟨hover'.trans hover, ?_⟩
    rw [hfile', List.getLast?_concat]
    rfl

/-- An install that nobody touches follows the releases: after each upgrade, and until the next one, the file is exactly
the one that was generated, and the overlay is as it was at the start. -/
theorem untouched_follows_releases {earlier : List String} {file : String} (hoverlay : NoOverlay start)
    (hrun : Releases start (earlier ++ [file]) now) :
    value? now baseKey = some file ∧ value? now overlayKey = value? start overlayKey := by
  obtain ⟨hover, hbase⟩ := hrun.values_eq hoverlay
  rw [List.getLast?_concat] at hbase
  exact ⟨hbase, hover⟩

/-- An install of an earlier release, whose overlay is blank. -/
def priorLive : ConfigMap :=
  { data := some (.ofList [(baseKey, "\nssl = 'on'\n"), (overlayKey, " \t"), ("note", "mine")]) }

/-- Upgraded by two releases, it has the file of the second one and the blank overlay. -/
theorem untouched_follows_releases_priorLive :
    let second : ConfigMap := { data := some (freshData "max_connections = 300\n") }
    let once := upgraded priorLive sampleRelease ["ssl = 'on'"]
    let twice := upgraded once second ["ssl = 'on'\nmax_connections = 200"]
    value? twice baseKey = some "max_connections = 300\n" ∧ value? twice overlayKey = some " \t" := by
  intro second once twice
  have hbase : value? priorLive baseKey = some "\nssl = 'on'\n" := by decide +kernel
  have hblank : value? priorLive overlayKey = some " \t" := by decide +kernel
  have hprior : IsKnown ["ssl = 'on'"] "\nssl = 'on'\n" := ⟨_, List.mem_cons_self, by decide +kernel⟩
  have honce : Releases priorLive ([] ++ ["ssl = 'on'\nmax_connections = 200\n"]) once :=
    .upgrade _ .start rfl (fun _ text htext => .inr (Option.some.inj (hbase.symm.trans htext) ▸ hprior))
      fun _ hfile => absurd hfile List.not_mem_nil
  have htwice : Releases priorLive (["ssl = 'on'\nmax_connections = 200\n"] ++ ["max_connections = 300\n"]) twice :=
    .upgrade _ honce rfl (fun h => nomatch h) fun file hfile => by
      obtain rfl := List.mem_singleton.1 hfile
      exact ⟨_, List.mem_cons_self, by decide +kernel⟩
  rw [← hblank]
  refine untouched_follows_releases (fun text htext => ?_) htwice
  obtain rfl := Option.some.inj (hblank.symm.trans htext)
  decide +kernel

end HubSearch.DatabaseConfig
