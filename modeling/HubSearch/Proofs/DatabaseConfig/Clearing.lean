/-
An overlay that is cleared. The file still has the overlay's lines, so the next upgrade moves them back into a new
overlay, but for those that some release has generated by then. Main statement: `cleared_overlay_returns`.
-/
import HubSearch.Proofs.DatabaseConfig.Migration

namespace HubSearch.DatabaseConfig

variable {live release edited next : ConfigMap} {generated nextGenerated overlay : String}
  {known nextKnown : List String} {own : List (List Char)}

/-! ## The file after an upgrade -/

theorem value?_upgraded_upgraded (hrelease : release.data = some (freshData generated)) (key : String) :
    value? (upgraded (upgraded live release known) release known) key = value? (upgraded live release known) key := by
  rw [value?_upgraded, merge_upgraded hrelease, value?_upgraded]
  cases (merge live release known).data.bind (·.get? key) <;> rfl

/-- An upgrade after which there is an overlay has written the file from the generated one and this overlay. -/
theorem written_of_upgraded (hrelease : release.data = some (freshData generated))
    (hoverlay : value? (upgraded live release known) overlayKey = some overlay) (hset : trim overlay.toList ≠ []) :
    value? (upgraded live release known) baseKey = some (written generated overlay) := by
  -- made again, the upgrade finds the overlay and changes nothing
  rw [← value?_upgraded_upgraded hrelease]
  exact (upgraded_of_overlay known hrelease hoverlay hset).2

/-! ## Own lines of a combined file -/

/-- Lines that are not own lines and stand in front do not change the list of own lines. -/
theorem ListsOwn.of_append {file front rest generated : List Char} (h : ListsOwn rest generated known own)
    (hfile : settingLines file = settingLines front ++ settingLines rest)
    (hfront : ∀ line ∈ settingLines front, ¬ IsOwn generated known line) : ListsOwn file generated known own := by
  constructor
  · intro line
    rw [h.mem_iff, hfile, List.mem_append]
    constructor
    · rintro ⟨hline, hown⟩
      exact ⟨.inr hline, hown⟩
    · rintro ⟨hline | hline, hown⟩
      · exact absurd hown (hfront line hline)
      · exact ⟨hline, hown⟩
  · have hapart : ∀ line ∈ own, line ∉ settingLines front := fun line hline hmem =>
      hfront line hmem ((h.mem_iff line).1 hline).2
    refine h.ordered.imp_of_mem fun {a b} ha hb hab => ?_
    rw [hfile, List.idxOf_append_of_notMem (hapart a ha), List.idxOf_append_of_notMem (hapart b hb)]
    omega

/-- Where a later release knows all lines of a generated file, the own lines of the file that was combined from it and an
overlay are the own lines of the overlay. -/
theorem ListsOwn.of_combined {prior overlay generated : List Char} (h : ListsOwn overlay generated known own)
    (hprior : ∀ line ∈ settingLines prior, ¬ IsOwn generated known line) :
    ListsOwn (combined prior overlay) generated known own := by
  unfold combined
  dsimp only
  split
  · rename_i hcovered
    -- the overlay was not appended, but then it has no line that the later release does not know
    obtain rfl := h.eq_nil_of_forall fun line hline => hprior line (mem_of_isCovered_trim hcovered hline)
    refine ⟨fun line => ?_, .nil⟩
    exact ⟨fun hline => absurd hline List.not_mem_nil, fun ⟨hline, hown⟩ => absurd hown (hprior line hline)⟩
  · exact h.of_append (settingLines_append_trim prior overlay) hprior

/-! ## The next upgrade -/

theorem upgraded_of_no_own (hnext : next.data = some (freshData nextGenerated)) (hcleared : NoOverlay edited)
    (h : ListsOwn (textAt edited.data baseKey) nextGenerated.toList nextKnown []) :
    value? (upgraded edited next nextKnown) overlayKey = value? edited overlayKey ∧
      value? (upgraded edited next nextKnown) baseKey = some nextGenerated := by
  have hgenerated : textAt next.data baseKey = nextGenerated.toList := hnext ▸ textAt_freshData
  refine upgraded_of_fresh ?_
  rw [merge_of_no_own hcleared (hgenerated ▸ h), hnext]

theorem upgraded_of_own (hnext : next.data = some (freshData nextGenerated)) (hcleared : NoOverlay edited)
    (h : ListsOwn (textAt edited.data baseKey) nextGenerated.toList nextKnown own) (hne : own ≠ []) :
    value? (upgraded edited next nextKnown) overlayKey = some (String.ofList (endedLines (migrationHeader :: own))) ∧
      value? (upgraded edited next nextKnown) baseKey =
        some (String.ofList (trimEnd nextGenerated.toList ++ '\n' :: endedLines (migrationHeader :: own))) := by
  have hgenerated : textAt next.data baseKey = nextGenerated.toList := hnext ▸ textAt_freshData
  rw [← hgenerated] at h ⊢
  obtain ⟨hkey, hfile, -⟩ := value?_merge_of_own hcleared h hne
  exact ⟨value?_upgraded_of_some hkey, value?_upgraded_of_some hfile⟩

/-- An overlay that is set after an upgrade is cleared, and the next release knows all lines that the last one has
generated. If it knows all lines of the overlay as well, the file becomes the generated one and the overlay stays as it
was cleared. Otherwise the lines of the overlay that it does not know come back, each once, as a new overlay that is also
appended to the generated file. -/
theorem cleared_overlay_returns (hrelease : release.data = some (freshData generated))
    (hoverlay : value? (upgraded live release known) overlayKey = some overlay) (hset : trim overlay.toList ≠ [])
    (hcleared : NoOverlay edited) (hkept : value? edited baseKey = value? (upgraded live release known) baseKey)
    (hnext : next.data = some (freshData nextGenerated))
    (hknown : ∀ line ∈ settingLines generated.toList,
      line ∈ trimmedLines nextGenerated.toList ∨ ∃ t ∈ nextKnown, line ∈ trimmedLines t.toList)
    (hown : ListsOwn overlay.toList nextGenerated.toList nextKnown own) :
    (own = [] → value? (upgraded edited next nextKnown) overlayKey = value? edited overlayKey ∧
      value? (upgraded edited next nextKnown) baseKey = some nextGenerated) ∧
    (own ≠ [] →
      value? (upgraded edited next nextKnown) overlayKey = some (String.ofList (endedLines (migrationHeader :: own))) ∧
      value? (upgraded edited next nextKnown) baseKey =
        some (String.ofList (trimEnd nextGenerated.toList ++ '\n' :: endedLines (migrationHeader :: own)))) := by
  have hbase : textAt edited.data baseKey = combined generated.toList overlay.toList := by
    rw [textAt_of_value? (hkept.trans (written_of_upgraded hrelease hoverlay hset)), ← ofList_combined,
      String.toList_ofList]
  have hprior : ∀ line ∈ settingLines generated.toList, ¬ IsOwn nextGenerated.toList nextKnown line := by
    intro line hline h
    rcases hknown line hline with hgenerated | ⟨t, ht, hold⟩
    · exact h.not_generated hgenerated
    · exact h.not_known t ht hold
  have hfile : ListsOwn (textAt edited.data baseKey) nextGenerated.toList nextKnown own :=
    hbase ▸ hown.of_combined hprior
  constructor
  · rintro rfl
    exact upgraded_of_no_own hnext hcleared hfile
  · exact upgraded_of_own hnext hcleared hfile

/-- An overlay that has a generated line, a line twice and other line ends. -/
def overlaid : String :=
  "ssl = 'on'\r\n  work_mem = '64MB'\nmax_connections = 300\n\nport = 5433\nwork_mem = '64MB'\n"

/-- A live ConfigMap with this overlay. -/
def overlaidLive : ConfigMap := { data := some (.ofList [(overlayKey, overlaid)]) }

/-- The same ConfigMap after an upgrade, with the overlay blanked. -/
def clearedLive : ConfigMap :=
  { data := (upgraded overlaidLive sampleRelease []).data.map (·.insert overlayKey " \n") }

/-- The release after that generates one line of the overlay. Two others come back, each once. -/
theorem cleared_overlay_returns_clearedLive :
    let next : ConfigMap := { data := some (freshData "ssl = 'on'\nmax_connections = 300\n") }
    value? (upgraded clearedLive next ["max_connections = 200"]) overlayKey =
        some "# Custom configuration migrated from postgresql.conf\nwork_mem = '64MB'\nport = 5433\n" ∧
      value? (upgraded clearedLive next ["max_connections = 200"]) baseKey =
        some ("ssl = 'on'\nmax_connections = 300\n# Custom configuration migrated from postgresql.conf\n" ++
          "work_mem = '64MB'\nport = 5433\n") := by
  intro next
  have hrelease : sampleRelease.data = some (freshData "ssl = 'on'\nmax_connections = 200\n") := rfl
  have hnext : next.data = some (freshData "ssl = 'on'\nmax_connections = 300\n") := rfl
  have hset : trim overlaid.toList ≠ [] := by decide +kernel
  have hoverlay : value? (upgraded overlaidLive sampleRelease []) overlayKey = some overlaid :=
    (upgraded_of_overlay [] hrelease (by decide +kernel) hset).1
  have hcleared : NoOverlay clearedLive := by decide +kernel
  have hkept : value? clearedLive baseKey = value? (upgraded overlaidLive sampleRelease []) baseKey := by
    unfold clearedLive value?
    cases (upgraded overlaidLive sampleRelease []).data with
    | none => rfl
    | some data => exact Dict.get?_insert_of_ne data " \n" (by decide)
  have hknown : ∀ line ∈ settingLines "ssl = 'on'\nmax_connections = 200\n".toList,
      line ∈ trimmedLines "ssl = 'on'\nmax_connections = 300\n".toList ∨
        ∃ t ∈ ["max_connections = 200"], line ∈ trimmedLines t.toList := by decide +kernel
  have hown := listsOwn_ownLines overlaid.toList "ssl = 'on'\nmax_connections = 300\n".toList ["max_connections = 200"]
  obtain ⟨hkey, hfile⟩ :=
    (cleared_overlay_returns hrelease hoverlay hset hcleared hkept hnext hknown hown).2 (by decide +kernel)
  exact ⟨hkey.trans (by decide +kernel), hfile.trans (by decide +kernel)⟩

end HubSearch.DatabaseConfig
