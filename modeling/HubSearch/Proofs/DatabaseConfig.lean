/-
The merged database configuration is a fixpoint: merging the fresh data with data that a merge has been
written into gives the same merge again. Main statement: `mergeData_written`.
-/
import HubSearch.DatabaseConfig
import HubSearch.Proofs.Dict

namespace HubSearch

theorem trim_ne_nil {cs : List Char} {c : Char} (hc : c ∈ cs) (hb : isBlank c = false) : trim cs ≠ [] := by
  have hkept : ∀ {ds : List Char}, c ∈ ds → c ∈ ds.dropWhile isBlank := by
    intro ds hd
    rw [← List.takeWhile_append_dropWhile (p := isBlank) (l := ds)] at hd
    rcases List.mem_append.1 hd with hd | hd
    · rw [List.all_eq_true.1 List.all_takeWhile c hd] at hb
      cases hb
    · exact hd
  refine List.ne_nil_of_mem (a := c) ?_
  exact List.mem_reverse.2 (hkept (List.mem_reverse.2 (hkept hc)))

namespace DatabaseConfig

/-! ## Overlays -/

theorem migrated?_generated (generated : List Char) (known : List (List Char)) :
    migrated? generated generated known = none := by
  unfold migrated?
  simp

theorem mark_mem_migrationHeader : '#' ∈ migrationHeader := by decide +kernel

theorem trim_migrated_ne_nil {base generated ov : List Char} {known : List (List Char)}
    (h : migrated? base generated known = some ov) : trim ov ≠ [] := by
  simp only [migrated?] at h
  split at h
  · cases h
  · split at h
    · cases h
    · obtain rfl := Option.some.inj h
      exact trim_ne_nil (List.mem_append_left _ (List.mem_append_left _ mark_mem_migrationHeader)) (by decide)

theorem trim_overlay_ne_nil {overlay base generated ov : List Char} {known : List (List Char)}
    (h : overlay? overlay base generated known = some ov) : trim ov ≠ [] := by
  unfold overlay? at h
  split at h
  · rename_i hne
    obtain rfl := Option.some.inj h
    exact hne
  · exact trim_migrated_ne_nil h

theorem overlay?_self {overlay base generated : List Char} {known : List (List Char)} (h : trim overlay ≠ []) :
    overlay? overlay base generated known = some overlay := if_pos h

/-! ## Data -/

variable {live after : Option (Dict String)} {generated : String} {known : List String}

theorem textAt_freshData : textAt (some (freshData generated)) baseKey = generated.toList := by
  simp [textAt, freshData, Dict.ofList, Dict.insertAll, Entries.insertAll, Dict.get?, Dict.empty, Entries.insert]

theorem get?_freshData_overlayKey : (freshData generated).get? overlayKey = none := by
  simp [freshData, Dict.ofList, Dict.insertAll, Entries.insertAll, Dict.get?, Dict.empty, Entries.insert,
    List.lookup_cons, baseKey, overlayKey]

theorem mergeData_eq_of_overlay? {ov : List Char} (h : overlay? (textAt live overlayKey) (textAt live baseKey)
      generated.toList (known.map String.toList) = some ov) :
    mergeData live (some (freshData generated)) known =
      some (((freshData generated).insert baseKey (String.ofList (combined generated.toList ov))).insert overlayKey
        (String.ofList ov)) := by
  simp only [mergeData, textAt_freshData, h, Option.getD_some]

theorem mergeData_eq_fresh (h : overlay? (textAt live overlayKey) (textAt live baseKey)
      generated.toList (known.map String.toList) = none) :
    mergeData live (some (freshData generated)) known = some (freshData generated) := by
  simp only [mergeData, textAt_freshData, h]

/-- Without live data there is nothing to merge. -/
theorem mergeData_none : mergeData none (some (freshData generated)) known = some (freshData generated) := by
  refine mergeData_eq_fresh ?_
  simp [textAt, overlay?, migrated?, trim, trimEnd, trimStart]

/-- Merging with data that the merge has been written into, every other key being as before, gives the same
merge again. -/
theorem mergeData_written
    (h : ∀ key, after.bind (·.get? key) =
      ((mergeData live (some (freshData generated)) known).bind (·.get? key)).or (live.bind (·.get? key))) :
    mergeData after (some (freshData generated)) known = mergeData live (some (freshData generated)) known := by
  cases ho : overlay? (textAt live overlayKey) (textAt live baseKey) generated.toList (known.map String.toList) with
  | none =>
    rw [mergeData_eq_fresh ho] at h ⊢
    -- the file is the generated one now, of which nothing has to be moved
    have hbase : textAt after baseKey = generated.toList := by
      have hget : (freshData generated).get? baseKey = some generated := by
        simp [freshData, Dict.ofList, Dict.insertAll, Entries.insertAll, Dict.get?, Dict.empty, Entries.insert]
      rw [textAt, h, Option.bind_some, hget]
      rfl
    have hoverlay : textAt after overlayKey = textAt live overlayKey := by
      rw [textAt, h, Option.bind_some, get?_freshData_overlayKey]
      rfl
    refine mergeData_eq_fresh ?_
    rw [hbase, hoverlay]
    unfold overlay? at ho ⊢
    split at ho
    · cases ho
    · rename_i hblank
      rw [if_neg hblank]
      exact migrated?_generated _ _
  | some ov =>
    rw [mergeData_eq_of_overlay? ho] at h ⊢
    -- the overlay is found again where it was written, and it is not blank, so it is taken as it is
    have hoverlay : textAt after overlayKey = ov := by
      rw [textAt, h, Option.bind_some, Dict.get?_insert_self]
      simp
    refine mergeData_eq_of_overlay? ?_
    rw [hoverlay]
    exact overlay?_self (trim_overlay_ne_nil ho)

end DatabaseConfig

end HubSearch
