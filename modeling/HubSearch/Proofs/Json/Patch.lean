/-
What a merge patch leaves under each key. Main statement: `lookup_mergeFields`.
-/
import HubSearch.Json.Patch
import HubSearch.Proofs.Dict

namespace HubSearch.Json

theorem ascending_mergeFields : ∀ {changes fields : List (String × Json)}, Entries.Ascending fields →
    Entries.Ascending (mergeFields fields changes)
  | [], _, h => h
  | (key, change) :: rest, fields, h => by
    unfold mergeFields
    split
    · exact ascending_mergeFields (List.Pairwise.filter _ h)
    · exact ascending_mergeFields (Entries.ascending_insert _ _ h)

/-- What a key has after a change to it: `null` removes it, everything else is merged into it. -/
def changed (old : Option Json) (change : Json) : Option Json :=
  if change = .null then none else some (merge (old.getD .null) change)

theorem lookup_mergeFields_of_not_mem {key : String} : ∀ {changes : List (String × Json)}
    (fields : List (String × Json)), key ∉ changes.map (·.1) →
    (mergeFields fields changes).lookup key = fields.lookup key
  | [], _, _ => rfl
  | (k, change) :: rest, fields, h => by
    rw [List.map_cons, List.mem_cons, not_or] at h
    unfold mergeFields
    split
    · rw [lookup_mergeFields_of_not_mem _ h.2, Entries.lookup_erase_of_ne h.1]
    · rw [lookup_mergeFields_of_not_mem _ h.2, Entries.lookup_insert_of_ne _ h.1]

/-- A key that a patch changes once is changed as the patch says. -/
theorem lookup_mergeFields {key : String} {change : Json} : ∀ {changes : List (String × Json)}
    (fields : List (String × Json)), (changes.map (·.1)).Nodup → (key, change) ∈ changes →
    (mergeFields fields changes).lookup key = changed (fields.lookup key) change
  | (k, c) :: rest, fields, hn, h => by
    rw [List.map_cons, List.nodup_cons] at hn
    rcases List.mem_cons.1 h with heq | hm
    · obtain ⟨rfl, rfl⟩ := Prod.mk.inj heq
      unfold mergeFields changed
      split
      · rw [lookup_mergeFields_of_not_mem _ hn.1, Entries.lookup_erase_self]
      · rw [lookup_mergeFields_of_not_mem _ hn.1, Entries.lookup_insert_self]
    · have hk : key ≠ k := by
        rintro rfl
        exact hn.1 (List.mem_map.2 ⟨_, hm, rfl⟩)
      unfold mergeFields
      split
      · rw [lookup_mergeFields _ hn.2 hm, Entries.lookup_erase_of_ne hk]
      · rw [lookup_mergeFields _ hn.2 hm, Entries.lookup_insert_of_ne _ hk]

end HubSearch.Json
