/-
Laws of maps with text keys: a pair is among the pairs exactly when its key has its value, a map is
determined by its values, and what a key has after many insertions.
-/
import HubSearch.Dict

namespace HubSearch

variable {α : Type}

namespace Entries

/-! ## Pairs and values -/

theorem Ascending.nodup_keys {es : Entries α} (h : es.Ascending) : (es.map (·.1)).Nodup := by
  refine List.pairwise_map.2 (List.Pairwise.imp (fun {a b} hab heq => ?_) h)
  rw [heq] at hab
  exact String.lt_irrefl _ hab

theorem Ascending.nodup {es : Entries α} (h : es.Ascending) : es.Nodup :=
  (List.pairwise_map.1 h.nodup_keys).imp fun hab heq => hab (congrArg (·.1) heq)

theorem lookup_eq_none : ∀ {es : Entries α} {key : String}, key ∉ es.map (·.1) → es.lookup key = none
  | [], _, _ => rfl
  | (k, v) :: rest, key, h => by
    rw [List.map_cons, List.mem_cons, not_or] at h
    rw [List.lookup_cons, beq_false_of_ne h.1, lookup_eq_none h.2]

theorem mem_of_lookup : ∀ {es : Entries α} {key : String} {value : α}, es.lookup key = some value →
    (key, value) ∈ es
  | (k, v) :: rest, key, value, h => by
    by_cases hk : key = k
    · subst hk
      rw [List.lookup_cons, beq_self_eq_true] at h
      rw [Option.some.inj h]
      exact List.mem_cons_self
    · rw [List.lookup_cons, beq_false_of_ne hk] at h
      exact List.mem_cons_of_mem _ (mem_of_lookup h)

theorem lookup_of_mem : ∀ {es : Entries α} {key : String} {value : α}, (es.map (·.1)).Nodup →
    (key, value) ∈ es → es.lookup key = some value
  | (k, v) :: rest, key, value, hn, h => by
    rw [List.map_cons, List.nodup_cons] at hn
    rcases List.mem_cons.1 h with heq | hm
    · obtain ⟨rfl, rfl⟩ := Prod.mk.inj heq
      rw [List.lookup_cons, beq_self_eq_true]
    · have hk : key ≠ k := by
        rintro rfl
        exact hn.1 (List.mem_map.2 ⟨_, hm, rfl⟩)
      rw [List.lookup_cons, beq_false_of_ne hk, lookup_of_mem hn.2 hm]

/-! ## Many insertions -/

theorem mem_insertAll {e : String × α} : ∀ {more : List (String × α)} {es : Entries α}, e ∈ es.insertAll more →
    e ∈ es ∨ e ∈ more
  | [], _, h => .inl h
  | (k, v) :: rest, es, h => by
    have hrest : e ∈ (es.insert k v).insertAll rest := h
    rcases mem_insertAll hrest with h | h
    · rcases mem_insert h with rfl | h
      · exact .inr List.mem_cons_self
      · exact .inl h
    · exact .inr (List.mem_cons_of_mem _ h)

theorem lookup_insertAll_of_not_mem {key : String} : ∀ {more : List (String × α)} (es : Entries α),
    key ∉ more.map (·.1) → (insertAll es more).lookup key = es.lookup key
  | [], _, _ => rfl
  | (k, v) :: rest, es, h => by
    rw [List.map_cons, List.mem_cons, not_or] at h
    show (insertAll (insert k v es) rest).lookup key = _
    rw [lookup_insertAll_of_not_mem _ h.2, lookup_insert_of_ne v h.1]

/-- A key that is inserted once has the value that is inserted. -/
theorem lookup_insertAll_of_mem {key : String} {value : α} : ∀ {more : List (String × α)} (es : Entries α),
    (more.map (·.1)).Nodup → (key, value) ∈ more → (insertAll es more).lookup key = some value
  | (k, v) :: rest, es, hn, h => by
    rw [List.map_cons, List.nodup_cons] at hn
    show (insertAll (insert k v es) rest).lookup key = _
    rcases List.mem_cons.1 h with h | h
    · obtain ⟨rfl, rfl⟩ := Prod.mk.inj h
      rw [lookup_insertAll_of_not_mem _ hn.1, lookup_insert_self]
    · exact lookup_insertAll_of_mem _ hn.2 h

theorem lookup_insertAll {key : String} {more : List (String × α)} (es : Entries α)
    (hn : (more.map (·.1)).Nodup) :
    (insertAll es more).lookup key = (more.lookup key).or (es.lookup key) := by
  cases h : more.lookup key with
  | some value => rw [lookup_insertAll_of_mem es hn (mem_of_lookup h), Option.some_or]
  | none =>
    rw [Option.none_or]
    refine lookup_insertAll_of_not_mem es fun hm => ?_
    obtain ⟨⟨k, v⟩, hkv, rfl⟩ := List.mem_map.1 hm
    rw [lookup_of_mem hn hkv] at h
    cases h

/-- Of the pairs with different keys those are inserted that `p` picks; the others are as before. -/
theorem lookup_insertAll_filter (es : Entries α) {more : List (String × α)} (hn : (more.map (·.1)).Nodup)
    (p : String × α → Bool) {key : String} {value : α} (hm : (key, value) ∈ more) :
    (insertAll es (more.filter p)).lookup key = if p (key, value) then some value else es.lookup key := by
  have hnf : ((more.filter p).map (·.1)).Nodup := hn.sublist (List.filter_sublist.map _)
  split
  · rename_i hp
    exact lookup_insertAll_of_mem es hnf (List.mem_filter.2 ⟨hm, hp⟩)
  · rename_i hp
    refine lookup_insertAll_of_not_mem es fun hk => ?_
    obtain ⟨⟨k, v⟩, hkv, rfl⟩ := List.mem_map.1 hk
    obtain ⟨hkv, hpv⟩ := List.mem_filter.1 hkv
    have hv := (lookup_of_mem hn hkv).symm.trans (lookup_of_mem hn hm)
    exact hp (Option.some.inj hv ▸ hpv)

end Entries

namespace Dict

theorem mem_toList_iff {d : Dict α} {key : String} {value : α} :
    (key, value) ∈ d.toList ↔ d.get? key = some value :=
  ⟨Entries.lookup_of_mem d.ascending.nodup_keys, Entries.mem_of_lookup⟩

theorem mem_values_iff {d : Dict α} {value : α} : value ∈ d.values ↔ ∃ key, d.get? key = some value := by
  rw [values, List.mem_map]
  constructor
  · rintro ⟨⟨key, value⟩, hmem, rfl⟩
    exact ⟨key, mem_toList_iff.1 hmem⟩
  · rintro ⟨key, hkey⟩
    exact ⟨(key, value), mem_toList_iff.2 hkey, rfl⟩

theorem contains_eq_false_iff {d : Dict α} {key : String} : d.contains key = false ↔ d.get? key = none := by
  rw [contains, Option.isSome_eq_false_iff, Option.isNone_iff_eq_none]

theorem get?_insertAll (d : Dict α) {more : List (String × α)} (hn : (more.map (·.1)).Nodup) (key : String) :
    (d.insertAll more).get? key = (more.lookup key).or (d.get? key) :=
  Entries.lookup_insertAll d.entries hn

/-- A map is determined by the values of its keys. -/
theorem ext_get? {d e : Dict α} (h : ∀ key, d.get? key = e.get? key) : d = e := by
  refine ext_entries (List.Perm.eq_of_pairwise (fun a b _ _ hab hba => ?_) d.ascending e.ascending ?_)
  · exact absurd (String.lt_trans hab hba) (String.lt_irrefl _)
  · refine (List.perm_ext_iff_of_nodup d.ascending.nodup e.ascending.nodup).2 fun ⟨key, value⟩ => ?_
    show (key, value) ∈ d.toList ↔ (key, value) ∈ e.toList
    rw [mem_toList_iff, mem_toList_iff, h]

theorem ofList_entries (d : Dict α) : ofList d.entries = d := by
  refine ext_get? fun key => ?_
  rw [ofList, get?_insertAll _ d.ascending.nodup_keys, get?_empty, Option.or_none]
  rfl

end Dict

end HubSearch
