/-
Maps with text keys, kept in ascending order of the keys. `Entries` are the pairs as a list, with
insertion in order; `Dict` adds the proof that the list is strictly ascending. The interface is
`get?`: what it answers after `insert` and `erase`, and that it determines the map.
-/

namespace HubSearch

/-- Key-value pairs; the operations below keep them in strictly ascending order of the keys. -/
abbrev Entries (α : Type) := List (String × α)

namespace Entries

variable {α β : Type}

/-- Keys strictly ascend. -/
def Ascending (es : Entries α) : Prop := es.Pairwise fun a b => a.1 < b.1

instance (es : Entries α) : Decidable es.Ascending := by unfold Ascending; infer_instance

/-- Set `key` to `value`, in place when the key is there and in order when it is new. -/
def insert (key : String) (value : α) : Entries α → Entries α
  | [] => [(key, value)]
  | (k, v) :: rest =>
    if key < k then (key, value) :: (k, v) :: rest
    else if key = k then (key, value) :: rest
    else (k, v) :: insert key value rest

/-- The pairs without those of `key`. -/
def erase (key : String) (es : Entries α) : Entries α := es.filter fun e => e.1 ≠ key

/-- Insert pairs one after the other, so the last value of a key counts. -/
def insertAll (es : Entries α) (more : List (String × α)) : Entries α :=
  more.foldl (fun acc e => insert e.1 e.2 acc) es

theorem mem_insert {key : String} {value : α} {e : String × α} :
    ∀ {es : Entries α}, e ∈ insert key value es → e = (key, value) ∨ e ∈ es
  | [], h => .inl (List.mem_singleton.1 h)
  | (k, v) :: rest, h => by
    unfold insert at h
    split at h
    · rcases List.mem_cons.1 h with rfl | h
      · exact .inl rfl
      · exact .inr h
    · split at h
      · rcases List.mem_cons.1 h with rfl | h
        · exact .inl rfl
        · exact .inr (List.mem_cons_of_mem _ h)
      · rcases List.mem_cons.1 h with rfl | h
        · exact .inr List.mem_cons_self
        · exact (mem_insert h).imp_right (List.mem_cons_of_mem _)

theorem ascending_insert (key : String) (value : α) :
    ∀ {es : Entries α}, es.Ascending → (insert key value es).Ascending
  | [], _ => by simp [insert, Ascending]
  | (k, v) :: rest, h => by
    have hr : ∀ e ∈ rest, k < e.1 := (List.pairwise_cons.1 h).1
    have ht : Ascending rest := (List.pairwise_cons.1 h).2
    unfold insert
    split
    · rename_i hk
      refine List.pairwise_cons.2 ⟨fun e he => ?_, h⟩
      rcases List.mem_cons.1 he with rfl | he
      · exact hk
      · exact String.lt_trans hk (hr e he)
    · rename_i hk
      split
      · rename_i he
        subst he
        exact List.pairwise_cons.2 ⟨hr, ht⟩
      · rename_i hne
        refine List.pairwise_cons.2 ⟨fun e he => ?_, ascending_insert key value ht⟩
        rcases mem_insert he with rfl | h'
        · show k < key
          refine Decidable.byContradiction fun hlt => hne ?_
          exact String.le_antisymm (String.not_lt.1 hlt) (String.not_lt.1 hk)
        · exact hr e h'

theorem ascending_insertAll (es : Entries α) (h : es.Ascending) (more : List (String × α)) :
    (insertAll es more).Ascending := by
  induction more generalizing es with
  | nil => exact h
  | cons e rest ih => exact ih _ (ascending_insert e.1 e.2 h)

theorem lookup_insert_self (key : String) (value : α) :
    ∀ es : Entries α, (insert key value es).lookup key = some value
  | [] => by simp [insert]
  | (k, v) :: rest => by
    unfold insert
    split
    · simp
    · split
      · simp
      · rename_i hne
        have : (key == k) = false := by simpa using hne
        simp [List.lookup_cons, this, lookup_insert_self key value rest]

theorem lookup_insert_of_ne {key key' : String} (value : α) (hne : key' ≠ key) :
    ∀ es : Entries α, (insert key value es).lookup key' = es.lookup key'
  | [] => by
    have : (key' == key) = false := by simpa using hne
    simp [insert, List.lookup_cons, this]
  | (k, v) :: rest => by
    have h : (key' == key) = false := by simpa using hne
    unfold insert
    split
    · simp [List.lookup_cons, h]
    · split
      · rename_i he
        subst he
        simp [List.lookup_cons, h]
      · simp [List.lookup_cons, lookup_insert_of_ne value hne rest]

theorem lookup_erase_self (key : String) :
    ∀ es : Entries α, (erase key es).lookup key = none
  | [] => rfl
  | (k, v) :: rest => by
    by_cases h : k = key
    · have he : erase key ((k, v) :: rest) = erase key rest := by simp [erase, h]
      rw [he, lookup_erase_self key rest]
    · have he : erase key ((k, v) :: rest) = (k, v) :: erase key rest := by simp [erase, h]
      have hk : (key == k) = false := by simpa using fun hc : key = k => h hc.symm
      rw [he, List.lookup_cons, hk, lookup_erase_self key rest]

theorem lookup_erase_of_ne {key key' : String} (hne : key' ≠ key) :
    ∀ es : Entries α, (erase key es).lookup key' = es.lookup key'
  | [] => rfl
  | (k, v) :: rest => by
    by_cases h : k = key
    · have he : erase key ((k, v) :: rest) = erase key rest := by simp [erase, h]
      have hk : (key' == k) = false := by rw [h]; simpa using hne
      rw [he, List.lookup_cons, hk, lookup_erase_of_ne hne rest]
    · have he : erase key ((k, v) :: rest) = (k, v) :: erase key rest := by simp [erase, h]
      rw [he, List.lookup_cons, List.lookup_cons, lookup_erase_of_ne hne rest]

end Entries

/-- A map with text keys in ascending order. -/
structure Dict (α : Type) where
  /-- The pairs, ascending by key. -/
  entries : Entries α
  ascending : entries.Ascending

namespace Dict

variable {α β : Type}

@[ext]
theorem ext_entries {d e : Dict α} (h : d.entries = e.entries) : d = e := by
  cases d; cases e; cases h; rfl

instance [DecidableEq α] : DecidableEq (Dict α) := fun d e =>
  decidable_of_iff (d.entries = e.entries) ⟨ext_entries, fun h => h ▸ rfl⟩

/-- The map without keys. -/
def empty : Dict α := ⟨[], List.Pairwise.nil⟩

instance : EmptyCollection (Dict α) := ⟨empty⟩

instance : Inhabited (Dict α) := ⟨empty⟩

/-- The value of a key. -/
def get? (d : Dict α) (key : String) : Option α := d.entries.lookup key

/-- Set a key. -/
def insert (d : Dict α) (key : String) (value : α) : Dict α :=
  ⟨Entries.insert key value d.entries, Entries.ascending_insert key value d.ascending⟩

/-- Remove a key. -/
def erase (d : Dict α) (key : String) : Dict α :=
  ⟨Entries.erase key d.entries, List.Pairwise.filter _ d.ascending⟩

/-- Insert pairs one after the other. -/
def insertAll (d : Dict α) (more : List (String × α)) : Dict α :=
  ⟨Entries.insertAll d.entries more, Entries.ascending_insertAll _ d.ascending more⟩

/-- The map of a list of pairs, in which the last value of a key counts. -/
def ofList (es : List (String × α)) : Dict α := empty.insertAll es

/-- The pairs in ascending order of the keys. -/
def toList (d : Dict α) : List (String × α) := d.entries

/-- The keys in ascending order. -/
def keys (d : Dict α) : List String := d.entries.map (·.1)

/-- The values in ascending order of their keys. -/
def values (d : Dict α) : List α := d.entries.map (·.2)

/-- The number of keys. -/
def size (d : Dict α) : Nat := d.entries.length

/-- No key is there. -/
def isEmpty (d : Dict α) : Bool := d.entries.isEmpty

/-- Whether a key is there. -/
def contains (d : Dict α) (key : String) : Bool := (d.get? key).isSome

@[simp]
theorem get?_empty (key : String) : (empty : Dict α).get? key = none := rfl

@[simp]
theorem get?_insert_self (d : Dict α) (key : String) (value : α) :
    (d.insert key value).get? key = some value :=
  Entries.lookup_insert_self key value d.entries

theorem get?_insert_of_ne (d : Dict α) {key key' : String} (value : α) (h : key' ≠ key) :
    (d.insert key value).get? key' = d.get? key' :=
  Entries.lookup_insert_of_ne value h d.entries

@[simp]
theorem get?_erase_self (d : Dict α) (key : String) : (d.erase key).get? key = none :=
  Entries.lookup_erase_self key d.entries

theorem get?_erase_of_ne (d : Dict α) {key key' : String} (h : key' ≠ key) :
    (d.erase key).get? key' = d.get? key' :=
  Entries.lookup_erase_of_ne h d.entries

end Dict

end HubSearch
