/-
What the conditions of each type are after one was set or dropped: the type in question has the new
condition, or none, and all other types are as before (`find?_upsert_self`, `find?_upsert_of_ne`,
`find?_remove_self`, `find?_remove_of_ne`). Conditions that agree already are left alone.
-/
import HubSearch.Search.Basic

namespace HubSearch

namespace Condition

/-! ## Agreement -/

theorem agrees_iff {a b : Condition} : a.agrees b = true ↔ a.status = b.status ∧ a.reason = b.reason ∧
    a.message = b.message ∧ a.observedGeneration = b.observedGeneration := by
  simp [agrees, and_assoc]

theorem agrees_self (a : Condition) : a.agrees a = true := agrees_iff.2 ⟨rfl, rfl, rfl, rfl⟩

theorem agrees_trans {a b c : Condition} (hab : a.agrees b = true) (hbc : b.agrees c = true) :
    a.agrees c = true := by
  obtain ⟨h1, h2, h3, h4⟩ := agrees_iff.1 hab
  obtain ⟨h5, h6, h7, h8⟩ := agrees_iff.1 hbc
  exact agrees_iff.2 ⟨h1.trans h5, h2.trans h6, h3.trans h7, h4.trans h8⟩

theorem agrees_replacedBy (old new : Condition) : (old.replacedBy new).agrees new = true :=
  agrees_iff.2 ⟨rfl, rfl, rfl, rfl⟩

/-! ## Setting -/

/-- A condition changes nothing when the first one of its type agrees with it. -/
theorem upsert?_eq_none {new c : Condition} : ∀ {cs : List Condition}, find? new.type cs = some c →
    c.agrees new = true → upsert? new cs = none
  | b :: rest, h, ha => by
    unfold find? at h
    rw [List.find?_cons] at h
    by_cases hb : b.type = new.type
    · rw [decide_eq_true hb] at h
      obtain rfl := Option.some.inj h
      rw [upsert?, if_pos hb, if_pos ha]
    · rw [decide_eq_false hb] at h
      rw [upsert?, if_neg hb, upsert?_eq_none h ha]
      rfl

theorem upsert_cons (new c : Condition) (rest : List Condition) :
    upsert new (c :: rest) = if c.type = new.type then
      (if c.agrees new then c else c.replacedBy new) :: rest else c :: upsert new rest := by
  unfold upsert
  rw [upsert?]
  split
  · split <;> rfl
  · cases upsert? new rest <;> rfl

theorem find?_upsert_self (new : Condition) : ∀ cs : List Condition,
    ∃ c, find? new.type (upsert new cs) = some c ∧ c.agrees new = true
  | [] => ⟨new, by simp [upsert, upsert?, find?], agrees_self new⟩
  | c :: rest => by
    rw [upsert_cons]
    by_cases hc : c.type = new.type
    · rw [if_pos hc]
      split
      · rename_i ha
        exact ⟨c, by simp [find?, hc], ha⟩
      · exact ⟨c.replacedBy new, by simp [find?, replacedBy], agrees_replacedBy c new⟩
    · rw [if_neg hc]
      obtain ⟨d, hd, ha⟩ := find?_upsert_self new rest
      refine ⟨d, ?_, ha⟩
      rw [find?, List.find?_cons, decide_eq_false hc]
      exact hd

theorem find?_upsert_of_ne {new : Condition} {type : String} (h : type ≠ new.type) : ∀ cs : List Condition,
    find? type (upsert new cs) = find? type cs
  | [] => by simp [upsert, upsert?, find?, h.symm]
  | c :: rest => by
    rw [upsert_cons]
    by_cases hc : c.type = new.type
    · have hne : c.type ≠ type := fun heq => h (heq.symm.trans hc)
      rw [if_pos hc]
      split
      · rfl
      · have hr : (c.replacedBy new).type ≠ type := h.symm
        rw [find?, find?, List.find?_cons, List.find?_cons, decide_eq_false hne, decide_eq_false hr]
    · rw [if_neg hc, find?, find?, List.find?_cons, List.find?_cons]
      split
      · rfl
      · exact find?_upsert_of_ne h rest

/-! ## Dropping -/

theorem find?_remove_self (type : String) (cs : List Condition) : find? type (remove type cs) = none := by
  refine List.find?_eq_none.2 fun c hc => ?_
  simpa using (List.mem_filter.1 hc).2

theorem find?_remove_of_ne {type other : String} (h : other ≠ type) : ∀ cs : List Condition,
    find? other (remove type cs) = find? other cs
  | [] => rfl
  | c :: rest => by
    have ih := find?_remove_of_ne h rest
    unfold find? remove at ih ⊢
    by_cases hc : c.type = type
    · have hne : c.type ≠ other := fun heq => h (heq.symm.trans hc)
      rw [List.filter_cons, List.find?_cons, decide_eq_false hne]
      simpa [hc] using ih
    · rw [List.filter_cons, List.find?_cons]
      simp only [hc, ne_eq, not_false_eq_true, decide_true, if_true, List.find?_cons, ih]

theorem remove_remove (type : String) (cs : List Condition) : remove type (remove type cs) = remove type cs := by
  simp [remove]

/-- Setting a condition changes none of another type. -/
theorem remove_upsert (new : Condition) : ∀ cs : List Condition, remove new.type (upsert new cs) = remove new.type cs
  | [] => by simp [upsert, upsert?, remove]
  | c :: rest => by
    rw [upsert_cons]
    by_cases hc : c.type = new.type
    · have hin : (if c.agrees new then c else c.replacedBy new).type = new.type := by
        split
        · exact hc
        · rfl
      simp [remove, hc, hin]
    · have ih := remove_upsert new rest
      unfold remove at ih ⊢
      rw [if_neg hc, List.filter_cons, List.filter_cons, ih]

end Condition

/-! ## Statuses -/

namespace SearchStatus

theorem condition?_upsert_self (s : SearchStatus) (new : Condition) :
    ∃ c, (s.upsert new).1.condition? new.type = some c ∧ c.agrees new = true :=
  Condition.find?_upsert_self new s.conditionList

theorem conditionList_remove (s : SearchStatus) (type : String) :
    (s.remove type).1.conditionList = Condition.remove type s.conditionList := by
  unfold remove conditionList
  cases s.conditions <;> rfl

theorem conditionList_upsert (s : SearchStatus) (new : Condition) :
    (s.upsert new).1.conditionList = new.upsert s.conditionList := rfl

theorem condition?_remove_self (s : SearchStatus) (type : String) : (s.remove type).1.condition? type = none := by
  rw [condition?, conditionList_remove]
  exact Condition.find?_remove_self type s.conditionList

/-- A condition that agrees with the first one of its type leaves the status as it is. -/
theorem upsert_eq_self {s : SearchStatus} {new c : Condition} (hc : s.condition? new.type = some c)
    (ha : c.agrees new = true) : s.upsert new = (s, false) := by
  have hnone := Condition.upsert?_eq_none hc ha
  have hlist : s.conditions = some s.conditionList := by
    unfold conditionList
    cases hs : s.conditions with
    | none =>
      rw [condition?, conditionList, hs] at hc
      cases hc
    | some cs => rfl
  rw [upsert, Condition.upsert, hnone, Option.getD_none, ← hlist]
  rfl

end SearchStatus

end HubSearch
