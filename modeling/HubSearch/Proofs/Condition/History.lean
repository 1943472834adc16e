/-
What a list of conditions says of the calls that made it. For each type the list has an entry exactly when a
condition of the type was set since the type was last removed. The entry says what the condition that was set last
says, and its instant is that at which the present status came in. The entries stand in the order in which their types
were added. Main statement: `SearchStatus.tracks_history`.
-/
import HubSearch.Proofs.Condition
import Mathlib.Data.List.Induction

namespace HubSearch

/-- A call that changes a list of conditions. -/
inductive ConditionCall where
  | upsert (c : Condition)
  | upsertBool (now : Timestamp) (type : String) (value : Bool) (reason : String) (message : Option String)
      (generation : Int64)
  | remove (type : String)
  deriving DecidableEq

/-- The condition that a call sets, if it does not remove one. -/
def ConditionCall.sets? : ConditionCall → Option Condition
  | .upsert c => some c
  | .upsertBool now type value reason message generation =>
    some (.new now type (.ofBool value) reason (message.getD "") generation)
  | .remove _ => none

namespace SearchStatus

/-- Make a call, and what it answers. -/
def answer (s : SearchStatus) : ConditionCall → SearchStatus × Bool
  | .upsert c => s.upsert c
  | .upsertBool now type value reason message generation => s.upsertBool now type value reason message generation
  | .remove type => s.remove type

/-- Make calls one after the other. -/
def afterCalls (s : SearchStatus) (calls : List ConditionCall) : SearchStatus :=
  calls.foldl (fun s call => (s.answer call).1) s

end SearchStatus

namespace Condition

/-! ## What a history says of a type -/

/-- The conditions of a type that were set since the type was last removed, in the order in which they were set. -/
def setSince (type : String) (history : List ConditionCall) : List Condition :=
  history.foldl (fun cs call =>
    match call.sets? with
    | some c => if c.type = type then cs ++ [c] else cs
    | none => if call = .remove type then [] else cs) []

/-- An entry that stands for conditions of one type, set in this order. It says what the last one says. Those at the
end that all have the status of the entry begin with the one that has its instant. -/
structure StandsFor (entry : Condition) (cs : List Condition) : Prop where
  last : ∃ c, cs.getLast? = some c ∧ entry.type = c.type ∧ entry.status = c.status ∧ entry.reason = c.reason ∧
    entry.message = c.message ∧ entry.observedGeneration = c.observedGeneration
  instant : ∃ earlier first rest, cs = earlier ++ first :: rest ∧
    (∀ c ∈ first :: rest, c.status = entry.status) ∧ (∀ c, earlier.getLast? = some c → c.status ≠ entry.status) ∧
    entry.lastTransitionTime = first.lastTransitionTime

/-- The call of this number is the first one that set a condition of the type since the type was last removed. -/
structure AddedAt (history : List ConditionCall) (type : String) (n : Nat) : Prop where
  sets : ∃ call c, history[n]? = some call ∧ call.sets? = some c ∧ c.type = type
  kept : ∀ m, n < m → history[m]? ≠ some (.remove type)
  first : ∀ m call c, m < n → history[m]? = some call → call.sets? = some c → c.type = type →
    ∃ k, m < k ∧ k < n ∧ history[k]? = some (.remove type)

/-- One type was added before the other. -/
def AddedBefore (history : List ConditionCall) (type type' : String) : Prop :=
  ∃ n n', AddedAt history type n ∧ AddedAt history type' n' ∧ n < n'

/-- The list is what a history of calls makes of no conditions. -/
structure Tracks (history : List ConditionCall) (cs : List Condition) : Prop where
  nodup : (cs.map (·.type)).Nodup
  absent : ∀ type, setSince type history = [] → find? type cs = none
  present : ∀ type, setSince type history ≠ [] → ∃ entry, find? type cs = some entry ∧
    entry.StandsFor (setSince type history)
  added : ∀ c ∈ cs, ∃ n, AddedAt history c.type n
  order : (cs.map (·.type)).Pairwise (AddedBefore history)

/-! ## One more call in a history -/

theorem setSince_concat_of_sets {call : ConditionCall} {c : Condition} (h : call.sets? = some c) (type : String)
    (history : List ConditionCall) : setSince type (history ++ [call]) =
      if c.type = type then setSince type history ++ [c] else setSince type history := by
  rw [setSince, List.foldl_append]
  simp only [List.foldl_cons, List.foldl_nil, h]
  rfl

theorem setSince_concat_remove (removed type : String) (history : List ConditionCall) :
    setSince type (history ++ [.remove removed]) = if removed = type then [] else setSince type history := by
  rw [setSince, List.foldl_append]
  simp only [List.foldl_cons, List.foldl_nil, ConditionCall.sets?, ConditionCall.remove.injEq]
  rfl

theorem lt_length_of_addedAt {history : List ConditionCall} {type : String} {n : Nat} (h : AddedAt history type n) :
    n < history.length := by
  obtain ⟨call, -, hcall, -⟩ := h.sets
  exact (List.getElem?_eq_some_iff.1 hcall).1

/-- A type stays added until it is removed. -/
theorem AddedAt.concat {history : List ConditionCall} {type : String} {n : Nat} (h : AddedAt history type n)
    {call : ConditionCall} (hcall : call ≠ .remove type) : AddedAt (history ++ [call]) type n := by
  have hn := lt_length_of_addedAt h
  have hold : ∀ m, m < history.length → (history ++ [call])[m]? = history[m]? := fun m hm =>
    List.getElem?_append_left hm
  constructor
  · rw [hold n hn]
    exact h.sets
  · intro m hm
    by_cases hlast : m < history.length
    · rw [hold m hlast]
      exact h.kept m hm
    · rw [List.getElem?_append_right (Nat.le_of_not_lt hlast)]
      intro heq
      obtain ⟨hlt, heq⟩ := List.getElem?_eq_some_iff.1 heq
      simp only [List.length_singleton, Nat.lt_one_iff] at hlt
      simp only [hlt, List.getElem_cons_zero] at heq
      exact hcall heq
  · intro m other c hm hother hsets htype
    rw [hold m (by omega)] at hother
    obtain ⟨k, hmk, hkn, hk⟩ := h.first m other c hm hother hsets htype
    exact ⟨k, hmk, hkn, by rw [hold k (by omega), hk]⟩

theorem AddedBefore.concat {history : List ConditionCall} {type type' : String} (h : AddedBefore history type type')
    {call : ConditionCall} (hcall : call ≠ .remove type) (hcall' : call ≠ .remove type') :
    AddedBefore (history ++ [call]) type type' := by
  obtain ⟨n, n', hn, hn', hlt⟩ := h
  exact ⟨n, n', hn.concat hcall, hn'.concat hcall', hlt⟩

/-- When nothing was set since a type was last removed, each condition of the type was removed after it was set. -/
theorem removed_of_setSince_eq_nil {type : String} {history : List ConditionCall} (h : setSince type history = [])
    {m : Nat} {call : ConditionCall} {c : Condition} (hcall : history[m]? = some call) (hsets : call.sets? = some c)
    (htype : c.type = type) : ∃ k, m < k ∧ k < history.length ∧ history[k]? = some (.remove type) := by
  induction history using List.reverseRecOn with
  | nil => simp at hcall
  | append_singleton history last ih =>
    have hlength : (history ++ [last]).length = history.length + 1 := by simp
    have hlast : (history ++ [last])[history.length]? = some last := by simp
    by_cases hm : m < history.length
    · rw [List.getElem?_append_left hm] at hcall
      by_cases hremove : last = .remove type
      · exact ⟨history.length, hm, by omega, by rw [hlast, hremove]⟩
      · -- the last call did not remove the type, so an earlier one did
        have hnil : setSince type history = [] := by
          cases hlastSets : last.sets? with
          | some d =>
            rw [setSince_concat_of_sets hlastSets] at h
            split at h
            · simp at h
            · exact h
          | none =>
            cases last with
            | remove removed =>
              rw [setSince_concat_remove] at h
              rwa [if_neg fun heq => hremove (by rw [heq])] at h
            | upsert => cases hlastSets
            | upsertBool => cases hlastSets
        obtain ⟨k, hmk, hk, hremoved⟩ := ih hnil hcall
        exact ⟨k, hmk, by omega, by rw [List.getElem?_append_left hk, hremoved]⟩
    · -- the last call did not set a condition of the type, as that would be there
      have hm' : m = history.length := by
        have := (List.getElem?_eq_some_iff.1 hcall).1
        omega
      rw [hm', hlast] at hcall
      obtain rfl := Option.some.inj hcall
      rw [setSince_concat_of_sets hsets, if_pos htype] at h
      simp at h

theorem addedAt_length {type : String} {history : List ConditionCall} (h : setSince type history = [])
    {call : ConditionCall} {c : Condition} (hsets : call.sets? = some c) (htype : c.type = type) :
    AddedAt (history ++ [call]) type history.length := by
  constructor
  · exact ⟨call, c, by simp, hsets, htype⟩
  · intro m hm
    have hend : (history ++ [call])[m]? = none := List.getElem?_eq_none (by simp; omega)
    rw [hend]
    rintro ⟨⟩
  · intro m other d hm hother hd hdtype
    rw [List.getElem?_append_left hm] at hother
    obtain ⟨k, hmk, hk, hremoved⟩ := removed_of_setSince_eq_nil h hother hd hdtype
    exact ⟨k, hmk, hk, by rw [List.getElem?_append_left hk, hremoved]⟩

/-! ## What an entry stands for -/

theorem standsFor_singleton (c : Condition) : c.StandsFor [c] where
  last := ⟨c, rfl, rfl, rfl, rfl, rfl, rfl⟩
  instant := ⟨[], c, [], rfl, by simp, by simp, rfl⟩

/-- An entry that agrees with a new condition of its type stands for that one as well. -/
theorem StandsFor.concat_of_agrees {entry new : Condition} {cs : List Condition} (h : entry.StandsFor cs)
    (htype : entry.type = new.type) (hagrees : entry.agrees new = true) : entry.StandsFor (cs ++ [new]) := by
  obtain ⟨hstatus, hreason, hmessage, hgeneration⟩ := agrees_iff.1 hagrees
  obtain ⟨earlier, first, rest, hcs, hsame, hearlier, hinstant⟩ := h.instant
  refine ⟨⟨new, by simp, htype, hstatus, hreason, hmessage, hgeneration⟩, earlier, first, rest ++ [new],
    by rw [hcs]; simp, ?_, hearlier, hinstant⟩
  intro c hc
  rcases List.mem_append.1 (show c ∈ (first :: rest) ++ [new] from hc) with hc | hc
  · exact hsame c hc
  · rw [List.mem_singleton.1 hc, hstatus]

/-- An entry that a new condition of its type replaces stands for that one as well. -/
theorem StandsFor.concat_replacedBy {entry new : Condition} {cs : List Condition} (h : entry.StandsFor cs) :
    (entry.replacedBy new).StandsFor (cs ++ [new]) := by
  have hlast : ∃ c, (cs ++ [new]).getLast? = some c ∧ (entry.replacedBy new).type = c.type ∧
      (entry.replacedBy new).status = c.status ∧ (entry.replacedBy new).reason = c.reason ∧
      (entry.replacedBy new).message = c.message ∧
      (entry.replacedBy new).observedGeneration = c.observedGeneration :=
    ⟨new, by simp, rfl, rfl, rfl, rfl, rfl⟩
  refine ⟨hlast, ?_⟩
  obtain ⟨old, hold, -, hstatus, -⟩ := h.last
  obtain ⟨earlier, first, rest, hcs, hsame, hearlier, hinstant⟩ := h.instant
  by_cases hs : entry.status = new.status
  · -- the status stays, and so does the instant
    refine ⟨earlier, first, rest ++ [new], by rw [hcs]; simp, ?_, ?_, ?_⟩
    · intro c hc
      show c.status = new.status
      rcases List.mem_append.1 (show c ∈ (first :: rest) ++ [new] from hc) with hc | hc
      · rw [hsame c hc, hs]
      · rw [List.mem_singleton.1 hc]
    · intro c hc
      show c.status ≠ new.status
      rw [← hs]
      exact hearlier c hc
    · rw [replacedBy, if_pos hs, hinstant]
  · -- the new condition begins a series of its own
    refine ⟨cs, new, [], rfl, ?_, ?_, ?_⟩
    · intro c hc
      rw [List.mem_singleton.1 hc]
      rfl
    · intro c hc
      show c.status ≠ new.status
      obtain rfl := Option.some.inj (hold.symm.trans hc)
      rw [← hstatus]
      exact hs
    · rw [replacedBy, if_neg hs]

/-! ## What a call makes of a list -/

theorem upsert_of_find?_eq_none {new : Condition} : ∀ {cs : List Condition}, find? new.type cs = none →
    upsert new cs = cs ++ [new]
  | [], _ => rfl
  | c :: rest, h => by
    rw [find?, List.find?_cons] at h
    by_cases hc : c.type = new.type
    · simp [hc] at h
    · rw [decide_eq_false hc] at h
      rw [upsert_cons, if_neg hc, upsert_of_find?_eq_none h]
      rfl

theorem upsert_of_find? {new entry : Condition} : ∀ {cs : List Condition}, find? new.type cs = some entry →
    find? new.type (upsert new cs) = some (if entry.agrees new then entry else entry.replacedBy new) ∧
      (upsert new cs).map (·.type) = cs.map (·.type)
  | c :: rest, h => by
    rw [find?, List.find?_cons] at h
    rw [upsert_cons]
    by_cases hc : c.type = new.type
    · rw [decide_eq_true hc] at h
      obtain rfl := Option.some.inj h
      rw [if_pos hc]
      have htype : (if c.agrees new then c else c.replacedBy new).type = new.type := by
        split
        · exact hc
        · rfl
      constructor
      · rw [find?, List.find?_cons, decide_eq_true htype]
      · rw [List.map_cons, List.map_cons, htype, hc]
    · rw [decide_eq_false hc] at h
      obtain ⟨hfind, htypes⟩ := upsert_of_find? h
      rw [if_neg hc]
      constructor
      · rw [find?, List.find?_cons, decide_eq_false hc]
        exact hfind
      · rw [List.map_cons, List.map_cons, htypes]

theorem type_of_find? {type : String} {cs : List Condition} {c : Condition} (h : find? type cs = some c) :
    c.type = type := by
  have := List.find?_some h
  simpa using this

theorem map_type_remove (type : String) (cs : List Condition) :
    (remove type cs).map (·.type) = (cs.map (·.type)).filter (· ≠ type) := by
  rw [remove, List.filter_map]
  rfl

theorem find?_eq_none_iff {type : String} {cs : List Condition} :
    find? type cs = none ↔ type ∉ cs.map (·.type) := by
  rw [find?, List.find?_eq_none]
  simp

/-! ## One more call in the history of a list -/

section

variable {history : List ConditionCall} {cs : List Condition} {call : ConditionCall} {new : Condition}
  (h : Tracks history cs) (hsets : call.sets? = some new)

include hsets

theorem ne_remove_of_sets (type : String) : call ≠ .remove type := by
  rintro rfl
  cases hsets

theorem setSince_concat_self : setSince new.type (history ++ [call]) = setSince new.type history ++ [new] := by
  rw [setSince_concat_of_sets hsets, if_pos rfl]

/-- What the calls so far say of the other types is not changed by setting a condition. -/
theorem setSince_concat_of_ne {type : String} (hne : type ≠ new.type) :
    setSince type (history ++ [call]) = setSince type history := by
  rw [setSince_concat_of_sets hsets, if_neg hne.symm]

include h

theorem Tracks.absent_upsert {type : String} (hnil : setSince type (history ++ [call]) = []) :
    find? type (Condition.upsert new cs) = none := by
  have hne : type ≠ new.type := by
    rintro rfl
    rw [setSince_concat_self hsets] at hnil
    simp at hnil
  rw [setSince_concat_of_ne hsets hne] at hnil
  rw [find?_upsert_of_ne hne]
  exact h.absent type hnil

/-- The other types have the entries that they had. -/
theorem Tracks.present_upsert_of_ne {type : String} (hne : type ≠ new.type)
    (hset : setSince type (history ++ [call]) ≠ []) :
    ∃ entry, find? type (Condition.upsert new cs) = some entry ∧
      entry.StandsFor (setSince type (history ++ [call])) := by
  rw [setSince_concat_of_ne hsets hne] at hset ⊢
  rw [find?_upsert_of_ne hne]
  exact h.present type hset

theorem Tracks.added_concat {c : Condition} (hc : c ∈ cs) : ∃ n, AddedAt (history ++ [call]) c.type n := by
  obtain ⟨n, hn⟩ := h.added c hc
  exact ⟨n, hn.concat (ne_remove_of_sets hsets _)⟩

theorem Tracks.order_concat : (cs.map (·.type)).Pairwise (AddedBefore (history ++ [call])) :=
  h.order.imp fun hab => hab.concat (ne_remove_of_sets hsets _) (ne_remove_of_sets hsets _)

/-- A condition of a new type comes last. -/
theorem Tracks.upsert_of_new (hnil : setSince new.type history = []) :
    Tracks (history ++ [call]) (upsert new cs) := by
  have hnone := h.absent new.type hnil
  have hnew : new.type ∉ cs.map (·.type) := find?_eq_none_iff.1 hnone
  have hlist := upsert_of_find?_eq_none hnone
  have hlast : AddedAt (history ++ [call]) new.type history.length := addedAt_length hnil hsets rfl
  refine ⟨?_, fun type => h.absent_upsert hsets, ?_, ?_, ?_⟩
  · rw [hlist, List.map_append, List.nodup_append]
    refine ⟨h.nodup, by simp, ?_⟩
    rintro type hmem _ hmem' rfl
    obtain rfl : type = new.type := by simpa using hmem'
    exact hnew hmem
  · intro type hset
    by_cases htype : type = new.type
    · subst htype
      refine ⟨new, ?_, ?_⟩
      · rw [find?] at hnone
        simp [hlist, find?, hnone]
      · rw [setSince_concat_self hsets, hnil]
        exact standsFor_singleton new
    · exact h.present_upsert_of_ne hsets htype hset
  · intro c hc
    rw [hlist, List.mem_append, List.mem_singleton] at hc
    rcases hc with hc | rfl
    · exact h.added_concat hsets hc
    · exact ⟨_, hlast⟩
  · rw [hlist, List.map_append, List.pairwise_append]
    refine ⟨h.order_concat hsets, List.pairwise_singleton _ _, ?_⟩
    intro type hmem type' hmem'
    obtain ⟨c, hc, rfl⟩ := List.mem_map.1 hmem
    obtain rfl : type' = new.type := by simpa using hmem'
    obtain ⟨n, hn⟩ := h.added c hc
    exact ⟨n, _, hn.concat (ne_remove_of_sets hsets _), hlast, lt_length_of_addedAt hn⟩

/-- The entry of a type takes up a new condition in its place. -/
theorem Tracks.upsert_of_entry (hset : setSince new.type history ≠ []) :
    Tracks (history ++ [call]) (upsert new cs) := by
  obtain ⟨entry, hentry, hstands⟩ := h.present new.type hset
  obtain ⟨hfind, htypes⟩ := upsert_of_find? hentry
  refine ⟨?_, fun type => h.absent_upsert hsets, ?_, ?_, ?_⟩
  · rw [htypes]
    exact h.nodup
  · intro type hpresent
    by_cases htype : type = new.type
    · subst htype
      refine ⟨_, hfind, ?_⟩
      rw [setSince_concat_self hsets]
      split
      · rename_i hagrees
        exact hstands.concat_of_agrees (type_of_find? hentry) hagrees
      · exact hstands.concat_replacedBy
    · exact h.present_upsert_of_ne hsets htype hpresent
  · intro c hc
    have hmem : c.type ∈ cs.map (·.type) := htypes ▸ List.mem_map_of_mem hc
    obtain ⟨d, hd, htype⟩ := List.mem_map.1 hmem
    rw [← htype]
    exact h.added_concat hsets hd
  · rw [htypes]
    exact h.order_concat hsets

/-- Setting a condition is one more call in the history of a list. -/
theorem Tracks.upsert : Tracks (history ++ [call]) (upsert new cs) := by
  by_cases hnil : setSince new.type history = []
  · exact h.upsert_of_new hsets hnil
  · exact h.upsert_of_entry hsets hnil

end

/-- Removing a type is one more call in the history of a list. -/
theorem Tracks.remove {history : List ConditionCall} {cs : List Condition} (h : Tracks history cs) (type : String) :
    Tracks (history ++ [.remove type]) (remove type cs) := by
  have hother : ∀ other, other ≠ type → setSince other (history ++ [.remove type]) = setSince other history := by
    intro other hne
    rw [setSince_concat_remove, if_neg hne.symm]
  have hcall : ∀ other, other ≠ type → ConditionCall.remove type ≠ .remove other := by
    rintro other hne heq
    exact hne (ConditionCall.remove.inj heq).symm
  refine ⟨?_, ?_, ?_, ?_, ?_⟩
  · rw [map_type_remove]
    exact h.nodup.filter _
  · intro other hnil
    by_cases hne : other = type
    · rw [hne]
      exact find?_remove_self type cs
    · rw [hother other hne] at hnil
      rw [find?_remove_of_ne hne]
      exact h.absent other hnil
  · intro other hset
    by_cases hne : other = type
    · rw [hne, setSince_concat_remove, if_pos rfl] at hset
      exact absurd rfl hset
    · rw [hother other hne] at hset ⊢
      rw [find?_remove_of_ne hne]
      exact h.present other hset
  · intro c hc
    obtain ⟨hc, htype⟩ := List.mem_filter.1 hc
    obtain ⟨n, hn⟩ := h.added c hc
    exact ⟨n, hn.concat (hcall _ (by simpa using htype))⟩
  · rw [map_type_remove]
    refine (h.order.filter _).imp_of_mem fun {a b} ha hb hab => ?_
    have ha' := (List.mem_filter.1 ha).2
    have hb' := (List.mem_filter.1 hb).2
    exact hab.concat (hcall a (by simpa using ha')) (hcall b (by simpa using hb'))

theorem tracks_nil : Tracks [] [] where
  nodup := List.nodup_nil
  absent _ _ := rfl
  present _ h := absurd rfl h
  added _ h := absurd h List.not_mem_nil
  order := .nil

/-- Whatever list there is, as long as no type occurs twice it is what upserts of its entries make. -/
theorem foldl_upsert_eq_append : ∀ {cs before : List Condition}, ((before ++ cs).map (·.type)).Nodup →
    cs.foldl (fun cs c => upsert c cs) before = before ++ cs
  | [], before, _ => (List.append_nil before).symm
  | c :: rest, before, h => by
    have hnew : c.type ∉ before.map (·.type) := by
      intro hmem
      rw [List.map_append, List.map_cons] at h
      exact (List.nodup_append.1 h).2.2 _ hmem _ List.mem_cons_self rfl
    rw [List.foldl_cons, upsert_of_find?_eq_none (find?_eq_none_iff.2 hnew), foldl_upsert_eq_append (by simpa using h)]
    simp

/-! ## Whether a call changed something -/

theorem upsert?_ne_some_self (new : Condition) : ∀ cs : List Condition, upsert? new cs ≠ some cs
  | [] => by simp [upsert?]
  | c :: rest => by
    rw [upsert?]
    split
    · split
      · rintro ⟨⟩
      · rename_i hdiffers
        intro heq
        have hc : c.replacedBy new = c := by simpa using heq
        rw [← hc] at hdiffers
        exact hdiffers (agrees_replacedBy c new)
    · intro heq
      obtain ⟨cs, hcs, hlist⟩ := Option.map_eq_some_iff.1 heq
      have hrest : cs = rest := by simpa using hlist
      exact upsert?_ne_some_self new rest (hrest ▸ hcs)

end Condition

namespace SearchStatus

open Condition

theorem upsert_eq_false_iff (s : SearchStatus) (new : Condition) :
    (s.upsert new).2 = false ↔ (s.upsert new).1.conditionList = s.conditionList := by
  show (upsert? new s.conditionList).isSome = false ↔
    (upsert? new s.conditionList).getD s.conditionList = s.conditionList
  cases hset : upsert? new s.conditionList with
  | none => simp
  | some after =>
    have hne : after ≠ s.conditionList := by
      rintro rfl
      exact upsert?_ne_some_self new _ hset
    simp [hne]

theorem remove_eq_true_iff (s : SearchStatus) (type : String) :
    (s.remove type).2 = true ↔ ∃ c ∈ s.conditionList, c ∉ (s.remove type).1.conditionList := by
  rw [conditionList_remove]
  show s.conditionList.any (·.type = type) = true ↔ _
  rw [List.any_eq_true]
  constructor
  · rintro ⟨c, hc, htype⟩
    refine ⟨c, hc, fun hmem => ?_⟩
    have := (List.mem_filter.1 hmem).2
    simp_all
  · rintro ⟨c, hc, hgone⟩
    refine ⟨c, hc, decide_eq_true (Decidable.byContradiction fun hne => hgone ?_)⟩
    exact List.mem_filter.2 ⟨hc, by simpa using hne⟩

/-- Each call is one more in the history of the conditions. -/
theorem tracks_answer {s : SearchStatus} {history : List ConditionCall} (h : Tracks history s.conditionList)
    (call : ConditionCall) : Tracks (history ++ [call]) (s.answer call).1.conditionList := by
  cases call with
  | upsert c => exact h.upsert rfl
  | upsertBool now type value reason message generation => exact h.upsert rfl
  | remove type =>
    have hlist : (s.answer (.remove type)).1.conditionList = Condition.remove type s.conditionList :=
      conditionList_remove s type
    rw [hlist]
    exact h.remove type

theorem tracks_afterCalls {s : SearchStatus} {history : List ConditionCall} (h : Tracks history s.conditionList) :
    ∀ calls : List ConditionCall, Tracks (history ++ calls) (s.afterCalls calls).conditionList := by
  intro calls
  induction calls generalizing s history with
  | nil =>
    rw [List.append_nil]
    exact h
  | cons call rest ih =>
    rw [← List.singleton_append, ← List.append_assoc]
    exact ih (tracks_answer h call)

/-- Conditions of different types are what upserts of them make. -/
theorem tracks_of_nodup {cs : List Condition} (hnodup : (cs.map (·.type)).Nodup) : Tracks (cs.map .upsert) cs := by
  have hstart : Tracks [] ({} : SearchStatus).conditionList := tracks_nil
  have htracks : Tracks (cs.map .upsert) (({} : SearchStatus).afterCalls (cs.map .upsert)).conditionList :=
    tracks_afterCalls hstart _
  have hfold : cs.foldl (fun cs c => Condition.upsert c cs) [] = cs := foldl_upsert_eq_append hnodup
  have hafter : ∀ (cs : List Condition) (s : SearchStatus),
      (s.afterCalls (cs.map .upsert)).conditionList = cs.foldl (fun cs c => Condition.upsert c cs) s.conditionList := by
    intro cs
    induction cs with
    | nil => exact fun _ => rfl
    | cons c rest ih => exact fun s => ih _
  rw [hafter] at htracks
  rwa [show ({} : SearchStatus).conditionList = [] from rfl, hfold] at htracks

/-- Whatever calls are made, the conditions are what all calls so far say, those that were there at first counting as
set at the start. The next call says truly whether it changes anything. -/
theorem tracks_history (s : SearchStatus) (hnodup : (s.conditionList.map (·.type)).Nodup)
    (calls : List ConditionCall) :
    Tracks (s.conditionList.map .upsert ++ calls) (s.afterCalls calls).conditionList ∧
    (∀ call c, call.sets? = some c → (((s.afterCalls calls).answer call).2 = false ↔
      ((s.afterCalls calls).answer call).1.conditionList = (s.afterCalls calls).conditionList)) ∧
    ∀ type, ((s.afterCalls calls).answer (.remove type)).2 = true ↔
      ∃ c ∈ (s.afterCalls calls).conditionList, c ∉ ((s.afterCalls calls).answer (.remove type)).1.conditionList := by
  refine ⟨tracks_afterCalls (tracks_of_nodup hnodup) calls, ?_, ?_⟩
  · intro call c hsets
    cases call with
    | upsert c => exact upsert_eq_false_iff _ c
    | upsertBool now type value reason message generation => exact upsert_eq_false_iff _ _
    | remove type => cases hsets
  · intro type
    exact remove_eq_true_iff _ type

/-- A status with one condition. -/
def sampleStatus : SearchStatus := { conditions := some [⟨"Ready", "True", "Running", "", none, { seconds := 10 }⟩] }

/-- The status of a condition flips, its message changes, and a type that was never there is removed and added. -/
def sampleCalls : List ConditionCall :=
  [.upsertBool { seconds := 20 } "Ready" false "Stopped" none 1,
    .upsertBool { seconds := 30 } "Ready" false "Stopped" (some "still") 2,
    .remove "Synced",
    .upsert ⟨"Synced", "Unknown", "New", "", none, { seconds := 40 }⟩]

theorem tracks_history_sampleCalls :
    (sampleStatus.conditionList.map (·.type)).Nodup ∧
    (sampleStatus.afterCalls sampleCalls).conditionList =
      [⟨"Ready", "False", "Stopped", "still", some 2, { seconds := 20 }⟩,
        ⟨"Synced", "Unknown", "New", "", none, { seconds := 40 }⟩] ∧
    Tracks (sampleStatus.conditionList.map .upsert ++ sampleCalls)
      (sampleStatus.afterCalls sampleCalls).conditionList ∧
    ((sampleStatus.afterCalls sampleCalls).answer (.remove "Ready")).2 = true := by
  have hnodup : (sampleStatus.conditionList.map (·.type)).Nodup := by decide
  obtain ⟨htracks, -, hremove⟩ := tracks_history sampleStatus hnodup sampleCalls
  refine ⟨hnodup, by decide, htracks, (hremove "Ready").2 ?_⟩
  decide

end SearchStatus

end HubSearch
