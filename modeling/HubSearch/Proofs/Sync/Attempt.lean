/-
Bringing one object into its desired state while any call can fail. An attempt ends in one of three ways: the
object agrees and was only fetched, it was put into its place by one write, or a call failed and nothing changed
(`attempt_run_sync`). Whatever happens, no other place is touched (`Wanted.Attempt.object?_of_ne`).
-/
import HubSearch.Proofs.Store.Faulty
import HubSearch.Proofs.Sync

namespace HubSearch

open World

/-- What an attempt at a wanted object comes to, with the calls that it makes. -/
inductive Wanted.Attempt (x : Wanted) (s : Recorded) : Except OperatorError SyncOutcome → Recorded → Prop
  /-- The live object agrees with the desired one. -/
  | unchanged {live : x.store.kind.Object} {t : Recorded}
      (hlive : s.world.object? x.store x.name = some live) (hmatches : x.store.kind.Matches live x.object)
      (hstore : t.world.store = s.world.store)
      (hcalls : t.calls = s.calls ++ [(.fetch x.store x.name, true)]) :
      Attempt x s (.ok .unchanged) t
  /-- There was no object, and the desired one is in its place. -/
  | created {t : Recorded} (habsent : s.world.object? x.store x.name = none)
      (hstore : t.world.store = (s.world.set x.store ((s.world.store x.store).put x.name x.object).2).store)
      (hcalls : t.calls = s.calls ++ [(.fetch x.store x.name, true), (.insert x.store x.object, true)]) :
      Attempt x s (.ok .created) t
  /-- The live object differed, and it is in its place as it was amended. -/
  | updated {live after : x.store.kind.Object} {t : Recorded}
      (hlive : s.world.object? x.store x.name = some live) (hamend : x.store.kind.amend live x.object = some after)
      (hstore : t.world.store = (s.world.set x.store ((s.world.store x.store).put x.name after).2).store)
      (hcalls : t.calls = s.calls ++ [(.fetch x.store x.name, true), (.update x.store after, true)]) :
      Attempt x s (.ok .updated) t
  /-- A call failed, and no write succeeded. -/
  | failed {e : OperatorError} {t : Recorded} (hstore : t.world.store = s.world.store)
      (hcalls : ∃ tried, t.calls = s.calls ++ tried ∧ ∀ call ∈ tried, call.2 = true → call.1.isWrite = false) :
      Attempt x s (.error e) t

/-- The stores after a wanted object was fetched. -/
def Recorded.fetched (s : Recorded) (x : Wanted) : Recorded :=
  ⟨s.world.logged (.fetch x.store x.name), s.calls ++ [(.fetch x.store x.name, true)]⟩

section

variable (faults : Faults) {s : Recorded} {x : Wanted}

theorem Wanted.Attempt.failed_write (c : StoreCall) (e : OperatorError) {u : World} (hu : u.store = s.world.store) :
    x.Attempt s (.error e) ⟨u, (s.fetched x).calls ++ [(c, false)]⟩ := by
  refine .failed hu ⟨_, List.append_assoc _ _ _, fun call hcall hok => ?_⟩
  rcases List.mem_append.1 hcall with hcall | hcall <;> rw [List.mem_singleton.1 hcall] at hok ⊢
  · rfl
  · cases hok

theorem attempt_insert (habsent : s.world.object? x.store x.name = none) :
    let r := (s.fetched x).run faults (do
      let _ ← Work.onObject .create x.kindName x.name (Work.insert x.store x.object)
      pure SyncOutcome.created : Work _).run
    x.Attempt s r.1 r.2 := by
  intro r
  have hr : r = _ := Work.run_onObject_ask_then (Recorded.answer faults) (s.fetched x) .create x.kindName x.name
    (.insert x.store x.object) SyncOutcome.created
  rw [hr]
  rcases Recorded.answer_cases faults (s.fetched x) (.insert x.store x.object) with ⟨a, ha, hc⟩ | ⟨e, u, hc, hu⟩ <;>
    rw [hc]
  · rcases answer_insert_wanted_cases (s.fetched x).world x with hw | ⟨e, he, -⟩
    · refine .created habsent ?_ (List.append_assoc _ _ _)
      rw [hw]
      rfl
    · cases ha.symm.trans he
  · exact .failed_write _ _ hu

theorem attempt_update (hs : s.world.Versioned) {live after : x.store.kind.Object}
    (hlive : s.world.object? x.store x.name = some live) (hamend : x.store.kind.amend live x.object = some after) :
    let r := (s.fetched x).run faults (do
      let _ ← Work.onObject .update x.kindName x.name (Work.update x.store after)
      pure SyncOutcome.updated : Work _).run
    x.Attempt s r.1 r.2 := by
  intro r
  have hr : r = _ := Work.run_onObject_ask_then (Recorded.answer faults) (s.fetched x) .update x.kindName x.name
    (.update x.store after) SyncOutcome.updated
  rw [hr]
  rcases Recorded.answer_cases faults (s.fetched x) (.update x.store after) with ⟨a, ha, hc⟩ | ⟨e, u, hc, hu⟩ <;>
    rw [hc]
  · have hs' : (s.fetched x).world.Versioned := hs.congr rfl
    rcases answer_update_amended_cases hs' hlive hamend with hw | ⟨e, he, -⟩
    · refine .updated hlive hamend ?_ (List.append_assoc _ _ _)
      rw [hw]
      rfl
    · cases ha.symm.trans he
  · exact .failed_write _ _ hu

/-- Whatever fails, bringing an object into its state is one of these attempts. -/
theorem attempt_run_sync (hs : s.world.Versioned) (x : Wanted) :
    x.Attempt s (s.run faults (sync x.store x.object).run).1 (s.run faults (sync x.store x.object).run).2 := by
  have hget : s.run faults (Work.onObject .get x.kindName x.name (Work.fetch x.store x.name)).run = _ :=
    Work.run_onObject_ask (Recorded.answer faults) s .get x.kindName x.name (.fetch x.store x.name)
  rcases Recorded.answer_fetch_cases faults s x.store x.name with hf | ⟨e, u, hf, hu⟩ <;> rw [hf] at hget
  · have hrun : s.run faults (sync x.store x.object).run = _ := Work.run_bind_of_ok hget _
    rw [hrun]
    -- what was fetched decides on the write
    cases hlive : s.world.object? x.store x.name with
    | none => exact attempt_insert faults hlive
    | some live =>
      cases hamend : x.store.kind.amend live x.object with
      | none =>
        simp only [hamend]
        exact .unchanged hlive (x.store.kind.amend_eq_none_iff.1 hamend) rfl rfl
      | some after =>
        simp only [hamend]
        exact attempt_update faults hs hlive hamend
  · have hrun : s.run faults (sync x.store x.object).run = _ := Work.run_bind_of_error hget _
    rw [hrun]
    refine .failed hu ⟨_, rfl, fun call hcall hok => ?_⟩
    rw [List.mem_singleton.1 hcall] at hok
    cases hok

end

/-! ## What an attempt leaves as it is -/

namespace Wanted.Attempt

variable {x : Wanted} {s t : Recorded} {outcome : Except OperatorError SyncOutcome}

/-- The stores are as they were, or the object of the attempt was put into its place: as desired where none was, or
as the live one was amended. -/
theorem store_cases (h : x.Attempt s outcome t) :
    t.world.store = s.world.store ∨ ∃ after, t.world.store =
        (s.world.set x.store ((s.world.store x.store).put x.name after).2).store ∧
      (s.world.object? x.store x.name = none ∧ after = x.object ∨
        ∃ live, s.world.object? x.store x.name = some live ∧ x.store.kind.amend live x.object = some after) := by
  cases h with
  | unchanged _ _ hstore _ => exact .inl hstore
  | created habsent hstore _ => exact .inr ⟨_, hstore, .inl ⟨habsent, rfl⟩⟩
  | updated hlive hamend hstore _ => exact .inr ⟨_, hstore, .inr ⟨_, hlive, hamend⟩⟩
  | failed hstore _ => exact .inl hstore

/-- No other place is touched. -/
theorem object?_of_ne (h : x.Attempt s outcome t) {r : StoreRef} {name : String} (hne : r ≠ x.store ∨ name ≠ x.name) :
    t.world.object? r name = s.world.object? r name := by
  rcases h.store_cases with hs | ⟨after, hs, -⟩
  · exact object?_congr hs r name
  · rw [object?_congr hs]
    exact object?_set_of_ne s.world (fun _ => Store.get?_put_of_ne _ after) hne

end Wanted.Attempt

end HubSearch
