/-
Stores of which any call can be made to fail, reads as well as writes, with a record of all calls. What fails
changes nothing (`Recorded.answer_cases`). Without faults these are the stores in memory (`Recorded.run_none`);
with any faults a run keeps what the answers of the stores in memory keep (`Plan.Makes.preserves_world`).
-/
import HubSearch.Proofs.Store.Call

namespace HubSearch

variable {α β : Type}

/-- Which calls are made to fail, by their number, and the failure of each. -/
abbrev Faults := Nat → Option OperatorError

/-- Stores, and the calls so far with whether each succeeded, the latest last. -/
structure Recorded where
  world : World
  calls : List (StoreCall × Bool) := []

/-! ## Failures change nothing -/

theorem World.store_answer_of_error {w : World} {c : StoreCall} {e : OperatorError} (h : (answer w c).1 = .error e) :
    (answer w c).2.store = w.store := by
  cases c with
  | fetch r name => rfl
  | fetchAll r => rfl
  | insert r o =>
    rcases answer_insert_cases w r o with ⟨_, -, -, hw⟩ | ⟨_, -, hs⟩
    · rw [hw] at h
      cases h
    · exact hs
  | update r o =>
    rcases answer_update_cases w r o with ⟨_, _, -, -, -, hw⟩ | ⟨_, -, hs⟩
    · rw [hw] at h
      cases h
    · exact hs
  | remove r name =>
    rcases answer_remove_cases w r name with hw | ⟨_, -, hs⟩
    · rw [hw] at h
      cases h
    · exact hs
  | writeStatus r name version status =>
    rcases answer_writeStatus_cases w r name version status with ⟨_, _, -, -, -, hw⟩ | ⟨_, -, hs⟩
    · rw [hw] at h
      cases h
    · exact hs

namespace Recorded

/-- Answer a call, unless it is made to fail. -/
def answer (faults : Faults) : Plan.Answering Recorded := fun s c =>
  match faults s.calls.length with
  | some e => (.error e, ⟨s.world, s.calls ++ [(c, false)]⟩)
  | none =>
    ((World.answer s.world c).1,
      ⟨(World.answer s.world c).2, s.calls ++ [(c, (World.answer s.world c).1.isOk)]⟩)

/-- Run a plan on stores with faults. -/
abbrev run (faults : Faults) (s : Recorded) (p : Plan α) : α × Recorded := p.run (answer faults) s

variable {faults : Faults} {s t : Recorded}

/-- A call is answered by the stores in memory, or it fails and changes nothing. -/
theorem answer_cases (faults : Faults) (s : Recorded) (c : StoreCall) :
    (∃ a, (World.answer s.world c).1 = .ok a ∧
      answer faults s c = (.ok a, ⟨(World.answer s.world c).2, s.calls ++ [(c, true)]⟩)) ∨
    ∃ e u, answer faults s c = (.error e, ⟨u, s.calls ++ [(c, false)]⟩) ∧ u.store = s.world.store := by
  unfold answer
  cases faults s.calls.length with
  | some e => exact .inr ⟨e, s.world, rfl, rfl⟩
  | none =>
    dsimp only
    cases hreply : (World.answer s.world c).1 with
    | ok a => exact .inl ⟨a, rfl, rfl⟩
    | error e => exact .inr ⟨e, _, rfl, World.store_answer_of_error hreply⟩

theorem blocks_answer (faults : Faults) (s : Recorded) (c : StoreCall) (r : StoreRef) (name : String) :
    (answer faults s c).2.world.blocks r name = s.world.blocks r name := by
  unfold answer
  cases faults s.calls.length with
  | some e => rfl
  | none => exact World.blocks_answer s.world c r name

theorem answer_fetch_cases (faults : Faults) (s : Recorded) (r : StoreRef) (name : String) :
    answer faults s (.fetch r name) = (.ok (s.world.object? r name),
      ⟨s.world.logged (.fetch r name), s.calls ++ [(.fetch r name, true)]⟩) ∨
    ∃ e u, answer faults s (.fetch r name) = (.error e, ⟨u, s.calls ++ [(.fetch r name, false)]⟩) ∧
      u.store = s.world.store := by
  rcases answer_cases faults s (.fetch r name) with ⟨a, ha, hc⟩ | herror
  · obtain rfl : s.world.object? r name = a := Except.ok.inj ha
    exact .inl hc
  · exact .inr herror

/-- A call is recorded, whatever the answer. -/
theorem calls_answer (faults : Faults) (s : Recorded) (c : StoreCall) :
    ∃ ok, (answer faults s c).2.calls = s.calls ++ [(c, ok)] := by
  rcases answer_cases faults s c with ⟨a, -, hr⟩ | ⟨e, u, hr, -⟩ <;> rw [hr] <;> exact ⟨_, rfl⟩

theorem run_bind (faults : Faults) (s : Recorded) (p : Plan α) (f : α → Plan β) :
    s.run faults (p >>= f) = (s.run faults p).2.run faults (f (s.run faults p).1) :=
  Plan.run_bind (answer faults) f p s

theorem run_work_bind_cases (faults : Faults) (s : Recorded) (x : Work α) (f : α → Work β) :
    (∃ a t, s.run faults x.run = (.ok a, t) ∧ s.run faults (x >>= f).run = t.run faults (f a).run) ∨
      ∃ e t, s.run faults x.run = (.error e, t) ∧ s.run faults (x >>= f).run = (.error e, t) :=
  Work.run_bind_cases (answer faults) s x f

theorem run_forEach_cons (faults : Faults) (s : Recorded) (act : α → Plan β) (a : α) (rest : List α) :
    s.run faults (Plan.forEach act (a :: rest)) =
      ((s.run faults (act a)).1 :: ((s.run faults (act a)).2.run faults (Plan.forEach act rest)).1,
        ((s.run faults (act a)).2.run faults (Plan.forEach act rest)).2) :=
  Plan.run_forEach_cons (answer faults) s act a rest

/-- Without faults a run is that on the stores in memory. -/
theorem run_none : ∀ (p : Plan α) (s : Recorded),
    (s.run (fun _ => none) p).1 = (s.world.run p).1 ∧ (s.run (fun _ => none) p).2.world = (s.world.run p).2
  | .done _, _ => ⟨rfl, rfl⟩
  | .call c next, s => run_none (next (World.answer s.world c).1) (answer (fun _ => none) s c).2

end Recorded

/-! ## What a run keeps -/

namespace Plan

variable (faults : Faults) {S : StoreCall → Prop} {P : World → Prop}

theorem makes_true : ∀ p : Plan α, p.Makes fun _ => True
  | .done _ => trivial
  | .call _ next => ⟨trivial, fun reply => (next reply).makes_true⟩

/-- What every call that the plan can make keeps of the stores in memory is kept by its run, whatever fails. -/
theorem Makes.preserves_world (hcongr : ∀ w v : World, v.store = w.store → P w → P v)
    (hS : ∀ w c, S c → P w → P (World.answer w c).2) {p : Plan α} (h : p.Makes S) :
    p.Preserves (Recorded.answer faults) fun s => P s.world := by
  refine h.preserves fun s c hc hs => ?_
  rcases Recorded.answer_cases faults s c with ⟨a, -, hr⟩ | ⟨e, u, hr, hu⟩ <;> rw [hr]
  · exact hS _ c hc hs
  · exact hcongr _ _ hu hs

theorem preserves_versioned (p : Plan α) : p.Preserves (Recorded.answer faults) fun s => s.world.Versioned :=
  p.makes_true.preserves_world faults (fun _ _ hs hw => hw.congr hs) fun _ c _ hw => hw.answer c

/-- A store that a plan does not write to stays as it is. -/
theorem Makes.preserves_store {r : StoreRef} {stored : Store r.kind} {p : Plan α}
    (h : p.Makes fun c => c.isWrite = true → c.store ≠ r) :
    p.Preserves (Recorded.answer faults) fun s => s.world.store r = stored := by
  refine h.preserves_world faults (fun _ _ hs hw => (congrFun hs r).trans hw) fun w c hc hw => ?_
  cases hwrite : c.isWrite with
  | true => rw [World.store_answer_of_ne w c (hc hwrite).symm, hw]
  | false => rw [(World.OnlyRead.answer w hwrite).store, hw]

/-- A plan that only reads changes no store. -/
theorem Makes.store_run_of_reads {p : Plan α} (h : p.Makes fun c => c.isWrite = false) (s : Recorded) :
    (s.run faults p).2.world.store = s.world.store :=
  h.preserves_world faults (P := fun w => w.store = s.world.store) (fun _ _ hs hw => hs.trans hw)
    (fun w _ hc hw => (World.OnlyRead.answer w hc).store.trans hw) s rfl

/-- No run changes which writes are made to fail. -/
theorem blocks_run (p : Plan α) (s : Recorded) (r : StoreRef) (name : String) :
    (s.run faults p).2.world.blocks r name = s.world.blocks r name :=
  p.makes_true.preserves (P := fun t : Recorded => t.world.blocks r name = s.world.blocks r name)
    (fun t c _ ht => (Recorded.blocks_answer faults t c r name).trans ht) s rfl

/-- Only calls that the plan can make are recorded by its run. -/
theorem Makes.exists_calls {p : Plan α} (h : p.Makes S) (s : Recorded) :
    ∃ made, (s.run faults p).2.calls = s.calls ++ made ∧ ∀ call ∈ made, S call.1 := by
  have hpreserves : p.Preserves (Recorded.answer faults) fun t =>
      ∃ made, t.calls = s.calls ++ made ∧ ∀ call ∈ made, S call.1 := by
    refine h.preserves fun t c hc ht => ?_
    obtain ⟨made, hmade, hall⟩ := ht
    obtain ⟨ok, hok⟩ := Recorded.calls_answer faults t c
    refine ⟨made ++ [(c, ok)], by rw [hok, hmade, List.append_assoc], fun call hcall => ?_⟩
    rcases List.mem_append.1 hcall with hcall | hcall
    · exact hall call hcall
    · rw [List.mem_singleton.1 hcall]
      exact hc
  exact hpreserves s ⟨[], by simp, by simp⟩

/-- A run in which no call failed is that on the stores in memory. -/
theorem run_of_forall_ok : ∀ (p : Plan α) (s : Recorded) {made : List (StoreCall × Bool)},
    (s.run faults p).2.calls = s.calls ++ made → (∀ call ∈ made, call.2 = true) →
    (s.run faults p).1 = (s.world.run p).1 ∧ (s.run faults p).2.world = (s.world.run p).2
  | .done _, _, _, _, _ => ⟨rfl, rfl⟩
  | .call c next, s, made, hmade, hok => by
    have hrun : s.run faults (.call c next) =
        (Recorded.answer faults s c).2.run faults (next (Recorded.answer faults s c).1) := rfl
    rw [hrun] at hmade ⊢
    rcases Recorded.answer_cases faults s c with ⟨a, ha, hr⟩ | ⟨e, u, hr, -⟩ <;> rw [hr] at hmade ⊢
    · obtain ⟨later, hlater, -⟩ := (makes_true (next (.ok a))).exists_calls faults ⟨_, s.calls ++ [(c, true)]⟩
      obtain rfl : (c, true) :: later = made := by simpa using hlater.symm.trans hmade
      have hrest := run_of_forall_ok (next (.ok a)) _ hlater fun call hcall => hok call (List.mem_cons_of_mem _ hcall)
      rwa [← ha] at hrest ⊢
    · obtain ⟨later, hlater, -⟩ := (makes_true (next (.error e))).exists_calls faults ⟨u, s.calls ++ [(c, false)]⟩
      obtain rfl : (c, false) :: later = made := by simpa using hlater.symm.trans hmade
      exact absurd (hok _ List.mem_cons_self) Bool.false_ne_true

theorem Makes.preserves_calls {p : Plan α} (h : p.Makes S) :
    p.Preserves (Recorded.answer faults) fun s => ∀ call ∈ s.calls, S call.1 := by
  intro s hs call hcall
  obtain ⟨made, hmade, hall⟩ := h.exists_calls faults s
  rw [hmade] at hcall
  exact (List.mem_append.1 hcall).elim (hs call) (hall call)

end Plan

end HubSearch
