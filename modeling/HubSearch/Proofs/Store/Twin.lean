/-
Two runs of one plan, from states that are alike. When each of its steps is answered alike and leaves the states alike,
both runs give the same value and end in states that are alike (`Plan.Twin`); where failures can differ, the runs
succeed or fail together (`Work.TwinUpTo`). So a plan does not notice what differs in stores that it does not call
(`Plan.Makes.twin_agreeOn`).
-/
import HubSearch.Proofs.Store.Faulty
import Mathlib.Data.List.Forall2

namespace HubSearch

variable {α β σ : Type}

namespace Plan

/-- From states that are alike the plan gives the same value, and states that are alike again. -/
def Twin (answer : Answering σ) (R : σ → σ → Prop) (p : Plan α) : Prop :=
  ∀ s t, R s t → (p.run answer t).1 = (p.run answer s).1 ∧ R (p.run answer s).2 (p.run answer t).2

variable {answer : Answering σ} {R : σ → σ → Prop}

theorem twin_pure (a : α) : (pure a : Plan α).Twin answer R := fun _ _ h => ⟨rfl, h⟩

theorem Twin.bind {p : Plan α} {f : α → Plan β} (hp : p.Twin answer R) (hf : ∀ a, (f a).Twin answer R) :
    (p >>= f).Twin answer R := by
  intro s t h
  obtain ⟨hvalue, hstate⟩ := hp s t h
  rw [run_bind, run_bind, hvalue]
  exact hf _ _ _ hstate

theorem Twin.work_bind {x : Work α} {f : α → Work β} (hx : x.run.Twin answer R) (hf : ∀ a, (f a).run.Twin answer R) :
    (x >>= f).run.Twin answer R := by
  refine Twin.bind hx fun r => ?_
  cases r with
  | ok a => exact hf a
  | error e => exact twin_pure _

theorem twin_attemptEach {labels : α → List String} {act : α → Work Unit} : ∀ {as : List α},
    (∀ a ∈ as, (act a).run.Twin answer R) → (Work.attemptEach labels act as).Twin answer R
  | [], _ => twin_pure _
  | a :: _, h =>
    (h a List.mem_cons_self).bind fun _ =>
      (twin_attemptEach fun b hb => h b (List.mem_cons_of_mem a hb)).bind fun _ => twin_pure _

theorem twin_forM {act : α → Work Unit} : ∀ {as : List α}, (∀ a ∈ as, (act a).run.Twin answer R) →
    (as.forM act).run.Twin answer R
  | [], _ => twin_pure _
  | a :: _, h =>
    (h a List.mem_cons_self).work_bind fun _ => twin_forM fun b hb => h b (List.mem_cons_of_mem a hb)

/-- When every call that the plan can make is answered alike, the runs are alike. -/
theorem Makes.twin {S : StoreCall → Prop}
    (hS : ∀ s t c, S c → R s t → (answer t c).1 = (answer s c).1 ∧ R (answer s c).2 (answer t c).2) :
    ∀ {p : Plan α}, p.Makes S → p.Twin answer R
  | .done _, _, _, _, h => ⟨rfl, h⟩
  | .call c next, hm, s, t, h => by
    obtain ⟨hreply, hstate⟩ := hS s t c hm.1 h
    show ((next (answer t c).1).run answer (answer t c).2).1 = _ ∧
      R _ ((next (answer t c).1).run answer (answer t c).2).2
    rw [hreply]
    exact (hm.2 (answer s c).1).twin hS _ _ hstate

end Plan

/-! ## Failures that differ -/

/-- Two results are the same, or both are failures of which something holds. -/
def SameUpTo (E : OperatorError → OperatorError → Prop) (x y : Except OperatorError α) : Prop :=
  y = x ∨ ∃ e e', x = .error e ∧ y = .error e' ∧ E e e'

variable {E : OperatorError → OperatorError → Prop}

theorem SameUpTo.map {x y : Except OperatorError α} (h : SameUpTo E x y) (f : α → β) :
    SameUpTo E (x.map f) (y.map f) := by
  rcases h with rfl | ⟨e, e', rfl, rfl, he⟩
  · exact .inl rfl
  · exact .inr ⟨e, e', rfl, rfl, he⟩

/-- From states that are alike the work gives the same result, or fails in both, and states that are alike again. -/
def Work.TwinUpTo (answer : Plan.Answering σ) (R : σ → σ → Prop) (E : OperatorError → OperatorError → Prop)
    (x : Work α) : Prop :=
  ∀ s t, R s t → SameUpTo E (x.run.run answer s).1 (x.run.run answer t).1 ∧
    R (x.run.run answer s).2 (x.run.run answer t).2

section

variable {answer : Plan.Answering σ} {R : σ → σ → Prop}

theorem Plan.Twin.upTo {x : Work α} (h : x.run.Twin answer R) : x.TwinUpTo answer R E := fun s t hst =>
  ⟨.inl (h s t hst).1, (h s t hst).2⟩

theorem Work.TwinUpTo.bind {x : Work α} {f : α → Work β} (hx : x.TwinUpTo answer R E)
    (hf : ∀ a, (f a).TwinUpTo answer R E) : (x >>= f).TwinUpTo answer R E := by
  intro s t hst
  obtain ⟨hresult, hstate⟩ := hx s t hst
  cases hs : x.run.run answer s with
  | mk result u =>
    cases ht : x.run.run answer t with
    | mk result' v =>
      rw [hs, ht] at hresult hstate
      rcases hresult with rfl | ⟨e, e', rfl, rfl, he⟩
      · cases result' with
        | ok a =>
          rw [Work.run_bind_of_ok hs, Work.run_bind_of_ok ht]
          exact hf a _ _ hstate
        | error e =>
          rw [Work.run_bind_of_error hs, Work.run_bind_of_error ht]
          exact ⟨.inl rfl, hstate⟩
      · rw [Work.run_bind_of_error hs, Work.run_bind_of_error ht]
        exact ⟨.inr ⟨e, e', rfl, rfl, he⟩, hstate⟩

theorem Work.twinUpTo_forM {act : α → Work Unit} : ∀ {as : List α}, (∀ a ∈ as, (act a).TwinUpTo answer R E) →
    (as.forM act).TwinUpTo answer R E
  | [], _ => (Plan.twin_pure (.ok ())).upTo
  | a :: _, h =>
    (h a List.mem_cons_self).bind fun _ => Work.twinUpTo_forM fun b hb => h b (List.mem_cons_of_mem a hb)

/-- Two causes of a failure are the same, or are those of one attempt and differ as its failures do. -/
def SameCause (labels : α → List String) (as : List α) (E : α → OperatorError → OperatorError → Prop)
    (c c' : List String × OperatorError) : Prop :=
  c' = c ∨ ∃ a ∈ as, ∃ e e', c = (labels a, e) ∧ c' = (labels a, e') ∧ E a e e'

/-- In a series the same attempts fail. -/
theorem Work.TwinUpTo.attemptEach {E : α → OperatorError → OperatorError → Prop} (labels : α → List String)
    {act : α → Work Unit} : ∀ {as : List α}, (∀ a ∈ as, (act a).TwinUpTo answer R (E a)) → ∀ s t, R s t →
      List.Forall₂ (SameCause labels as E) ((Work.attemptEach labels act as).run answer s).1
        ((Work.attemptEach labels act as).run answer t).1 ∧
      R ((Work.attemptEach labels act as).run answer s).2 ((Work.attemptEach labels act as).run answer t).2
  | [], _, _, _, hst => ⟨.nil, hst⟩
  | a :: rest, h, s, t, hst => by
    obtain ⟨hresult, hstate⟩ := h a List.mem_cons_self s t hst
    obtain ⟨hrest, hend⟩ :=
      Work.TwinUpTo.attemptEach labels (fun b hb => h b (List.mem_cons_of_mem a hb)) _ _ hstate
    have hmore : ∀ c c', SameCause labels rest E c c' → SameCause labels (a :: rest) E c c' := fun _ _ hc =>
      hc.imp_right fun ⟨b, hb, hdiffer⟩ => ⟨b, List.mem_cons_of_mem a hb, hdiffer⟩
    rw [Plan.run_attemptEach_cons, Plan.run_attemptEach_cons]
    rcases hresult with hresult | ⟨e, e', he, he', hdiffer⟩
    · rw [hresult]
      cases ((act a).run.run answer s).1 with
      | ok _ => exact ⟨hrest.imp hmore, hend⟩
      | error e => exact ⟨.cons (.inl rfl) (hrest.imp hmore), hend⟩
    · rw [he, he']
      exact ⟨.cons (.inr ⟨a, List.mem_cons_self, e, e', rfl, rfl, hdiffer⟩) (hrest.imp hmore), hend⟩

end

/-! ## Stores that differ elsewhere -/

/-- Some of the stores are the same, and so are the namespaces in which writes fail. -/
structure World.AgreeOn (S : StoreRef → Prop) (w v : World) : Prop where
  store : ∀ r, S r → v.store r = w.store r
  failing : v.failing = w.failing

variable {S : StoreRef → Prop}

/-- A call to one of these stores is answered alike. -/
theorem World.AgreeOn.answer {w v : World} (h : w.AgreeOn S v) {c : StoreCall} (hc : S c.store) :
    (World.answer v c).1 = (World.answer w c).1 ∧ (World.answer w c).2.AgreeOn S (World.answer v c).2 := by
  obtain ⟨hreply, hstore⟩ := answer_congr (h.store _ hc) h.failing
  refine ⟨hreply, fun r hr => ?_, ?_⟩
  · by_cases hr' : r = c.store
    · subst hr'
      exact hstore
    · rw [store_answer_of_ne v c hr', store_answer_of_ne w c hr', h.store r hr]
  · rw [failing_answer, failing_answer, h.failing]

/-- Records of the same calls, made to stores of which some are the same. -/
structure Recorded.AgreeOn (S : StoreRef → Prop) (s t : Recorded) : Prop where
  calls : t.calls = s.calls
  world : s.world.AgreeOn S t.world

theorem Recorded.AgreeOn.answer {s t : Recorded} (h : s.AgreeOn S t) (faults : Faults) {c : StoreCall}
    (hc : S c.store) :
    (Recorded.answer faults t c).1 = (Recorded.answer faults s c).1 ∧
      (Recorded.answer faults s c).2.AgreeOn S (Recorded.answer faults t c).2 := by
  obtain ⟨hreply, hworld⟩ := h.world.answer hc
  unfold Recorded.answer
  rw [h.calls]
  cases faults s.calls.length with
  | some e => exact ⟨rfl, rfl, h.world⟩
  | none => exact ⟨hreply, by dsimp only; rw [hreply], hworld⟩

/-- A plan that calls only some of the stores runs alike where these are the same, whatever fails. -/
theorem Plan.Makes.twin_agreeOn (faults : Faults) {p : Plan α} (h : p.Makes fun c => S c.store) :
    p.Twin (Recorded.answer faults) (Recorded.AgreeOn S) :=
  h.twin fun _ _ _ hc hst => hst.answer faults hc

end HubSearch
