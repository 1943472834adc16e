/-
Work that succeeds exactly when all of its calls do: nothing is checked beyond what the calls answer, and no failure is
swallowed (`Work.Strict`). A series in which every item is attempted swallows the failures of its items, but reports
each of them, in the order of the items (`run_attemptEach_turns`).
-/
import HubSearch.Proofs.Store.Faulty

namespace HubSearch

variable {α β : Type}

/-- The work succeeds exactly when all the calls that it makes do. -/
def Work.Strict (x : Work α) : Prop := ∀ (faults : Faults) (s : Recorded), ∃ made,
  (s.run faults x.run).2.calls = s.calls ++ made ∧
    ((s.run faults x.run).1.isOk = true ↔ ∀ call ∈ made, call.2 = true)

namespace Work

theorem strict_pure (a : α) : (pure a : Work α).Strict := fun _ _ =>
  ⟨[], (List.append_nil _).symm, fun _ _ h => absurd h List.not_mem_nil, fun _ => rfl⟩

theorem strict_ask (c : StoreCall) : (ask c).Strict := by
  intro faults s
  rw [show s.run faults (ask c).run = Recorded.answer faults s c from rfl]
  rcases Recorded.answer_cases faults s c with ⟨a, -, hr⟩ | ⟨e, u, hr, -⟩ <;> rw [hr]
  · exact ⟨_, rfl, fun _ => by simp, fun _ => rfl⟩
  · exact ⟨_, rfl, by simp [Except.isOk, Except.toBool]⟩

theorem Strict.bind {x : Work α} {f : α → Work β} (hx : x.Strict) (hf : ∀ a, (f a).Strict) : (x >>= f).Strict := by
  intro faults s
  obtain ⟨made, hmade, hok⟩ := hx faults s
  rcases Recorded.run_work_bind_cases faults s x f with ⟨a, t, ht, hr⟩ | ⟨e, t, ht, hr⟩ <;> rw [ht] at hmade hok <;>
    rw [hr]
  · obtain ⟨more, hmore, hok'⟩ := hf a faults t
    refine ⟨made ++ more, ?_, ?_⟩
    · rw [hmore, hmade, List.append_assoc]
    · rw [hok', List.forall_mem_append]
      exact ⟨fun h => ⟨hok.1 rfl, h⟩, fun h => h.2⟩
  · exact ⟨made, hmade, hok⟩

theorem Strict.onObject {x : Work α} (hx : x.Strict) (action : StoreAction) (kind name : String) :
    (onObject action kind name x).Strict := by
  intro faults s
  obtain ⟨made, hmade, hok⟩ := hx faults s
  have hrun : s.run faults (Work.onObject action kind name x).run = _ :=
    Work.run_onObject (Recorded.answer faults) s action kind name x
  rw [hrun]
  refine ⟨made, hmade, ?_⟩
  rw [← hok]
  show (Except.mapError _ (s.run faults x.run).1).isOk = true ↔ _
  cases (s.run faults x.run).1 <;> rfl

/-- The calls that the work makes are of its kind, and all of them succeed exactly when the work does. -/
theorem Strict.exists_calls {x : Work α} {S : StoreCall → Prop} (hx : x.Strict) (hmakes : x.run.Makes S)
    (faults : Faults) (s : Recorded) : ∃ made, (s.run faults x.run).2.calls = s.calls ++ made ∧
      ((s.run faults x.run).1.isOk = true ↔ ∀ call ∈ made, call.2 = true) ∧ ∀ call ∈ made, S call.1 := by
  obtain ⟨made, hmade, hok⟩ := hx faults s
  obtain ⟨made', hmade', hall⟩ := hmakes.exists_calls faults s
  obtain rfl := List.append_cancel_left (hmade.symm.trans hmade')
  exact ⟨made, hmade, hok, hall⟩

theorem strict_forM {act : α → Work Unit} : ∀ {as : List α}, (∀ a ∈ as, (act a).Strict) → (as.forM act).Strict
  | [], _ => strict_pure ()
  | a :: _, h =>
    (h a List.mem_cons_self).bind fun _ => strict_forM fun b hb => h b (List.mem_cons_of_mem a hb)

end Work

/-! ## A series of attempts -/

/-- The turn of an item in a series, with the calls that were made for it. -/
structure Turn (α : Type) where
  item : α
  calls : List (StoreCall × Bool)

/-- Whether a call of the turn failed. -/
def Turn.failed (turn : Turn α) : Bool := turn.calls.any fun call => !call.2

theorem Turn.failed_eq_false_iff {turn : Turn α} : turn.failed = false ↔ ∀ call ∈ turn.calls, call.2 = true := by
  simp [failed]

theorem Recorded.run_attemptEach_cons (faults : Faults) (s : Recorded) (labels : α → List String) (act : α → Work Unit)
    (a : α) (rest : List α) :
    s.run faults (Work.attemptEach labels act (a :: rest)) =
      (match (s.run faults (act a).run).1 with
        | .ok _ => ((s.run faults (act a).run).2.run faults (Work.attemptEach labels act rest)).1
        | .error e =>
          (labels a, e) :: ((s.run faults (act a).run).2.run faults (Work.attemptEach labels act rest)).1,
        ((s.run faults (act a).run).2.run faults (Work.attemptEach labels act rest)).2) :=
  Plan.run_attemptEach_cons (Recorded.answer faults) s labels act a rest

namespace Plan

theorem Preserves.of_run {σ : Type} {answer : Answering σ} {P : σ → Prop} {p : Plan α} (hp : p.Preserves answer P)
    {s t : σ} {a : α} (hs : P s) (h : p.run answer s = (a, t)) : P t := by
  have ht := hp s hs
  rwa [h] at ht

/-- In a series of attempts every item has its turn. The failures are those of the turns with a call that failed, in
their order; and what an item without such a call achieves holds in the end, if the others keep it. -/
theorem run_attemptEach_turns {faults : Faults} {labels : α → List String} {act : α → Work Unit}
    {S : α → StoreCall → Prop} {Inv : Recorded → Prop} {Post : α → Recorded → Prop} : ∀ {as : List α},
    (∀ a ∈ as, (act a).Strict) → (∀ a ∈ as, (act a).run.Makes (S a)) →
    (∀ a ∈ as, (act a).run.Preserves (Recorded.answer faults) Inv) →
    (∀ a ∈ as, ∀ s t, Inv s → s.run faults (act a).run = (.ok (), t) → Post a t) →
    (∀ a ∈ as, ∀ b ∈ as, (act a).run.Preserves (Recorded.answer faults) fun s => Inv s ∧ Post b s) →
    ∀ {s t : Recorded} {failures : Failures}, Inv s →
      s.run faults (Work.attemptEach labels act as) = (failures, t) → ∃ turns : List (Turn α),
        turns.map (·.item) = as ∧ t.calls = s.calls ++ turns.flatMap (·.calls) ∧
        (∀ turn ∈ turns, ∀ call ∈ turn.calls, S turn.item call.1) ∧
        failures.map (·.1) = (turns.filter (·.failed)).map (fun turn => labels turn.item) ∧
        ∀ turn ∈ turns, turn.failed = false → Post turn.item t
  | [], _, _, _, _, _, s, _, _, _, h => by
    cases h
    exact ⟨[], rfl, (List.append_nil _).symm, by simp, rfl, by simp⟩
  | a :: rest, hstrict, hmakes, hinv, hpost, hkeep, s, t, failures, hs, h => by
    obtain ⟨made, hmade, hok, hall⟩ :=
      (hstrict a List.mem_cons_self).exists_calls (hmakes a List.mem_cons_self) faults s
    rw [Recorded.run_attemptEach_cons] at h
    cases hfirst : s.run faults (act a).run with
    | mk outcome u =>
      have hu : Inv u := (hinv a List.mem_cons_self).of_run hs hfirst
      rw [hfirst] at h hmade hok
      cases hlater : u.run faults (Work.attemptEach labels act rest) with
      | mk later v =>
        dsimp only at h
        rw [hlater] at h
        obtain ⟨hfailures, rfl⟩ := Prod.mk.inj h
        obtain ⟨turns, hitems, hcalls, hkinds, hlabels, hholds⟩ := run_attemptEach_turns
          (fun b hb => hstrict b (List.mem_cons_of_mem a hb)) (fun b hb => hmakes b (List.mem_cons_of_mem a hb))
          (fun b hb => hinv b (List.mem_cons_of_mem a hb)) (fun b hb => hpost b (List.mem_cons_of_mem a hb))
          (fun b hb c hc => hkeep b (List.mem_cons_of_mem a hb) c (List.mem_cons_of_mem a hc)) hu hlater
        refine ⟨⟨a, made⟩ :: turns, by rw [List.map_cons, hitems], ?_, List.forall_mem_cons.2 ⟨hall, hkinds⟩, ?_, ?_⟩
        · rw [hcalls, hmade, List.append_assoc, List.flatMap_cons]
        · -- the turn of the first item failed exactly when the item did
          cases outcome with
          | ok _ =>
            have hnone : (⟨a, made⟩ : Turn α).failed = false := Turn.failed_eq_false_iff.2 (hok.1 rfl)
            rw [← hfailures, List.filter_cons_of_neg (by rw [hnone]; decide)]
            exact hlabels
          | error e =>
            have hsome : (⟨a, made⟩ : Turn α).failed = true := by
              cases hfailed : (⟨a, made⟩ : Turn α).failed with
              | true => rfl
              | false => exact nomatch hok.2 (Turn.failed_eq_false_iff.1 hfailed)
            rw [← hfailures, List.filter_cons_of_pos hsome]
            exact congrArg (labels a :: ·) hlabels
        · intro turn hturn hnone
          rcases List.mem_cons.1 hturn with rfl | hturn
          · obtain ⟨⟨⟩, rfl⟩ := exists_ok_of_isOk (hok.2 (Turn.failed_eq_false_iff.1 hnone))
            have hrest : (Work.attemptEach labels act rest).Preserves (Recorded.answer faults)
                fun s => Inv s ∧ Post a s :=
              preserves_attemptEach fun b hb => hkeep b (List.mem_cons_of_mem a hb) a List.mem_cons_self
            exact (hrest.of_run ⟨hu, hpost a List.mem_cons_self s u hs hfirst⟩ hlater).2
          · exact hholds turn hturn hnone

end Plan

end HubSearch
