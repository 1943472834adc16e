/-
Running plans on the stores in memory, a step at a time, and what a run keeps: `Plan.Keeps` is
`Plan.Preserves` for these stores. `World.OnlyRead` is the trace of a run without writes.
-/
import HubSearch.Proofs.Store.Memory
import HubSearch.Proofs.Store.Plan

namespace HubSearch

variable {α β : Type}

/-- Whether a call writes a status. -/
def StoreCall.isStatusWrite : StoreCall → Bool
  | .writeStatus .. => true
  | _ => false

theorem StoreCall.isStatusWrite_of_isWrite {c : StoreCall} (h : c.isWrite = false) : c.isStatusWrite = false := by
  cases c with
  | writeStatus => cases h
  | _ => rfl

theorem exists_ok_of_isOk {ε : Type} : ∀ {r : Except ε α}, r.isOk = true → ∃ a, r = .ok a
  | .ok a, _ => ⟨a, rfl⟩
  | .error _, h => nomatch h

namespace World

@[simp]
theorem run_pure (w : World) (a : α) : w.run (pure a : Plan α) = (a, w) := rfl

theorem run_bind (w : World) (p : Plan α) (f : α → Plan β) :
    w.run (p >>= f) = (w.run p).2.run (f (w.run p).1) :=
  Plan.run_bind answer f p w

theorem run_work_bind_cases (w : World) (x : Work α) (f : α → Work β) :
    (∃ a v, w.run x.run = (.ok a, v) ∧ w.run (x >>= f).run = v.run (f a).run) ∨
      ∃ e v, w.run x.run = (.error e, v) ∧ w.run (x >>= f).run = (.error e, v) :=
  Work.run_bind_cases answer w x f

theorem run_work_bind_ok {w v : World} {x : Work α} {a : α} (hx : w.run x.run = (.ok a, v)) (f : α → Work β) :
    w.run (x >>= f).run = v.run (f a).run :=
  Work.run_bind_of_ok hx f

theorem run_lift (w : World) (p : Plan α) :
    w.run (liftM p : Work α).run = (.ok (w.run p).1, (w.run p).2) :=
  Work.run_lift answer w p

theorem run_forEach_cons (w : World) (act : α → Plan β) (a : α) (rest : List α) :
    w.run (Plan.forEach act (a :: rest)) =
      ((w.run (act a)).1 :: ((w.run (act a)).2.run (Plan.forEach act rest)).1,
        ((w.run (act a)).2.run (Plan.forEach act rest)).2) :=
  Plan.run_forEach_cons answer w act a rest

theorem run_attemptEach_cons (w : World) (labels : α → List String) (act : α → Work Unit) (a : α) (rest : List α) :
    w.run (Work.attemptEach labels act (a :: rest)) =
      (match (w.run (act a).run).1 with
        | .ok _ => ((w.run (act a).run).2.run (Work.attemptEach labels act rest)).1
        | .error e => (labels a, e) :: ((w.run (act a).run).2.run (Work.attemptEach labels act rest)).1,
        ((w.run (act a).run).2.run (Work.attemptEach labels act rest)).2) :=
  Plan.run_attemptEach_cons answer w labels act a rest

end World

namespace Plan

/-! ## Properties of the stores that a run keeps -/

/-- A run of the plan keeps a property of the stores. -/
def Keeps (P : World → Prop) (p : Plan α) : Prop := ∀ w, P w → P (w.run p).2

variable {P : World → Prop} {S : StoreCall → Prop}

theorem keeps_pure (a : α) : (pure a : Plan α).Keeps P := fun _ h => h

theorem Keeps.work_bind {x : Work α} {f : α → Work β} (hx : x.run.Keeps P) (hf : ∀ a, (f a).run.Keeps P) :
    (x >>= f).run.Keeps P :=
  Preserves.work_bind hx hf

theorem Keeps.lift {p : Plan α} (h : p.Keeps P) : (liftM p : Work α).run.Keeps P := Preserves.lift h

theorem keeps_forEach {act : α → Plan β} {as : List α} (h : ∀ a ∈ as, (act a).Keeps P) : (forEach act as).Keeps P :=
  preserves_forEach h

theorem keeps_attemptEach {labels : α → List String} {act : α → Work Unit} {as : List α}
    (h : ∀ a ∈ as, (act a).run.Keeps P) : (Work.attemptEach labels act as).Keeps P :=
  preserves_attemptEach h

theorem keeps_forM {act : α → Work Unit} {as : List α} (h : ∀ a ∈ as, (act a).run.Keeps P) :
    (as.forM act).run.Keeps P :=
  preserves_forM h

/-! ## What a series of works achieves -/

section

variable {Inv : World → Prop} {Post : α → World → Prop} {act : α → Work Unit} {labels : α → List String}
  {as : List α} (hinv : ∀ a ∈ as, (act a).run.Keeps Inv)
  (hpost : ∀ a ∈ as, ∀ w v, Inv w → w.run (act a).run = (.ok (), v) → Post a v)
  (hkeep : ∀ a ∈ as, ∀ b ∈ as, (act a).run.Keeps fun w => Inv w ∧ Post b w)

include hinv hpost hkeep

theorem post_forM {w v : World} (hw : Inv w) (h : w.run (as.forM act).run = (.ok (), v)) : ∀ a ∈ as, Post a v :=
  achieves_forM hinv hpost hkeep hw h

theorem post_attemptEach {w v : World} (hw : Inv w)
    (h : w.run (Work.attemptEach labels act as) = ([], v)) : ∀ a ∈ as, Post a v :=
  achieves_attemptEach hinv hpost hkeep hw h

end

theorem post_forEach {Inv : World → Prop} {Post : α → World → Prop} {plan : α → Plan β} {Good : β → Prop}
    {as : List α} (hinv : ∀ a ∈ as, (plan a).Keeps Inv)
    (hpost : ∀ a ∈ as, ∀ w b v, Inv w → w.run (plan a) = (b, v) → Good b → Post a v)
    (hkeep : ∀ a ∈ as, ∀ b ∈ as, (plan a).Keeps fun w => Inv w ∧ Post b w) {w v : World} {bs : List β} (hw : Inv w)
    (h : w.run (forEach plan as) = (bs, v)) (hgood : ∀ b ∈ bs, Good b) : ∀ a ∈ as, Post a v :=
  achieves_forEach hinv hpost hkeep hw h hgood

/-! ## Works that cannot fail -/

section

variable {Inv : World → Prop} {act : α → Work Unit}

/-- When each work succeeds as long as something holds, and keeps it, all of them succeed. -/
theorem succeeds_forM : ∀ {as : List α}, (∀ a ∈ as, ∀ w, Inv w → ∃ v, w.run (act a).run = (.ok (), v) ∧ Inv v) →
    ∀ {w : World}, Inv w → ∃ v, w.run (as.forM act).run = (.ok (), v) ∧ Inv v
  | [], _, w, hw => ⟨w, rfl, hw⟩
  | a :: _, h, w, hw => by
    obtain ⟨u, hu, hiu⟩ := h a List.mem_cons_self w hw
    obtain ⟨v, hv, hiv⟩ := succeeds_forM (fun b hb => h b (List.mem_cons_of_mem a hb)) hiu
    exact ⟨v, (World.run_work_bind_ok hu _).trans hv, hiv⟩

theorem succeeds_attemptEach (labels : α → List String) : ∀ {as : List α},
    (∀ a ∈ as, ∀ w, Inv w → ∃ v, w.run (act a).run = (.ok (), v) ∧ Inv v) →
    ∀ {w : World}, Inv w → ∃ v, w.run (Work.attemptEach labels act as) = ([], v) ∧ Inv v
  | [], _, w, hw => ⟨w, rfl, hw⟩
  | a :: _, h, w, hw => by
    obtain ⟨u, hu, hiu⟩ := h a List.mem_cons_self w hw
    obtain ⟨v, hv, hiv⟩ := succeeds_attemptEach labels (fun b hb => h b (List.mem_cons_of_mem a hb)) hiu
    refine ⟨v, ?_, hiv⟩
    rw [World.run_attemptEach_cons, hu]
    dsimp only
    rw [hv]

end

/-! ## Calls and what they keep -/

/-- What every call that the plan can make keeps is kept by its run. -/
theorem Makes.keeps (hS : ∀ w c, S c → P w → P (World.answer w c).2) {p : Plan α} (h : p.Makes S) : p.Keeps P :=
  Makes.preserves hS h

/-- A store that a plan does not write to stays as it is. -/
theorem Makes.keeps_store {r : StoreRef} {s : Store r.kind} {p : Plan α}
    (h : p.Makes fun c => c.isWrite = true → c.store ≠ r) : p.Keeps fun w => w.store r = s := by
  refine h.keeps fun w c hc hs => ?_
  cases hw : c.isWrite with
  | true => rw [World.store_answer_of_ne w c (hc hw).symm, hs]
  | false =>
    cases c with
    | fetch => exact hs
    | fetchAll => exact hs
    | _ => cases hw

end Plan

/-! ## Runs without writes -/

/-- The second stores are the first ones after some calls that wrote nothing. -/
structure World.OnlyRead (w w' : World) : Prop where
  store : w'.store = w.store
  failing : w'.failing = w.failing
  log : ∃ reads, w'.log = w.log ++ reads ∧ ∀ c ∈ reads, c.isWrite = false

namespace World.OnlyRead

theorem refl (w : World) : w.OnlyRead w := ⟨rfl, rfl, [], by simp, by simp⟩

theorem trans {w v u : World} (h : w.OnlyRead v) (h' : v.OnlyRead u) : w.OnlyRead u := by
  obtain ⟨reads, hv, hr⟩ := h.log
  obtain ⟨more, hu, hm⟩ := h'.log
  refine ⟨h'.store.trans h.store, h'.failing.trans h.failing, reads ++ more, ?_, fun c hc => ?_⟩
  · rw [hu, hv, List.append_assoc]
  · rcases List.mem_append.1 hc with hc | hc
    · exact hr c hc
    · exact hm c hc

theorem blocks_eq {w v : World} (h : w.OnlyRead v) (r : StoreRef) (name : String) :
    v.blocks r name = w.blocks r name := by
  rw [blocks, blocks, h.store, h.failing]

theorem unblocked {w v : World} (h : w.OnlyRead v) (hw : w.Unblocked) : v.Unblocked := fun r name =>
  (h.blocks_eq r name).trans (hw r name)

theorem logged (w : World) {c : StoreCall} (h : c.isWrite = false) : w.OnlyRead (w.logged c) :=
  ⟨rfl, rfl, [c], rfl, by simpa using h⟩

theorem answer (w : World) {c : StoreCall} (h : c.isWrite = false) : w.OnlyRead (World.answer w c).2 := by
  cases c with
  | fetch => exact logged w h
  | fetchAll => exact logged w h
  | _ => cases h

end World.OnlyRead

/-- The second stores are the first ones after a call that succeeded, among calls that wrote nothing. -/
def World.MadeOnly (w : World) (c : StoreCall) (v : World) : Prop :=
  ∃ u, w.OnlyRead u ∧ (World.answer u c).1.isOk = true ∧ (World.answer u c).2.OnlyRead v

theorem World.OnlyRead.madeOnly {w u v : World} {c : StoreCall} (h : w.OnlyRead u) (hc : u.MadeOnly c v) :
    w.MadeOnly c v := by
  obtain ⟨t, hbefore, hok, hafter⟩ := hc
  exact ⟨t, h.trans hbefore, hok, hafter⟩

theorem World.MadeOnly.onlyRead {w u v : World} {c : StoreCall} (hc : w.MadeOnly c u) (h : u.OnlyRead v) :
    w.MadeOnly c v := by
  obtain ⟨t, hbefore, hok, hafter⟩ := hc
  exact ⟨t, hbefore, hok, hafter.trans h⟩

theorem Plan.Makes.onlyRead {p : Plan α} (h : p.Makes fun c => c.isWrite = false) (w : World) :
    w.OnlyRead (w.run p).2 :=
  h.keeps (fun _ _ hc hv => hv.trans (.answer _ hc)) w (.refl w)

/-- Reading gives the same in stores that are the same where it looks. -/
theorem Plan.Makes.run_fst_eq {S : StoreRef → Prop} : ∀ {p : Plan α}, (p.Makes fun c => c.isWrite = false ∧ S c.store) →
    ∀ {w w' : World}, (∀ r, S r → w'.store r = w.store r) → (w'.run p).1 = (w.run p).1
  | .done _, _, _, _, _ => rfl
  | .call c next, h, w, w', hs => by
    have hreply : (World.answer w' c).1 = (World.answer w c).1 := by
      cases c with
      | fetch r name => exact congrArg (fun s : Store r.kind => Except.ok (s.objects.get? name)) (hs r h.1.2)
      | fetchAll r => exact congrArg (fun s : Store r.kind => Except.ok s.objects.values) (hs r h.1.2)
      | _ => cases h.1.1
    have hstores : ∀ r, S r → (World.answer w' c).2.store r = (World.answer w c).2.store r := by
      intro r hr
      rw [(World.OnlyRead.answer w' h.1.1).store, (World.OnlyRead.answer w h.1.1).store]
      exact hs r hr
    show ((World.answer w' c).2.run (next (World.answer w' c).1)).1 = _
    rw [hreply]
    exact (h.2 (World.answer w c).1).run_fst_eq hstores

end HubSearch
