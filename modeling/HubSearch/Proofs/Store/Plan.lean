/-
Runs of plans, whatever answers their calls: what work does after work that came first, what a run keeps
(`Plan.Preserves`), what a series of works achieves, and the calls that a plan can make (`Plan.Makes`). A
property that the answer to every such call keeps is kept by the run.
-/
import HubSearch.Store.Call

namespace HubSearch

variable {α β σ : Type}

/-! ## A step at a time -/

namespace Work

variable {answer : Plan.Answering σ}

/-- Work goes on after what came first, or fails with it. -/
theorem run_bind_cases (answer : Plan.Answering σ) (s : σ) (x : Work α) (f : α → Work β) :
    (∃ a t, x.run.run answer s = (.ok a, t) ∧ (x >>= f).run.run answer s = (f a).run.run answer t) ∨
      ∃ e t, x.run.run answer s = (.error e, t) ∧ (x >>= f).run.run answer s = (.error e, t) := by
  have h := Work.run_bind answer s x f
  rw [h]
  cases hx : x.run.run answer s with
  | mk r t =>
    cases r with
    | ok a => exact .inl ⟨a, t, rfl, rfl⟩
    | error e => exact .inr ⟨e, t, rfl, rfl⟩

theorem run_bind_of_ok {s t : σ} {x : Work α} {a : α} (hx : x.run.run answer s = (.ok a, t)) (f : α → Work β) :
    (x >>= f).run.run answer s = (f a).run.run answer t := by
  rw [Work.run_bind, hx]

theorem run_bind_of_error {s t : σ} {x : Work α} {e : OperatorError} (hx : x.run.run answer s = (.error e, t))
    (f : α → Work β) : (x >>= f).run.run answer s = (.error e, t) := by
  rw [Work.run_bind, hx]

theorem run_lift (answer : Plan.Answering σ) (s : σ) (p : Plan α) :
    (liftM p : Work α).run.run answer s = (.ok (p.run answer s).1, (p.run answer s).2) := by
  show (Except.ok <$> p : Plan _).run answer s = _
  rw [map_eq_pure_bind, Plan.run_bind]
  rfl

theorem run_onObject_ask (answer : Plan.Answering σ) (s : σ) (action : StoreAction) (kind name : String)
    (c : StoreCall) :
    (onObject action kind name (ask c)).run.run answer s =
      ((answer s c).1.mapError (.apply action kind name), (answer s c).2) :=
  run_onObject answer s action kind name (ask c)

theorem run_onObject_ask_then (answer : Plan.Answering σ) (s : σ) (action : StoreAction) (kind name : String)
    (c : StoreCall) (a : α) :
    (do let _ ← onObject action kind name (ask c); pure a : Work α).run.run answer s =
      (((answer s c).1.mapError (.apply action kind name)).map fun _ => a, (answer s c).2) := by
  rw [Work.run_bind, run_onObject_ask]
  cases (answer s c).1 <;> rfl

end Work

namespace Plan

theorem run_forEach_cons (answer : Answering σ) (s : σ) (act : α → Plan β) (a : α) (rest : List α) :
    (forEach act (a :: rest)).run answer s =
      (((act a).run answer s).1 :: ((forEach act rest).run answer ((act a).run answer s).2).1,
        ((forEach act rest).run answer ((act a).run answer s).2).2) := by
  rw [forEach, run_bind, run_bind, run_pure]

theorem run_forEach_append (answer : Answering σ) (act : α → Plan β) (later : List α) : ∀ (earlier : List α) (s : σ),
    (forEach act (earlier ++ later)).run answer s =
      (((forEach act earlier).run answer s).1 ++
          ((forEach act later).run answer ((forEach act earlier).run answer s).2).1,
        ((forEach act later).run answer ((forEach act earlier).run answer s).2).2)
  | [], _ => rfl
  | a :: rest, s => by
    rw [List.cons_append, run_forEach_cons, run_forEach_cons, run_forEach_append answer act later rest]
    rfl

theorem run_attemptEach_cons (answer : Answering σ) (s : σ) (labels : α → List String) (act : α → Work Unit) (a : α)
    (rest : List α) :
    (Work.attemptEach labels act (a :: rest)).run answer s =
      (match ((act a).run.run answer s).1 with
        | .ok _ => ((Work.attemptEach labels act rest).run answer ((act a).run.run answer s).2).1
        | .error e => (labels a, e) :: ((Work.attemptEach labels act rest).run answer ((act a).run.run answer s).2).1,
        ((Work.attemptEach labels act rest).run answer ((act a).run.run answer s).2).2) := by
  rw [Work.attemptEach, run_bind, run_bind]
  cases ((act a).run.run answer s).1 <;> rfl

/-! ## What a run keeps -/

/-- A run of the plan keeps a property of the state. -/
def Preserves (answer : Answering σ) (P : σ → Prop) (p : Plan α) : Prop := ∀ s, P s → P (p.run answer s).2

variable {answer : Answering σ} {P : σ → Prop}

theorem preserves_pure (a : α) : (pure a : Plan α).Preserves answer P := fun _ h => h

theorem Preserves.bind {p : Plan α} {f : α → Plan β} (hp : p.Preserves answer P)
    (hf : ∀ a, (f a).Preserves answer P) : (p >>= f).Preserves answer P := by
  intro s h
  rw [run_bind]
  exact hf _ _ (hp s h)

theorem Preserves.work_bind {x : Work α} {f : α → Work β} (hx : x.run.Preserves answer P)
    (hf : ∀ a, (f a).run.Preserves answer P) : (x >>= f).run.Preserves answer P := by
  refine Preserves.bind hx fun r => ?_
  cases r with
  | ok a => exact hf a
  | error e => exact preserves_pure _

theorem Preserves.lift {p : Plan α} (h : p.Preserves answer P) : (liftM p : Work α).run.Preserves answer P := by
  intro s hs
  rw [Work.run_lift]
  exact h s hs

theorem preserves_forEach {act : α → Plan β} : ∀ {as : List α}, (∀ a ∈ as, (act a).Preserves answer P) →
    (forEach act as).Preserves answer P
  | [], _ => preserves_pure _
  | a :: _, h =>
    (h a List.mem_cons_self).bind fun _ =>
      (preserves_forEach fun b hb => h b (List.mem_cons_of_mem a hb)).bind fun _ => preserves_pure _

theorem preserves_attemptEach {labels : α → List String} {act : α → Work Unit} : ∀ {as : List α},
    (∀ a ∈ as, (act a).run.Preserves answer P) → (Work.attemptEach labels act as).Preserves answer P
  | [], _ => preserves_pure _
  | a :: _, h =>
    (h a List.mem_cons_self).bind fun _ =>
      (preserves_attemptEach fun b hb => h b (List.mem_cons_of_mem a hb)).bind fun _ => preserves_pure _

theorem preserves_forM {act : α → Work Unit} : ∀ {as : List α}, (∀ a ∈ as, (act a).run.Preserves answer P) →
    (as.forM act).run.Preserves answer P
  | [], _ => preserves_pure _
  | a :: _, h =>
    (h a List.mem_cons_self).work_bind fun _ => preserves_forM fun b hb => h b (List.mem_cons_of_mem a hb)

/-! ## What a series of works achieves -/

section

variable {Inv : σ → Prop} {Post : α → σ → Prop} {act : α → Work Unit}

/-- When each work achieves something of its own, and keeps what the others achieve, all of it holds after all
of them succeeded. -/
theorem achieves_forM : ∀ {as : List α}, (∀ a ∈ as, (act a).run.Preserves answer Inv) →
    (∀ a ∈ as, ∀ s t, Inv s → (act a).run.run answer s = (.ok (), t) → Post a t) →
    (∀ a ∈ as, ∀ b ∈ as, (act a).run.Preserves answer fun s => Inv s ∧ Post b s) →
    ∀ {s t : σ}, Inv s → (as.forM act).run.run answer s = (.ok (), t) → ∀ a ∈ as, Post a t
  | [], _, _, _, _, _, _, _ => fun _ ha => absurd ha List.not_mem_nil
  | a :: rest, hinv, hpost, hkeep, s, t, hs, h => by
    have hinv' : ∀ b ∈ rest, (act b).run.Preserves answer Inv := fun b hb => hinv b (List.mem_cons_of_mem a hb)
    rcases Work.run_bind_cases answer s (act a) fun _ => rest.forM act with ⟨⟨⟩, u, hu, hr⟩ | ⟨e, u, -, hr⟩
    · replace h := hr.symm.trans h
      have hiu : Inv u := by
        have hi := hinv a List.mem_cons_self s hs
        rwa [hu] at hi
      have hpa : Post a u := hpost a List.mem_cons_self s u hs hu
      -- the rest keeps what the first one achieved
      have hrest : (rest.forM act).run.Preserves answer fun s => Inv s ∧ Post a s :=
        preserves_forM fun b hb => hkeep b (List.mem_cons_of_mem a hb) a List.mem_cons_self
      have ht := hrest u ⟨hiu, hpa⟩
      rw [h] at ht
      intro b hb
      rcases List.mem_cons.1 hb with rfl | hb
      · exact ht.2
      · exact achieves_forM hinv' (fun c hc => hpost c (List.mem_cons_of_mem a hc))
          (fun c hc d hd => hkeep c (List.mem_cons_of_mem a hc) d (List.mem_cons_of_mem a hd)) hiu h b hb
    · cases (Prod.mk.inj (hr.symm.trans h)).1

theorem achieves_attemptEach {labels : α → List String} : ∀ {as : List α},
    (∀ a ∈ as, (act a).run.Preserves answer Inv) →
    (∀ a ∈ as, ∀ s t, Inv s → (act a).run.run answer s = (.ok (), t) → Post a t) →
    (∀ a ∈ as, ∀ b ∈ as, (act a).run.Preserves answer fun s => Inv s ∧ Post b s) →
    ∀ {s t : σ}, Inv s → (Work.attemptEach labels act as).run answer s = ([], t) → ∀ a ∈ as, Post a t
  | [], _, _, _, _, _, _, _ => fun _ ha => absurd ha List.not_mem_nil
  | a :: rest, hinv, hpost, hkeep, s, t, hs, h => by
    rw [run_attemptEach_cons] at h
    obtain ⟨hnil, ht⟩ := Prod.mk.inj h
    cases hr : ((act a).run.run answer s).1 with
    | error e =>
      rw [hr] at hnil
      cases hnil
    | ok _ =>
      rw [hr] at hnil
      let u := ((act a).run.run answer s).2
      have hu : (act a).run.run answer s = (.ok (), u) := Prod.ext hr rfl
      have hiu : Inv u := hinv a List.mem_cons_self s hs
      have hpa : Post a u := hpost a List.mem_cons_self s u hs hu
      -- as there is no failure at all, the first one achieved its own, and the rest keeps that
      have hrest : (Work.attemptEach labels act rest).Preserves answer fun s => Inv s ∧ Post a s :=
        preserves_attemptEach fun b hb => hkeep b (List.mem_cons_of_mem a hb) a List.mem_cons_self
      have hpt := hrest u ⟨hiu, hpa⟩
      rw [show ((Work.attemptEach labels act rest).run answer u).2 = t from ht] at hpt
      intro b hb
      rcases List.mem_cons.1 hb with rfl | hb
      · exact hpt.2
      · exact achieves_attemptEach (fun c hc => hinv c (List.mem_cons_of_mem a hc))
          (fun c hc => hpost c (List.mem_cons_of_mem a hc))
          (fun c hc d hd => hkeep c (List.mem_cons_of_mem a hc) d (List.mem_cons_of_mem a hd)) hiu
          (Prod.ext hnil ht) b hb

theorem achieves_forEach {plan : α → Plan β} {Good : β → Prop} : ∀ {as : List α},
    (∀ a ∈ as, (plan a).Preserves answer Inv) →
    (∀ a ∈ as, ∀ s b t, Inv s → (plan a).run answer s = (b, t) → Good b → Post a t) →
    (∀ a ∈ as, ∀ b ∈ as, (plan a).Preserves answer fun s => Inv s ∧ Post b s) →
    ∀ {s t : σ} {bs : List β}, Inv s → (forEach plan as).run answer s = (bs, t) → (∀ b ∈ bs, Good b) →
      ∀ a ∈ as, Post a t
  | [], _, _, _, _, _, _, _, _, _ => fun _ ha => absurd ha List.not_mem_nil
  | a :: rest, hinv, hpost, hkeep, s, t, bs, hs, h, hgood => by
    rw [run_forEach_cons] at h
    obtain ⟨rfl, rfl⟩ := Prod.mk.inj h
    have hiu := hinv a List.mem_cons_self s hs
    have hpa := hpost a List.mem_cons_self s _ _ hs rfl (hgood _ List.mem_cons_self)
    have hrest : (forEach plan rest).Preserves answer fun s => Inv s ∧ Post a s :=
      preserves_forEach fun b hb => hkeep b (List.mem_cons_of_mem a hb) a List.mem_cons_self
    have hpt := hrest _ ⟨hiu, hpa⟩
    intro b hb
    rcases List.mem_cons.1 hb with rfl | hb
    · exact hpt.2
    · exact achieves_forEach (fun c hc => hinv c (List.mem_cons_of_mem a hc))
        (fun c hc => hpost c (List.mem_cons_of_mem a hc))
        (fun c hc d hd => hkeep c (List.mem_cons_of_mem a hc) d (List.mem_cons_of_mem a hd)) hiu rfl
        (fun c hc => hgood c (List.mem_cons_of_mem _ hc)) b hb

end

/-! ## The calls that a plan can make -/

/-- Whatever is answered, the plan makes only calls of this kind. -/
def Makes (S : StoreCall → Prop) : Plan α → Prop
  | .done _ => True
  | .call c next => S c ∧ ∀ reply, (next reply).Makes S

variable {S : StoreCall → Prop}

theorem makes_pure (a : α) : (pure a : Plan α).Makes S := trivial

theorem Makes.bind {f : α → Plan β} (hf : ∀ a, (f a).Makes S) : ∀ {p : Plan α}, p.Makes S → (p >>= f).Makes S
  | .done a, _ => hf a
  | .call _ _, h => ⟨h.1, fun reply => Makes.bind hf (h.2 reply)⟩

theorem Makes.work_bind {x : Work α} {f : α → Work β} (hx : x.run.Makes S) (hf : ∀ a, (f a).run.Makes S) :
    (x >>= f).run.Makes S := by
  refine Makes.bind (fun r => ?_) hx
  cases r with
  | ok a => exact hf a
  | error e => exact makes_pure _

theorem Makes.lift {p : Plan α} (h : p.Makes S) : (liftM p : Work α).run.Makes S := by
  show (Except.ok <$> p : Plan _).Makes S
  rw [map_eq_pure_bind]
  exact Makes.bind (fun _ => makes_pure _) h

theorem Makes.mono {S' : StoreCall → Prop} (hS : ∀ c, S c → S' c) : ∀ {p : Plan α}, p.Makes S → p.Makes S'
  | .done _, _ => trivial
  | .call c _, h => ⟨hS c h.1, fun reply => (h.2 reply).mono hS⟩

theorem makes_forEach {act : α → Plan β} : ∀ {as : List α}, (∀ a ∈ as, (act a).Makes S) → (forEach act as).Makes S
  | [], _ => makes_pure _
  | a :: _, h =>
    Makes.bind (fun _ => Makes.bind (fun _ => makes_pure _)
      (makes_forEach fun b hb => h b (List.mem_cons_of_mem a hb))) (h a List.mem_cons_self)

theorem makes_attemptEach {labels : α → List String} {act : α → Work Unit} : ∀ {as : List α},
    (∀ a ∈ as, (act a).run.Makes S) → (Work.attemptEach labels act as).Makes S
  | [], _ => makes_pure _
  | a :: _, h =>
    Makes.bind (fun _ => Makes.bind (fun _ => makes_pure _)
      (makes_attemptEach fun b hb => h b (List.mem_cons_of_mem a hb))) (h a List.mem_cons_self)

theorem makes_forM {act : α → Work Unit} : ∀ {as : List α}, (∀ a ∈ as, (act a).run.Makes S) →
    (as.forM act).run.Makes S
  | [], _ => makes_pure _
  | a :: _, h =>
    (h a List.mem_cons_self).work_bind fun _ => makes_forM fun b hb => h b (List.mem_cons_of_mem a hb)

theorem makes_ask {c : StoreCall} (h : S c) : (Work.ask c).run.Makes S := ⟨h, fun _ => trivial⟩

/-- What the answer to every call that the plan can make keeps is kept by its run. -/
theorem Makes.preserves (hS : ∀ s c, S c → P s → P (answer s c).2) : ∀ {p : Plan α}, p.Makes S → p.Preserves answer P
  | .done _, _, _, h => h
  | .call c _, hm, s, h => (hm.2 (answer s c).1).preserves hS _ (hS s c hm.1 h)

end Plan

end HubSearch
