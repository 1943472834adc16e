/-
Runs of a plan amid changes that others make to the stores, before, between and after its calls. As long as
these changes and the calls of the plan are in different stores, neither notices the other
(`RunsAmid.run_agrees`).
-/
import HubSearch.Proofs.Store.Call
import Mathlib.Logic.Relation

namespace HubSearch

open World

variable {α β : Type} {E : World → World → Prop}

/-- A run of the plan amid changes: from some stores to a value and other stores. -/
def Plan.RunsAmid (E : World → World → Prop) : Plan α → World → α → World → Prop
  | .done a, w, b, v => b = a ∧ Relation.ReflTransGen E w v
  | .call c next, w, b, v => ∃ u, Relation.ReflTransGen E w u ∧
      (next (World.answer u c).1).RunsAmid E (World.answer u c).2 b v

namespace Plan

/-- A run without changes is a run amid changes, whatever changed before. -/
theorem runsAmid_of_run : ∀ {p : Plan α} {w u v : World} {a : α}, Relation.ReflTransGen E w u → u.run p = (a, v) →
    p.RunsAmid E w a v
  | .done _, _, _, _, _, hwu, hr => by
    cases hr
    exact ⟨rfl, hwu⟩
  | .call c _, _, u, _, _, hwu, hr => ⟨u, hwu, runsAmid_of_run .refl hr⟩

theorem RunsAmid.bind {f : α → Plan β} : ∀ {p : Plan α} {w v : World} {b : β}, (p >>= f).RunsAmid E w b v →
    ∃ a u, p.RunsAmid E w a u ∧ (f a).RunsAmid E u b v
  | .done a, w, _, _, h => ⟨a, w, ⟨rfl, .refl⟩, h⟩
  | .call _ _, _, _, _, ⟨u, hwu, h⟩ => by
    obtain ⟨a, u', ha, hb⟩ := RunsAmid.bind h
    exact ⟨a, u', ⟨u, hwu, ha⟩, hb⟩

/-- Changes after a run belong to it. -/
theorem RunsAmid.trans : ∀ {p : Plan α} {w u v : World} {a : α}, p.RunsAmid E w a u → Relation.ReflTransGen E u v →
    p.RunsAmid E w a v
  | .done _, _, _, _, _, ⟨heq, hwu⟩, huv => ⟨heq, hwu.trans huv⟩
  | .call _ _, _, _, _, _, ⟨x, hwx, h⟩, huv => ⟨x, hwx, h.trans huv⟩

theorem RunsAmid.ask {c : StoreCall} {w v : World} {reply : Except OperatorError c.Reply}
    (h : (Work.ask c).run.RunsAmid E w reply v) : ∃ u, Relation.ReflTransGen E w u ∧ reply = (World.answer u c).1 ∧
      Relation.ReflTransGen E (World.answer u c).2 v := by
  obtain ⟨u, hwu, hreply, huv⟩ := h
  exact ⟨u, hwu, hreply, huv⟩

/-- What the changes and the calls of a plan keep is kept by its runs. -/
theorem RunsAmid.keeps {P : World → Prop} {S : StoreCall → Prop} (hE : ∀ w w', E w w' → P w → P w')
    (hS : ∀ w c, S c → P w → P (World.answer w c).2) : ∀ {p : Plan α}, p.Makes S → ∀ {w v : World} {a : α},
    p.RunsAmid E w a v → P w → P v := by
  have hE' : ∀ {w w'}, Relation.ReflTransGen E w w' → P w → P w' := by
    intro w w' h hw
    induction h with
    | refl => exact hw
    | tail _ hlast ih => exact hE _ _ hlast ih
  intro p
  induction p with
  | done a =>
    rintro - w v b ⟨-, hwv⟩ hw
    exact hE' hwv hw
  | call c next ih =>
    rintro ⟨hc, hnext⟩ w v b ⟨u, hwu, h⟩ hw
    exact ih _ (hnext _) h (hS u c hc (hE' hwu hw))

end Plan

/-! ## Changes to one store only -/

/-- The stores are the same but for one of them. -/
structure World.AgreeOff (r : StoreRef) (w w' : World) : Prop where
  store : ∀ r', r' ≠ r → w'.store r' = w.store r'
  failing : w'.failing = w.failing

namespace World.AgreeOff

variable {r : StoreRef} {w w' w'' : World}

theorem refl (r : StoreRef) (w : World) : w.AgreeOff r w := ⟨fun _ _ => rfl, rfl⟩

theorem trans (h : w.AgreeOff r w') (h' : w'.AgreeOff r w'') : w.AgreeOff r w'' :=
  ⟨fun r' hr => (h'.store r' hr).trans (h.store r' hr), h'.failing.trans h.failing⟩

theorem of_changes (hE : ∀ w w', E w w' → w.AgreeOff r w') (h : Relation.ReflTransGen E w w') : w.AgreeOff r w' := by
  induction h with
  | refl => exact refl r w
  | tail _ hlast ih => exact ih.trans (hE _ _ hlast)

/-- A call to another store is answered alike. -/
theorem answer (h : w.AgreeOff r w') {c : StoreCall} (hc : c.store ≠ r) :
    (World.answer w' c).1 = (World.answer w c).1 ∧ (World.answer w c).2.AgreeOff r (World.answer w' c).2 := by
  obtain ⟨hreply, hstore⟩ := answer_congr (h.store c.store hc) h.failing
  refine ⟨hreply, fun r' hr => ?_, ?_⟩
  · by_cases hr' : r' = c.store
    · subst hr'
      exact hstore
    · rw [store_answer_of_ne w' c hr', store_answer_of_ne w c hr', h.store r' hr]
  · rw [failing_answer, failing_answer, h.failing]

end World.AgreeOff

/-- A plan that calls this store only changes no other one, and neither do the changes around it. -/
theorem Plan.RunsAmid.agreeOff {r : StoreRef} (hE : ∀ w w', E w w' → w.AgreeOff r w') {p : Plan α}
    (hmakes : p.Makes fun c => c.store = r) {w v : World} {a : α} (h : p.RunsAmid E w a v) : w.AgreeOff r v :=
  h.keeps (P := w.AgreeOff r) (fun _ _ he hu => hu.trans (hE _ _ he))
    (fun u c hc hu => hu.trans ⟨fun _ hr => store_answer_of_ne u c fun h => hr (h.trans hc), failing_answer u c⟩)
    hmakes (.refl r w)

/-- A plan that calls other stores only gives what it gives without the changes. -/
theorem Plan.RunsAmid.run_agrees {r : StoreRef} (hE : ∀ w w', E w w' → w.AgreeOff r w') :
    ∀ {p : Plan α}, (p.Makes fun c => c.store ≠ r) → ∀ {w w' v : World} {a : α}, w.AgreeOff r w' →
    p.RunsAmid E w' a v → (w.run p).1 = a ∧ (w.run p).2.AgreeOff r v
  | .done _, _, _, _, _, _, hagree, ⟨heq, hchanges⟩ => ⟨heq.symm, hagree.trans (.of_changes hE hchanges)⟩
  | .call c next, ⟨hc, hnext⟩, w, _, _, _, hagree, ⟨u, hchanges, h⟩ => by
    obtain ⟨hreply, hanswer⟩ := (hagree.trans (.of_changes hE hchanges)).answer hc
    rw [hreply] at h
    exact RunsAmid.run_agrees hE (hnext _) hanswer h

end HubSearch
