/-
What attempts at wanted objects leave behind while any call can fail. Objects are put into the places of what is wanted
and nothing else changes, nothing is taken away (`World.PutIn`); a success leaves the object that is wanted in its place
(`Wanted.Attempt.holds_of_ok`), and what is held stays held (`Wanted.Attempt.holds`).
-/
import HubSearch.Proofs.Store.Strict
import HubSearch.Proofs.Sync.Attempt

namespace HubSearch

variable {α : Type}

namespace World

/-- Nothing has changed but that objects were put into some places, and are gone from others. -/
def ChangedIn (put gone : StoreRef → String → Prop) (w v : World) : Prop := ∀ r name,
  v.object? r name = w.object? r name ∨ v.object? r name ≠ none ∧ put r name ∨ v.object? r name = none ∧ gone r name

/-- Nothing has changed but that objects were put into some places. -/
abbrev PutIn (places : StoreRef → String → Prop) : World → World → Prop := ChangedIn places fun _ _ => False

namespace ChangedIn

variable {put put' gone gone' : StoreRef → String → Prop} {w v u : World}

theorem of_store (h : v.store = w.store) : w.ChangedIn put gone v := fun r name => .inl (object?_congr h r name)

theorem trans (h : w.ChangedIn put gone v) (h' : v.ChangedIn put gone u) : w.ChangedIn put gone u := by
  intro r name
  rcases h' r name with h' | h'
  · rw [h']
    exact h r name
  · exact .inr h'

theorem mono (hput : ∀ r name, put r name → put' r name) (hgone : ∀ r name, gone r name → gone' r name)
    (h : w.ChangedIn put gone v) : w.ChangedIn put' gone' v := fun r name =>
  (h r name).imp_right (.imp (.imp_right (hput r name)) (.imp_right (hgone r name)))

theorem object?_of_not (h : w.ChangedIn put gone v) {r : StoreRef} {name : String} (hput : ¬put r name)
    (hgone : ¬gone r name) : v.object? r name = w.object? r name :=
  (h r name).resolve_right fun h => h.elim (fun h => hput h.2) fun h => hgone h.2

end ChangedIn

end World

namespace Wanted.Attempt

variable {x y : Wanted} {s t : Recorded} {outcome : Except OperatorError SyncOutcome}

theorem putIn (h : x.Attempt s outcome t) : s.world.PutIn (fun r name => r = x.store ∧ name = x.name) t.world := by
  intro r name
  by_cases hplace : r = x.store ∧ name = x.name
  · obtain ⟨rfl, rfl⟩ := hplace
    rcases h.store_cases with hs | ⟨after, hs, -⟩
    · exact .inl (World.object?_congr hs _ _)
    · rw [World.object?_congr hs, World.object?_put_self]
      exact .inr (.inl ⟨Option.some_ne_none _, rfl, rfl⟩)
  · exact .inl (h.object?_of_ne (Decidable.not_and_iff_or_not.1 hplace))

/-- What is held stays as it is when it is wanted again. -/
theorem object?_of_holds (h : x.Attempt s outcome t) (hx : s.world.Holds x) :
    t.world.object? x.store x.name = s.world.object? x.store x.name := by
  obtain ⟨live, hlive, hmatches⟩ := hx
  rcases h.store_cases with hs | ⟨after, -, ⟨habsent, -⟩ | ⟨old, hold, hamend⟩⟩
  · exact World.object?_congr hs _ _
  · cases hlive.symm.trans habsent
  · obtain rfl := Option.some.inj (hlive.symm.trans hold)
    cases (x.store.kind.amend_eq_none_iff.2 hmatches).symm.trans hamend

theorem holds (h : x.Attempt s outcome t) (hxy : x.Compatible y) (hy : s.world.Holds y) : t.world.Holds y := by
  rcases hxy with rfl | hne
  · exact hy.congr (h.object?_of_holds hy)
  · exact hy.congr (h.object?_of_ne hne)

theorem holds_of_ok {o : SyncOutcome} (h : x.Attempt s (.ok o) t) (hn : x.store.kind.HasDistinctNames x.object) :
    t.world.Holds x := by
  cases h with
  | unchanged hlive hmatches hstore _ => exact ⟨_, (World.object?_congr hstore _ _).trans hlive, hmatches⟩
  | created _ hstore _ => exact World.holds_of_put hstore (x.store.kind.matches_self hn)
  | updated _ hamend hstore _ => exact World.holds_of_put hstore (x.store.kind.matches_of_amend hn hamend)

end Wanted.Attempt

/-! ## Runs -/

section

variable {faults : Faults} {places : StoreRef → String → Prop} {w : World}

theorem preserves_sync_putIn {x : Wanted} (hplace : places x.store x.name) :
    (sync x.store x.object).run.Preserves (Recorded.answer faults) fun s =>
      s.world.Versioned ∧ w.PutIn places s.world := by
  rintro s ⟨hs, hput⟩
  have hattempt := attempt_run_sync faults hs x
  refine ⟨Plan.preserves_versioned faults _ s hs, hput.trans (hattempt.putIn.mono ?_ fun _ _ h => h)⟩
  rintro _ _ ⟨rfl, rfl⟩
  exact hplace

theorem preserves_sync_holds {x y : Wanted} (hxy : x.Compatible y) :
    (sync x.store x.object).run.Preserves (Recorded.answer faults) fun s => s.world.Versioned ∧ s.world.Holds y :=
  fun s hs => ⟨Plan.preserves_versioned faults _ s hs.1, (attempt_run_sync faults hs.1 x).holds hxy hs.2⟩

theorem holds_of_run_sync_with_faults {x : Wanted} (hn : x.store.kind.HasDistinctNames x.object) {s t : Recorded}
    {o : SyncOutcome} (hs : s.world.Versioned) (h : s.run faults (sync x.store x.object).run = (.ok o, t)) :
    t.world.Holds x := by
  have hattempt := attempt_run_sync faults hs x
  rw [h] at hattempt
  exact hattempt.holds_of_ok hn

end

theorem strict_sync (r : StoreRef) (desired : r.kind.Object) : (sync r desired).Strict := by
  refine ((Work.strict_ask (.fetch r _)).onObject _ _ _).bind fun live => ?_
  cases live with
  | none => exact ((Work.strict_ask (.insert r desired)).onObject _ _ _).bind fun _ => Work.strict_pure _
  | some live =>
    dsimp only
    cases r.kind.amend live desired with
    | none => exact Work.strict_pure _
    | some after => exact ((Work.strict_ask (.update r after)).onObject _ _ _).bind fun _ => Work.strict_pure _

end HubSearch
