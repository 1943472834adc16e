/-
Sweeps of features while any call can fail. Every feature has its turn in every target, whatever failed in the others; a
turn in which no removal failed leaves no resource in the target, and every other one is reported, once (`Swept`). Main
statements: for one feature `swept_sweep`, and for several `swept_forEach`.
-/
import HubSearch.Proofs.Feature.FanOut

namespace HubSearch

open World

variable {α : Type}

/-! ## Removals that are made to fail -/

theorem World.isOk_answer_remove (w : World) (r : StoreRef) (name : String) :
    (answer w (.remove r name)).1.isOk = !w.blocks r name := by
  cases hblocks : w.blocks r name with
  | false =>
    rw [answer_remove_ok hblocks]
    rfl
  | true =>
    show ((w.logged (.remove r name)).write r name fun s => .ok (s.remove name)).1.isOk = _
    rw [write, if_pos (show (w.logged _).blocks r name = true from hblocks)]
    rfl

theorem Recorded.calls_answer_remove (faults : Faults) (s : Recorded) (r : StoreRef) (name : String) :
    (answer faults s (.remove r name)).2.calls =
      s.calls ++ [(.remove r name, (faults s.calls.length).isNone && !s.world.blocks r name)] := by
  unfold answer
  cases faults s.calls.length with
  | some e => rfl
  | none =>
    dsimp only
    rw [World.isOk_answer_remove]
    rfl

/-- A removal fails exactly when it is made to fail, whether or not there is an object to remove. -/
theorem Plan.removal_failed_iff (faults : Faults) : ∀ (p : Plan α) (s : Recorded) {made : List (StoreCall × Bool)},
    (s.run faults p).2.calls = s.calls ++ made → ∀ {n r name ok}, made[n]? = some (.remove r name, ok) →
      (ok = false ↔ (faults (s.calls.length + n)).isSome = true ∨ s.world.blocks r name = true)
  | .done _, s, made, hmade, n, _, _, _, hcall => by
    obtain rfl : made = [] := List.self_eq_append_right.1 hmade
    cases hcall
  | .call c next, s, made, hmade, n, r, name, ok, hcall => by
    let t := (Recorded.answer faults s c).2
    obtain ⟨first, hfirst⟩ := Recorded.calls_answer faults s c
    obtain ⟨later, hlater, -⟩ := (next (Recorded.answer faults s c).1).makes_true.exists_calls faults t
    obtain rfl : made = (c, first) :: later := by
      refine List.append_cancel_left (hmade.symm.trans (hlater.trans ?_))
      rw [hfirst, List.append_assoc]
      rfl
    cases n with
    | zero =>
      obtain ⟨rfl, rfl⟩ := Prod.mk.inj (Option.some.inj hcall)
      have hmark := List.append_cancel_left (hfirst.symm.trans (Recorded.calls_answer_remove faults s r name))
      obtain rfl := (Prod.mk.inj (List.cons.inj hmark).1).2
      rw [Nat.add_zero]
      cases faults s.calls.length <;> simp
    | succ n =>
      have hrest := Plan.removal_failed_iff faults _ t hlater hcall
      have hlength : t.calls.length + n = s.calls.length + (n + 1) := by
        rw [hfirst, List.length_append, List.length_singleton]
        omega
      rwa [hlength, Recorded.blocks_answer] at hrest

/-! ## Reads that are answered -/

/-- No read failed among some calls. -/
def ReadsAnswered (made : List (StoreCall × Bool)) : Prop := ∀ call ∈ made, call.1.isWrite = false → call.2 = true

/-- The stores in memory answer every read. -/
theorem Plan.readsAnswered_of_none (p : Plan α) (s : Recorded) {made : List (StoreCall × Bool)}
    (hmade : (s.run (fun _ => none) p).2.calls = s.calls ++ made) : ReadsAnswered made := by
  have hkeep : p.Preserves (Recorded.answer fun _ => none) fun t =>
      ∃ made, t.calls = s.calls ++ made ∧ ReadsAnswered made := by
    refine p.makes_true.preserves fun t c _ ht => ?_
    obtain ⟨made, hcalls, hreads⟩ := ht
    refine ⟨made ++ [(c, (World.answer t.world c).1.isOk)], ?_, List.forall_mem_append.2 ⟨hreads, ?_⟩⟩
    · rw [← List.append_assoc, ← hcalls]
      rfl
    · refine List.forall_mem_singleton.2 fun hread => ?_
      cases c with
      | fetch => rfl
      | fetchAll => rfl
      | _ => cases hread
  obtain ⟨made', hmade', hreads⟩ := hkeep s ⟨[], (List.append_nil _).symm, List.forall_mem_nil _⟩
  rwa [List.append_cancel_left (hmade.symm.trans hmade')]

namespace Feature

variable {f : Feature} {owner : Owner} {faults : Faults} {s t u : Recorded} {made more : List (StoreCall × Bool)}

/-! ## One target -/

theorem strict_deleteTarget (f : Feature) (owner : Owner) (x : Target) : (f.deleteTarget owner x).Strict :=
  Work.strict_forM fun r _ =>
    ((Work.strict_ask (.remove r.store r.name)).onObject _ _ _).bind fun _ => Work.strict_pure ()

theorem removes_deleteTarget (f : Feature) (owner : Owner) (x : Target) :
    (f.deleteTarget owner x).run.Makes fun c => ∃ r ∈ f.resources x owner, c = .remove r.store r.name :=
  Plan.makes_forM fun r hr =>
    ((makes_ensureDeleted r.store r.kind.api.kind r.name).mono fun _ hc => ⟨r, hr, hc⟩).work_bind fun _ =>
      Plan.makes_pure _

/-! ## Turns -/

/-- What a sweep of features in targets comes to: each has its turn, in this order, in which resources of the feature
are removed from the target; the failures are those of the turns in which a removal failed; and the others leave none of
the resources. -/
structure Swept (owner : Owner) (items : List (Feature × Target)) (made : List (StoreCall × Bool)) (failures : Failures)
    (t : Recorded) (turns : List (Turn (Feature × Target))) : Prop where
  items_eq : turns.map (·.item) = items
  removals : made.filter (·.1.isWrite) = turns.flatMap (·.calls)
  own : ∀ turn ∈ turns, ∀ call ∈ turn.calls,
    ∃ r ∈ turn.item.1.resources turn.item.2 owner, call.1 = .remove r.store r.name
  reported : failures.map (·.1) = (turns.filter (·.failed)).map fun turn => [turn.item.1.name, turn.item.2.name]
  gone : ∀ turn ∈ turns, turn.failed = false → ∀ r ∈ turn.item.1.resources turn.item.2 owner,
    t.world.object? r.store r.name = none

namespace Swept

variable {items items' : List (Feature × Target)} {failures failures' : Failures}
  {turns turns' : List (Turn (Feature × Target))} {places : StoreRef → String → Prop}

theorem nil : Swept owner [] [] [] t [] where
  items_eq := rfl
  removals := rfl
  own := fun _ h => absurd h List.not_mem_nil
  reported := rfl
  gone := fun _ h => absurd h List.not_mem_nil

/-- One sweep after the other. What is gone stays so. -/
theorem append (h : Swept owner items made failures u turns) (h' : Swept owner items' more failures' t turns')
    (hkept : u.world.RemovedIn places t.world) :
    Swept owner (items ++ items') (made ++ more) (failures ++ failures') t (turns ++ turns') where
  items_eq := by rw [List.map_append, h.items_eq, h'.items_eq]
  removals := by rw [List.filter_append, h.removals, h'.removals, List.flatMap_append]
  own := List.forall_mem_append.2 ⟨h.own, h'.own⟩
  reported := by rw [List.map_append, h.reported, h'.reported, List.filter_append, List.map_append]
  gone := List.forall_mem_append.2
    ⟨fun turn hturn hnone r hr => hkept.object?_eq_none (h.gone turn hturn hnone r hr), h'.gone⟩

/-- Reads before a sweep do not count. -/
theorem of_reads (h : Swept owner items made failures t turns) {reads : List (StoreCall × Bool)}
    (hreads : ∀ call ∈ reads, call.1.isWrite = false) : Swept owner items (reads ++ made) failures t turns where
  items_eq := h.items_eq
  removals := by
    have hnone : reads.filter (·.1.isWrite) = [] :=
      List.filter_eq_nil_iff.2 fun call hcall => by rw [hreads call hcall]; decide
    rw [List.filter_append, hnone, List.nil_append, h.removals]
  own := h.own
  reported := h.reported
  gone := h.gone

theorem failed_eq_false_iff (h : Swept owner items made failures t turns) :
    (∀ turn ∈ turns, turn.failed = false) ↔ ∀ call ∈ made, call.1.isWrite = true → call.2 = true := by
  have hmem : ∀ call, (∃ turn ∈ turns, call ∈ turn.calls) ↔ call ∈ made ∧ call.1.isWrite = true := fun call => by
    rw [← List.mem_flatMap, ← h.removals, List.mem_filter]
  refine ⟨fun hnone call hcall hwrite => ?_, fun hok turn hturn => Turn.failed_eq_false_iff.2 fun call hcall => ?_⟩
  · obtain ⟨turn, hturn, hcall⟩ := (hmem call).2 ⟨hcall, hwrite⟩
    exact Turn.failed_eq_false_iff.1 (hnone turn hturn) call hcall
  · obtain ⟨hmade, hwrite⟩ := (hmem call).1 ⟨turn, hturn, hcall⟩
    exact hok call hmade hwrite

/-- There are failures exactly when a removal failed. -/
theorem failures_eq_nil_iff (h : Swept owner items made failures t turns) :
    failures = [] ↔ ∀ call ∈ made, call.1.isWrite = true → call.2 = true := by
  rw [← h.failed_eq_false_iff, ← List.map_eq_nil_iff, h.reported, List.map_eq_nil_iff, List.filter_eq_nil_iff]
  simp

end Swept

theorem swept_attemptEach {failures : Failures} (f : Feature) (owner : Owner) (ts : List Target)
    (h : s.run faults (Work.attemptEach f.labels (f.deleteTarget owner) ts) = (failures, t))
    (hmade : t.calls = s.calls ++ made) : ∃ turns, Swept owner (ts.map (f, ·)) made failures t turns := by
  obtain ⟨turns, hitems, hcalls, hown, hlabels, hgone⟩ := @Plan.run_attemptEach_turns _ faults f.labels
    (f.deleteTarget owner) (fun x c => ∃ r ∈ f.resources x owner, c = .remove r.store r.name) (fun _ => True)
    (fun x u => ∀ r ∈ f.resources x owner, u.world.object? r.store r.name = none) ts
    (fun x _ => f.strict_deleteTarget owner x) (fun x _ => f.removes_deleteTarget owner x) (fun _ _ _ _ => trivial)
    (fun _ _ _ _ _ h => gone_of_run_deleteTarget_ok h)
    (fun x hx _ _ u hu => ⟨trivial, fun r hr =>
      ((removesIn_deleteTarget hx).removedIn faults u).object?_eq_none (hu.2 r hr)⟩) _ _ _ trivial h
  obtain rfl := List.append_cancel_left (hmade.symm.trans hcalls)
  have hwrites : ∀ call ∈ turns.flatMap (·.calls), call.1.isWrite = true := by
    intro call hcall
    obtain ⟨turn, hturn, hcall⟩ := List.mem_flatMap.1 hcall
    obtain ⟨r, -, hremove⟩ := hown turn hturn call hcall
    rw [hremove]
    rfl
  refine ⟨turns.map fun turn => ⟨(f, turn.item), turn.calls⟩, ?_, ?_, ?_, ?_, ?_⟩
  · rw [List.map_map, ← hitems, List.map_map]
    rfl
  · rw [List.filter_eq_self.2 hwrites, List.flatMap_map]
  · exact List.forall_mem_map.2 hown
  · rw [hlabels, List.filter_map, List.map_map]
    rfl
  · exact List.forall_mem_map.2 hgone

/-! ## Sweeps -/

/-- When no read fails the targets are seen. -/
theorem run_targets_of_reads (hmade : (s.run faults f.targets.run).2.calls = s.calls ++ made)
    (hreads : ReadsAnswered made) : ∃ u, s.run faults f.targets.run = (.ok (f.targetsIn s.world), u) ∧
      u.world.store = s.world.store ∧ ∀ call ∈ made, call.1.isWrite = false := by
  have hstrict : f.targets.Strict := by
    cases f with
    | fineGrainedRbac => exact Work.strict_pure _
    | _ => exact (Work.strict_ask _).bind fun _ => Work.strict_pure _
  have hmakes : f.targets.run.Makes fun c => c.isWrite = false := by
    cases f with
    | fineGrainedRbac => exact Plan.makes_pure _
    | _ => exact Plan.Makes.work_bind (Plan.makes_ask rfl) fun _ => Plan.makes_pure _
  obtain ⟨made', hmade', hok, hall⟩ := hstrict.exists_calls hmakes faults s
  obtain rfl := List.append_cancel_left (hmade.symm.trans hmade')
  obtain ⟨u, hu, hr | ⟨e, hr⟩⟩ := f.run_targets_cases faults s
  · exact ⟨u, hr, hu, hall⟩
  · have hread : (s.run faults f.targets.run).1.isOk = true :=
      hok.2 fun call hcall => hreads call hcall (hall call hcall)
    rw [hr] at hread
    cases hread

theorem swept_sweep {failures : Failures} (h : s.run faults (f.sweep owner) = (failures, t))
    (hmade : t.calls = s.calls ++ made) (hreads : ReadsAnswered made) :
    ∃ turns, Swept owner ((f.targetsIn s.world).map (f, ·)) made failures t turns := by
  obtain ⟨reads, hfirst, -⟩ := (Plan.makes_true f.targets.run).exists_calls faults s
  rw [sweep, Recorded.run_bind] at h
  obtain ⟨removals, hlater, -⟩ := (Plan.makes_true _).exists_calls faults (s.run faults f.targets.run).2
  rw [h, hfirst, List.append_assoc] at hlater
  obtain rfl := List.append_cancel_left (hmade.symm.trans hlater)
  obtain ⟨u, hu, -, hread⟩ := run_targets_of_reads hfirst fun call hcall => hreads call (List.mem_append_left _ hcall)
  rw [hu] at h hfirst
  obtain ⟨turns, hturns⟩ := swept_attemptEach f owner _ h (by rw [hmade, hfirst, List.append_assoc])
  exact ⟨turns, hturns.of_reads hread⟩

theorem swept_forEach {fs : List Feature} {failures : List Failures}
    (h : s.run faults (Plan.forEach (sweep · owner) fs) = (failures, t)) (hmade : t.calls = s.calls ++ made)
    (hreads : ReadsAnswered made) : ∃ turns,
      Swept owner (fs.flatMap fun f => (f.targetsIn s.world).map (f, ·)) made failures.flatten t turns := by
  induction fs generalizing s made failures with
  | nil =>
    cases h
    obtain rfl : made = [] := List.self_eq_append_right.1 hmade
    exact ⟨[], .nil⟩
  | cons f rest ih =>
    rw [Recorded.run_forEach_cons] at h
    let u := (s.run faults (f.sweep owner)).2
    obtain ⟨first, hfirst, -⟩ := (Plan.makes_true (f.sweep owner)).exists_calls faults s
    obtain ⟨later, hlater, -⟩ := (Plan.makes_true (Plan.forEach (sweep · owner) rest)).exists_calls faults u
    obtain ⟨rfl, rfl⟩ := Prod.mk.inj h
    rw [hfirst, List.append_assoc] at hlater
    obtain rfl := List.append_cancel_left (hmade.symm.trans hlater)
    obtain ⟨turns, hturns⟩ :=
      swept_sweep (Prod.ext rfl rfl) hfirst fun call hcall => hreads call (List.mem_append_left _ hcall)
    obtain ⟨turns', hturns'⟩ := ih (s := u) (Prod.ext rfl rfl)
      (by rw [hmade, hfirst, List.append_assoc]) fun call hcall => hreads call (List.mem_append_right _ hcall)
    -- the targets of the later features are those that they had at first
    have htargets : (fun g : Feature => (g.targetsIn u.world).map (g, ·)) =
        fun g => (g.targetsIn s.world).map (g, ·) :=
      funext fun g => by rw [targetsIn_run (f.makes_sweep owner) g faults s]
    rw [htargets] at hturns'
    exact ⟨turns ++ turns', hturns.append hturns' (run_forEach_sweep_removes owner faults rest u)⟩

end Feature

end HubSearch
