/-
Removing the resources of features while any call can fail. What is removed stands in the place of a resource in a
target, and nothing else changes; when nothing failed, all these places are empty. Whose object stood there is not
looked at. Main statements: `run_sweep_removes`, for switching off `run_disable_removes`, and for all features
`run_sweepAll_removes`.
-/
import HubSearch.Proofs.Feature.Lifecycle
import HubSearch.Proofs.Store.Faulty

namespace HubSearch

open World

variable {α : Type}

/-! ## Removals -/

/-- Nothing has changed but that objects in some places are gone. -/
def World.RemovedIn (places : StoreRef → String → Prop) (w v : World) : Prop :=
  ∀ r name, v.object? r name = w.object? r name ∨ v.object? r name = none ∧ places r name

/-- The objects in some places are removed and nothing else changes; once it is done, all of them are gone. -/
structure World.Removal (places : StoreRef → String → Prop) (isDone : Prop) (w v : World) : Prop where
  removed : w.RemovedIn places v
  gone : isDone → ∀ r name, places r name → v.object? r name = none

/-- A call that reads, or removes in some place. -/
def StoreCall.RemovesIn (places : StoreRef → String → Prop) (c : StoreCall) : Prop :=
  c.isWrite = false ∨ ∃ r name, c = .remove r name ∧ places r name

variable {places more : StoreRef → String → Prop}

namespace World.RemovedIn

variable {w v u : World}

theorem of_store (h : v.store = w.store) : w.RemovedIn places v := fun r name => .inl (object?_congr h r name)

theorem trans (h : w.RemovedIn places v) (h' : v.RemovedIn places u) : w.RemovedIn places u := by
  intro r name
  rcases h' r name with h' | h'
  · rw [h']
    exact h r name
  · exact .inr h'

theorem mono (hmore : ∀ r name, places r name → more r name) (h : w.RemovedIn places v) : w.RemovedIn more v :=
  fun r name => (h r name).imp_right fun h => ⟨h.1, hmore r name h.2⟩

/-- What is there after removals was there before. -/
theorem object?_eq_some (h : w.RemovedIn places v) {r : StoreRef} {name : String} {o : r.kind.Object}
    (ho : v.object? r name = some o) : w.object? r name = some o := by
  rcases h r name with h | ⟨hnone, -⟩
  · rw [← h, ho]
  · rw [hnone] at ho
    cases ho

/-- What is not there does not come back. -/
theorem object?_eq_none (h : w.RemovedIn places v) {r : StoreRef} {name : String} (hnone : w.object? r name = none) :
    v.object? r name = none := by
  rcases h r name with h | h
  · rw [h, hnone]
  · exact h.1

theorem answer (w : World) {c : StoreCall} (hc : c.RemovesIn places) : w.RemovedIn places (World.answer w c).2 := by
  rcases hc with hread | ⟨r, name, rfl, hplace⟩
  · exact of_store (OnlyRead.answer w hread).store
  · intro r' name'
    by_cases hsame : r' = r ∧ name' = name
    · obtain ⟨rfl, rfl⟩ := hsame
      rcases answer_remove_cases w r' name' with hw | ⟨e, -, hs⟩
      · rw [hw, object?, store_set_self, Store.get?_remove_self]
        exact .inr ⟨rfl, hplace⟩
      · exact .inl (object?_congr hs r' name')
    · have hne : r' ≠ r ∨ some name ≠ some name' :=
        (Decidable.not_and_iff_or_not.1 hsame).imp_right fun hn heq => hn (Option.some.inj heq).symm
      exact .inl (object?_answer_of_ne w (.remove r name) hne)

end World.RemovedIn

/-- A plan that only removes in some places changes nothing else. -/
theorem Plan.Makes.removedIn {p : Plan α} (h : p.Makes (·.RemovesIn places)) (faults : Faults) (s : Recorded) :
    s.world.RemovedIn places (s.run faults p).2.world :=
  h.preserves_world faults (fun _ _ hs hw => hw.trans (.of_store hs)) (fun w _ hc hw => hw.trans (.answer w hc)) s
    (.of_store rfl)

theorem removesIn_ensureDeleted {r : StoreRef} {name : String} (kind : String) (hplace : places r name) :
    (ensureDeleted r kind name).run.Makes (·.RemovesIn places) :=
  (makes_ensureDeleted r kind name).mono fun _ hc => .inr ⟨r, name, hc, hplace⟩

/-- What was deleted is gone. -/
theorem object?_run_ensureDeleted_eq_none {faults : Faults} {s t : Recorded} {r : StoreRef} {kind name : String}
    {b : Bool} (h : s.run faults (ensureDeleted r kind name).run = (.ok b, t)) : t.world.object? r name = none := by
  have hrun : s.run faults (ensureDeleted r kind name).run = _ :=
    Work.run_onObject_ask (Recorded.answer faults) s .delete kind name (.remove r name)
  rw [hrun] at h
  rcases Recorded.answer_cases faults s (.remove r name) with ⟨a, ha, hr⟩ | ⟨e, u, hr, -⟩ <;> rw [hr] at h
  · obtain rfl := (Prod.mk.inj h).2
    rcases answer_remove_cases s.world r name with hw | ⟨e, he, -⟩
    · rw [hw, object?, store_set_self]
      exact Store.get?_remove_self _ _
    · cases ha.symm.trans he
  · cases (Prod.mk.inj h).1

namespace Feature

variable {f : Feature} {owner : Owner} {faults : Faults} {s t : Recorded} {ts : List Target}

/-- The places of the resources of the feature in some targets. -/
def Places (f : Feature) (owner : Owner) (ts : List Target) (r : StoreRef) (name : String) : Prop :=
  ∃ t ∈ ts, ∃ x ∈ f.resources t owner, r = x.store ∧ name = x.name

/-! ## Targets -/

/-- The managed clusters are read as they are, or the read fails. -/
theorem run_targets_cases (f : Feature) (faults : Faults) (s : Recorded) :
    ∃ t, t.world.store = s.world.store ∧ (s.run faults f.targets.run = (.ok (f.targetsIn s.world), t) ∨
      ∃ e, s.run faults f.targets.run = (.error e, t)) := by
  have hclusters : ∃ t, t.world.store = s.world.store ∧
      (s.run faults (Work.fetchAll (hubStore .managedCluster)).run =
        (.ok (s.world.store (hubStore .managedCluster)).objects.values, t) ∨
      ∃ e, s.run faults (Work.fetchAll (hubStore .managedCluster)).run = (.error e, t)) := by
    have hcall : s.run faults (Work.fetchAll (hubStore .managedCluster)).run =
      Recorded.answer faults s (.fetchAll (hubStore .managedCluster)) := rfl
    rw [hcall]
    rcases Recorded.answer_cases faults s (.fetchAll (hubStore .managedCluster)) with ⟨a, ha, hr⟩ | ⟨e, u, hr, hu⟩
    · obtain rfl := Except.ok.inj ha
      refine ⟨_, ?_, .inl hr⟩
      rfl
    · exact ⟨_, hu, .inr ⟨e, hr⟩⟩
  cases f with
  | fineGrainedRbac => exact ⟨s, rfl, .inl rfl⟩
  | _ =>
    obtain ⟨t, ht, hr | ⟨e, hr⟩⟩ := hclusters
    · exact ⟨t, ht, .inl (Work.run_bind_of_ok hr _)⟩
    · exact ⟨t, ht, .inr ⟨e, Work.run_bind_of_error hr _⟩⟩

/-- The work on features does not touch the managed clusters. -/
theorem targetsIn_run {p : Plan α} (h : p.Makes IsFeatureCall) (f : Feature) (faults : Faults) (s : Recorded) :
    f.targetsIn (s.run faults p).2.world = f.targetsIn s.world := by
  have hwrites : p.Makes fun c => c.isWrite = true → c.store ≠ hubStore .managedCluster := by
    refine h.mono fun c hc hwrite hstore => ?_
    rcases hc.1 with ⟨hread, -⟩ | ⟨k, hk, hkind⟩
    · rw [hread] at hwrite
      cases hwrite
    · rw [hstore] at hkind
      cases hkind
      revert hk
      decide
  exact targetsIn_congr (hwrites.preserves_store faults s rfl)

/-! ## Sweeping one feature -/

theorem removesIn_deleteTarget {u : Target} (hu : u ∈ ts) :
    (f.deleteTarget owner u).run.Makes (·.RemovesIn (f.Places owner ts)) :=
  Plan.makes_forM fun x hx =>
    (removesIn_ensureDeleted _ ⟨u, hu, x, hx, rfl, rfl⟩).work_bind fun _ => Plan.makes_pure _

theorem removesIn_attemptEach_deleteTarget (f : Feature) (owner : Owner) (ts : List Target) :
    (Work.attemptEach f.labels (f.deleteTarget owner) ts).Makes (·.RemovesIn (f.Places owner ts)) :=
  Plan.makes_attemptEach fun _ hu => removesIn_deleteTarget hu

theorem gone_of_run_deleteTarget_ok {u : Target} (h : s.run faults (f.deleteTarget owner u).run = (.ok (), t)) :
    ∀ x ∈ f.resources u owner, t.world.object? x.store x.name = none := by
  refine @Plan.achieves_forM _ _ (Recorded.answer faults) (fun _ => True)
    (fun x t => t.world.object? x.store x.name = none) _ _ (fun _ _ _ _ => trivial) (fun x hx s t _ h => ?_)
    (fun x hx y hy s hs => ⟨trivial, ?_⟩) _ _ trivial h
  · rcases Recorded.run_work_bind_cases faults s (ensureDeleted x.store x.kind.api.kind x.name) fun _ => pure () with
      ⟨b, v, hv, hr⟩ | ⟨e, v, -, hr⟩
    · obtain rfl : v = t := congrArg (·.2) (hr.symm.trans h)
      exact object?_run_ensureDeleted_eq_none hv
    · cases (Prod.mk.inj (hr.symm.trans h)).1
  · have hmakes : (do let _ ← ensureDeleted x.store x.kind.api.kind x.name; pure () : Work Unit).run.Makes
        (·.RemovesIn fun _ _ => True) :=
      (removesIn_ensureDeleted _ trivial).work_bind fun _ => Plan.makes_pure _
    exact (hmakes.removedIn faults s).object?_eq_none hs.2

theorem gone_of_run_attemptEach_deleteTarget
    (h : s.run faults (Work.attemptEach f.labels (f.deleteTarget owner) ts) = ([], t)) {r : StoreRef} {name : String}
    (hplace : f.Places owner ts r name) : t.world.object? r name = none := by
  obtain ⟨u, hu, x, hx, rfl, rfl⟩ := hplace
  refine @Plan.achieves_attemptEach _ _ (Recorded.answer faults) (fun _ => True)
    (fun u t => ∀ x ∈ f.resources u owner, t.world.object? x.store x.name = none) _ _ _ (fun _ _ _ _ => trivial)
    (fun _ _ _ _ _ h => gone_of_run_deleteTarget_ok h) (fun u hu u' _ s hs => ⟨trivial, fun x hx => ?_⟩) _ _
    trivial h u hu x hx
  exact ((removesIn_deleteTarget hu).removedIn faults s).object?_eq_none (hs.2 x hx)

/-- The objects in the places of the resources are removed, whoever they belong to, and nothing else; without a failure
all of them are gone. -/
theorem run_sweep_removes (f : Feature) (owner : Owner) (faults : Faults) (s : Recorded) :
    s.world.Removal (f.Places owner (f.targetsIn s.world)) ((s.run faults (f.sweep owner)).1 = [])
      (s.run faults (f.sweep owner)).2.world := by
  rw [sweep, Recorded.run_bind]
  obtain ⟨t, ht, hr | ⟨e, hr⟩⟩ := f.run_targets_cases faults s <;> rw [hr]
  · refine ⟨?_, fun hnil r name hplace => ?_⟩
    · exact (World.RemovedIn.of_store ht).trans
        ((f.removesIn_attemptEach_deleteTarget owner (f.targetsIn s.world)).removedIn faults t)
    · exact gone_of_run_attemptEach_deleteTarget (Prod.ext hnil rfl) hplace
  · exact ⟨.of_store ht, fun hnil => nomatch hnil⟩

/-! ## Switching off -/

theorem run_disable_of_targets {σ : Type} {answer : Plan.Answering σ} {s t : σ} (f : Feature) (owner : Owner)
    {ts : List Target} (h : f.targets.run.run answer s = (.ok ts, t)) : (f.disable owner).run.run answer s =
      (((Work.attemptEach f.labels (f.deleteTarget owner) ts).run answer t).1.toResult,
        ((Work.attemptEach f.labels (f.deleteTarget owner) ts).run answer t).2) :=
  (Work.run_bind_of_ok h _).trans (Work.run_bind_of_ok (Work.run_lift answer t _) _)

/-- Switching off is a sweep whose failures are put together. -/
theorem run_disable_eq_sweep (f : Feature) (owner : Owner) (faults : Faults) (s : Recorded) :
    (s.run faults (f.disable owner).run).2 = (s.run faults (f.sweep owner)).2 ∧
      ((s.run faults (f.disable owner).run).1 = .ok () ↔ (s.run faults (f.sweep owner)).1 = []) := by
  have hdisable : (f.disable owner).run = _ := rfl
  rw [sweep, Recorded.run_bind]
  obtain ⟨t, ht, hr | ⟨e, hr⟩⟩ := f.run_targets_cases faults s
  · have hrun : s.run faults (f.disable owner).run = _ := f.run_disable_of_targets owner hr
    rw [hr, hrun]
    exact ⟨rfl, Failures.toResult_eq_ok⟩
  · have hrun : s.run faults (f.disable owner).run = _ := Work.run_bind_of_error hr _
    rw [hr, hrun]
    exact ⟨rfl, iff_of_false (fun h => nomatch h) fun h => nomatch h⟩

/-- Switching off removes the objects in the places of the resources, whoever they belong to, and nothing else; after a
success all of them are gone. -/
theorem run_disable_removes (f : Feature) (owner : Owner) (faults : Faults) (s : Recorded) :
    s.world.Removal (f.Places owner (f.targetsIn s.world)) ((s.run faults (f.disable owner).run).1 = .ok ())
      (s.run faults (f.disable owner).run).2.world := by
  obtain ⟨hstate, hok⟩ := f.run_disable_eq_sweep owner faults s
  obtain ⟨hremoved, hgone⟩ := f.run_sweep_removes owner faults s
  rw [hstate]
  exact ⟨hremoved, fun h => hgone (hok.1 h)⟩

theorem removal_disable (f : Feature) (owner : Owner) (w : World) :
    w.Removal (f.Places owner (f.targetsIn w)) ((w.run (f.disable owner).run).1 = .ok ())
      (w.run (f.disable owner).run).2 := by
  obtain ⟨hvalue, hworld⟩ := Recorded.run_none (f.disable owner).run ⟨w, []⟩
  rw [← hvalue, ← hworld]
  exact f.run_disable_removes owner (fun _ => none) ⟨w, []⟩

/-- After switching off no target has any resource. -/
theorem run_disable_ok {w v : World} (h : w.run (f.disable owner).run = (.ok (), v)) :
    ∀ t ∈ f.targetsIn w, ∀ r ∈ f.resources t owner, v.object? r.store r.name = none := by
  have hgone := (f.removal_disable owner w).gone
  rw [h] at hgone
  exact fun t ht r hr => hgone rfl _ _ ⟨t, ht, r, hr, rfl, rfl⟩

/-- Switching off keeps the objects that are none of the resources. -/
theorem keeps_disable_of_apart {r : StoreRef} {name : String} {o : Option r.kind.Object}
    (h : ∀ t, ∀ x ∈ f.resources t owner, r ≠ x.store ∨ name ≠ x.name) :
    (f.disable owner).run.Keeps fun w => w.object? r name = o := by
  intro w hw
  rcases (f.removal_disable owner w).removed r name with hsame | ⟨-, t, -, x, hx, hr, hn⟩
  · exact hsame.trans hw
  · exact ((h t x hx).elim (· hr) (· hn)).elim

/-! ## Sweeping all features -/

theorem makes_sweep (f : Feature) (owner : Owner) : (f.sweep owner).Makes IsFeatureCall := by
  refine f.makes_targets.bind fun targets => ?_
  cases targets with
  | error e => exact Plan.makes_pure _
  | ok ts => exact Plan.makes_attemptEach fun t _ => f.makes_deleteTarget owner t

theorem run_forEach_sweep_removes (owner : Owner) (faults : Faults) : ∀ (fs : List Feature) (s : Recorded),
    s.world.RemovedIn (fun r name => ∃ f ∈ fs, f.Places owner (f.targetsIn s.world) r name)
      (s.run faults (Plan.forEach (sweep · owner) fs)).2.world
  | [], _ => .of_store rfl
  | f :: rest, s => by
    rw [Recorded.run_forEach_cons]
    refine World.RemovedIn.trans ?_ (World.RemovedIn.mono ?_ (run_forEach_sweep_removes owner faults rest _))
    · exact (f.run_sweep_removes owner faults s).removed.mono fun r name h => ⟨f, List.mem_cons_self, h⟩
    · -- the targets of the later features are those that they had at first
      rintro r name ⟨g, hg, hplace⟩
      rw [targetsIn_run (f.makes_sweep owner) g faults s] at hplace
      exact ⟨g, List.mem_cons_of_mem f hg, hplace⟩

theorem gone_of_run_forEach_sweep {fs : List Feature} {failures : List Failures}
    (h : s.run faults (Plan.forEach (sweep · owner) fs) = (failures, t)) (hnil : ∀ x ∈ failures, x = []) :
    ∀ f ∈ fs, ∀ r name, f.Places owner (f.targetsIn s.world) r name → t.world.object? r name = none := by
  refine @Plan.achieves_forEach _ _ _ (Recorded.answer faults)
    (fun u => ∀ f : Feature, f.targetsIn u.world = f.targetsIn s.world)
    (fun f t => ∀ r name, f.Places owner (f.targetsIn s.world) r name → t.world.object? r name = none) _ (· = []) _
    (fun f _ u hu g => (targetsIn_run (f.makes_sweep owner) g faults u).trans (hu g))
    (fun f _ u failures v hu hv hnil r name hplace => ?_)
    (fun f _ g _ u hu => ⟨fun g => (targetsIn_run (f.makes_sweep owner) g faults u).trans (hu.1 g),
      fun r name hplace => (f.run_sweep_removes owner faults u).removed.object?_eq_none (hu.2 r name hplace)⟩)
    _ _ _ (fun _ => rfl) h hnil
  have hgone := (f.run_sweep_removes owner faults u).gone
  rw [show u.run faults (f.sweep owner) = (failures, v) from hv, hu f] at hgone
  exact hgone hnil r name hplace

/-- The sweep of all features removes the objects in the places of their resources, whoever they belong to, and nothing
else; without a failure all of them are gone. -/
theorem run_sweepAll_removes (owner : Owner) (faults : Faults) (s : Recorded) :
    s.world.Removal (fun r name => ∃ f : Feature, f.Places owner (f.targetsIn s.world) r name)
      ((s.run faults (sweepAll owner).run).1 = .ok ()) (s.run faults (sweepAll owner).run).2.world := by
  have hrun : s.run faults (sweepAll owner).run = (Failures.toResult
      (s.run faults (Plan.forEach (sweep · owner) all)).1.flatten,
        (s.run faults (Plan.forEach (sweep · owner) all)).2) :=
    Work.run_bind_of_ok (Work.run_lift (Recorded.answer faults) s _) _
  rw [hrun]
  refine ⟨(run_forEach_sweep_removes owner faults all s).mono ?_, ?_⟩
  · rintro r name ⟨f, -, hplace⟩
    exact ⟨f, hplace⟩
  · rintro hok r name ⟨f, hplace⟩
    have hnil := List.flatten_eq_nil_iff.1 (Failures.toResult_eq_ok.1 hok)
    exact gone_of_run_forEach_sweep (Prod.ext rfl rfl) hnil f (by cases f <;> decide) r name hplace

end Feature

end HubSearch
