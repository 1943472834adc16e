/-
Switching features off while any call can fail, one by one or all together. A condition stays true until everything is
gone, so another attempt removes what is left. The prerequisites of a feature do not matter. Main statement:
`switches_off_completely`.
-/
import HubSearch.Proofs.Feature.Sweep
import HubSearch.Proofs.Store.Twin
import Mathlib.Logic.Relation

namespace HubSearch

open World

/-! ## Stores with the same objects -/

/-- The stores hold the same objects. The writes that are made to fail can be others. -/
def World.SameObjects (w v : World) : Prop := ∀ r, (v.store r).objects = (w.store r).objects

theorem World.SameObjects.object?_eq {w v : World} (h : w.SameObjects v) (r : StoreRef) (name : String) :
    v.object? r name = w.object? r name := by
  rw [object?, object?, h r]

/-- Make no write fail any more. -/
def World.undisturbed (w : World) : World :=
  { w with store := fun r => { w.store r with failsAll := false, failsFor := [] }, failing := [] }

theorem World.sameObjects_undisturbed (w : World) : w.SameObjects w.undisturbed := fun _ => rfl

theorem World.unblocked_undisturbed (w : World) : w.undisturbed.Unblocked := fun r name => by
  cases h : r.inNamespace <;> simp [blocks, undisturbed, h]

theorem Feature.targetsIn_of_sameObjects {w v : World} (h : w.SameObjects v) {f : Feature} :
    f.targetsIn v = f.targetsIn w := by
  rw [targetsIn, targetsIn, h]

namespace Feature

variable {f : Feature} {owner : Owner} {faults : Faults} {s t u : Recorded} {made : List (StoreCall × Bool)}

/-! ## Disabling and sweeping all features -/

/-- What switches features off: a feature is disabled, or all features are swept. -/
inductive SwitchesOff (owner : Owner) : List Feature → Work Unit → Prop
  | disable (f : Feature) : SwitchesOff owner [f] (f.disable owner)
  | sweepAll : SwitchesOff owner Feature.all (sweepAll owner)

/-- The features and the targets that they are removed from, in their order. -/
def sweptItems (fs : List Feature) (w : World) : List (Feature × Target) :=
  fs.flatMap fun f => (f.targetsIn w).map (f, ·)

/-- The calls that switch features off: the managed clusters are read, and resources removed. -/
def IsSwitchOffCall (owner : Owner) (c : StoreCall) : Prop :=
  c = .fetchAll (hubStore .managedCluster) ∨
    ∃ (f : Feature) (x : Target), ∃ r ∈ f.resources x owner, c = .remove r.store r.name

theorem IsSwitchOffCall.isFeatureCall {c : StoreCall} (h : IsSwitchOffCall owner c) : IsFeatureCall c := by
  obtain rfl | ⟨f, x, r, hr, rfl⟩ := h
  · exact ⟨.inl ⟨rfl, _, rfl⟩, rfl⟩
  · exact isFeatureCall_of_store hr _ ⟨rfl, rfl⟩

/-- The prerequisites of a feature are not looked at. -/
theorem IsSwitchOffCall.not_isPrerequisiteStore {c : StoreCall} (h : IsSwitchOffCall owner c) :
    ¬IsPrerequisiteStore c.store := by
  obtain rfl | ⟨f, x, r, hr, rfl⟩ := h
  · exact not_or.2 ⟨by decide, by decide⟩
  · have hkind : ∀ k ∉ resourceKinds, r.store ≠ hubStore k := by
      rintro k hk hstore
      obtain rfl : r.kind = k := Kind.unstructured.inj (congrArg StoreRef.kind hstore)
      exact hk (kind_of_mem_resources hr)
    exact not_or.2 ⟨hkind _ (by decide), hkind _ (by decide)⟩

theorem makes_targets_switchOff (f : Feature) (owner : Owner) : f.targets.run.Makes (IsSwitchOffCall owner) := by
  cases f with
  | fineGrainedRbac => exact Plan.makes_pure _
  | _ => exact Plan.Makes.work_bind (Plan.makes_ask (.inl rfl)) fun _ => Plan.makes_pure _

theorem makes_attemptEach_switchOff (f : Feature) (owner : Owner) (ts : List Target) :
    (Work.attemptEach f.labels (f.deleteTarget owner) ts).Makes (IsSwitchOffCall owner) :=
  Plan.makes_attemptEach fun x _ => (f.removes_deleteTarget owner x).mono fun _ hc => .inr ⟨f, x, hc⟩

/-- When no read fails, disabling puts the failures of a sweep together. -/
theorem run_disable_of_reads (hmade : (s.run faults (f.disable owner).run).2.calls = s.calls ++ made)
    (hreads : ReadsAnswered made) : s.run faults (f.disable owner).run =
      ((s.run faults (f.sweep owner)).1.toResult, (s.run faults (f.sweep owner)).2) := by
  obtain ⟨u, -, hr | ⟨e, hr⟩⟩ := f.run_targets_cases faults s
  · rw [sweep, Recorded.run_bind, hr]
    exact f.run_disable_of_targets owner hr
  · have hrun : s.run faults (f.disable owner).run = (.error e, u) := Work.run_bind_of_error hr _
    have htargets : (s.run faults f.targets.run).2.calls = s.calls ++ made := by
      rw [hr, ← hmade, hrun]
    obtain ⟨v, hv, -⟩ := run_targets_of_reads htargets hreads
    cases hr.symm.trans hv

namespace SwitchesOff

variable {fs : List Feature} {work : Work Unit} {result : Except OperatorError Unit}

theorem makes (h : SwitchesOff owner fs work) : work.run.Makes (IsSwitchOffCall owner) := by
  cases h with
  | disable f =>
    exact (f.makes_targets_switchOff owner).work_bind fun ts =>
      (f.makes_attemptEach_switchOff owner ts).lift.work_bind fun _ => Plan.makes_pure _
  | sweepAll =>
    refine Plan.Makes.work_bind (Plan.Makes.lift (Plan.makes_forEach fun f _ => ?_)) fun _ => Plan.makes_pure _
    refine (f.makes_targets_switchOff owner).bind fun targets => ?_
    cases targets with
    | error e => exact Plan.makes_pure _
    | ok ts => exact f.makes_attemptEach_switchOff owner ts

theorem targetsIn_run (h : SwitchesOff owner fs work) (f : Feature) (faults : Faults) (s : Recorded) :
    f.targetsIn (s.run faults work.run).2.world = f.targetsIn s.world :=
  Feature.targetsIn_run (h.makes.mono fun _ hc => hc.isFeatureCall) f faults s

/-- The objects in the places of the resources are removed, whoever they belong to, and nothing else; after a success
all of them are gone. -/
theorem run_removes (h : SwitchesOff owner fs work) (faults : Faults) (s : Recorded) :
    s.world.Removal (fun r name => ∃ f ∈ fs, f.Places owner (f.targetsIn s.world) r name)
      ((s.run faults work.run).1 = .ok ()) (s.run faults work.run).2.world := by
  cases h with
  | disable f =>
    obtain ⟨hremoved, hgone⟩ := f.run_disable_removes owner faults s
    refine ⟨hremoved.mono fun r name hplace => ⟨f, List.mem_singleton_self f, hplace⟩, ?_⟩
    rintro hok r name ⟨g, hg, hplace⟩
    obtain rfl := List.mem_singleton.1 hg
    exact hgone hok r name hplace
  | sweepAll =>
    obtain ⟨hremoved, hgone⟩ := run_sweepAll_removes owner faults s
    refine ⟨hremoved.mono ?_, ?_⟩
    · rintro r name ⟨f, hplace⟩
      exact ⟨f, by cases f <;> decide, hplace⟩
    · rintro hok r name ⟨f, -, hplace⟩
      exact hgone hok r name ⟨f, hplace⟩

/-- Every feature has its turn in every target, and the result puts the failures together. -/
theorem exists_swept (h : SwitchesOff owner fs work) (hrun : s.run faults work.run = (result, t))
    (hmade : t.calls = s.calls ++ made) (hreads : ReadsAnswered made) :
    ∃ (turns : List (Turn (Feature × Target))) (causes : Failures),
      Swept owner (sweptItems fs s.world) made causes t turns ∧ result = causes.toResult := by
  cases h with
  | disable f =>
    obtain ⟨rfl, rfl⟩ := Prod.mk.inj (hrun.symm.trans (run_disable_of_reads (by rw [hrun]; exact hmade) hreads))
    obtain ⟨turns, hturns⟩ := swept_sweep (Prod.ext rfl rfl) hmade hreads
    refine ⟨turns, _, ?_, rfl⟩
    rwa [sweptItems, List.flatMap_singleton]
  | sweepAll =>
    have hall : s.run faults (Feature.sweepAll owner).run = (Failures.toResult
        (s.run faults (Plan.forEach (sweep · owner) all)).1.flatten,
          (s.run faults (Plan.forEach (sweep · owner) all)).2) :=
      Work.run_bind_of_ok (Work.run_lift (Recorded.answer faults) s _) _
    obtain ⟨rfl, rfl⟩ := Prod.mk.inj (hrun.symm.trans hall)
    obtain ⟨turns, hturns⟩ := swept_forEach (Prod.ext rfl rfl) hmade hreads
    exact ⟨turns, _, hturns, rfl⟩

end SwitchesOff

/-- Managed clusters with different names are different turns. -/
theorem SwitchesOff.nodup_sweptItems {fs : List Feature} {work : Work Unit} (h : SwitchesOff owner fs work) {w : World}
    (hnames : ((w.store (hubStore .managedCluster)).objects.values.map fun c => c.metadata.anyName).Nodup) :
    (sweptItems fs w).Nodup := by
  have hfs : fs.Nodup := by
    cases h with
    | disable f => exact List.nodup_singleton f
    | sweepAll => decide
  refine List.nodup_flatMap.2 ⟨fun f _ => (nodup_targetsIn hnames).map fun _ _ heq => (Prod.mk.inj heq).2, ?_⟩
  refine hfs.imp fun hne => ?_
  rintro _ hx hy
  obtain ⟨x, -, rfl⟩ := List.mem_map.1 hx
  obtain ⟨y, -, heq⟩ := List.mem_map.1 hy
  exact hne (Prod.mk.inj heq).1.symm

/-- What is gone stays gone, so where all is done nothing is left to change. -/
theorem SwitchesOff.object?_run_again {fs : List Feature} {work : Work Unit} (h : SwitchesOff owner fs work)
    (hok : s.run faults work.run = (.ok (), t)) {again : Recorded} (hsame : t.world.SameObjects again.world)
    (faults' : Faults) (r : StoreRef) (name : String) :
    (again.run faults' work.run).2.world.object? r name = again.world.object? r name := by
  rcases (h.run_removes faults' again).removed r name with hkept | ⟨hnone, f, hf, hplace⟩
  · exact hkept
  · have hgone := (h.run_removes faults s).gone (by rw [hok]) r name ⟨f, hf, ?_⟩
    · rw [hok] at hgone
      rw [hnone, hsame.object?_eq, hgone]
    · have htargets := h.targetsIn_run f faults s
      rw [hok] at htargets
      rwa [← htargets, ← targetsIn_of_sameObjects hsame]

/-! ## Another attempt after a failure -/

/-- A pass over a Search that has the feature off, in which something failed. The stores hold what they held before. -/
inductive Stalls (f : Feature) (owner : Owner) : SearchStatus × World → SearchStatus × World → Prop
  | pass {p : Pass} {status after : SearchStatus} {w : World} {s t : Recorded} {report : Report} (faults : Faults)
      (howner : p.owner = owner) (hoff : p.toggles.isEnabled f = false) (hsame : w.SameObjects s.world)
      (hrun : s.run faults (p.reconcileFeature f status) = ((after, report), t)) (hfailed : report.failures ≠ []) :
      Stalls f owner (status, w) (after, t.world)

variable {before after : SearchStatus × World}

/-- The condition stays, and at most some of the resources are removed. -/
theorem Stalls.step (h : f.Stalls owner before after) : after.1 = before.1 ∧
    f.targetsIn after.2 = f.targetsIn before.2 ∧
    before.2.RemovedIn (f.Places owner (f.targetsIn before.2)) after.2 := by
  cases h with
  | @pass p status _ w s t report faults howner hoff hsame hrun hfailed =>
    subst howner
    have hremoves := (f.run_reconcile_off_removes p.owner (p.now f) p.generation status faults s).removed
    have htargets := targetsIn_run (f.makes_reconcile p.owner (p.now f) p.generation false status) f faults s
    rw [Pass.reconcileFeature, Recorded.run_bind, hoff] at hrun
    cases hresult : s.run faults (f.reconcile p.owner (p.now f) p.generation false status).run with
    | mk result u =>
      rw [hresult] at hrun hremoves htargets
      cases result with
      | ok outcome =>
        cases hrun
        exact absurd rfl hfailed
      | error e =>
        cases hrun
        rw [targetsIn_of_sameObjects hsame] at htargets hremoves
        refine ⟨rfl, htargets, fun r name => ?_⟩
        rw [← hsame.object?_eq]
        exact (hremoves r name).imp_right fun hgone => ⟨hgone.1, hgone.2.2⟩

/-- However often it fails, the condition stays, and at most some of the resources are removed. -/
theorem stalled (h : Relation.ReflTransGen (f.Stalls owner) before after) : after.1 = before.1 ∧
    f.targetsIn after.2 = f.targetsIn before.2 ∧
    before.2.RemovedIn (f.Places owner (f.targetsIn before.2)) after.2 := by
  induction h with
  | refl => exact ⟨rfl, rfl, .of_store rfl⟩
  | tail _ hstep ih =>
    obtain ⟨hstatus, htargets, hremoved⟩ := ih
    obtain ⟨hstatus', htargets', hremoved'⟩ := hstep.step
    rw [htargets] at htargets' hremoved'
    exact ⟨hstatus'.trans hstatus, htargets', hremoved.trans hremoved'⟩

/-- A feature is said to be switched off by a condition that is false. -/
theorem condition?_of_disabled {status : SearchStatus} (h : f.state status = .disabled) :
    ∃ c, status.condition? f.conditionType = some c ∧ c.status = ConditionStatus.false.word := by
  unfold state FeatureState.ofCondition at h
  cases hc : status.condition? f.conditionType with
  | none =>
    rw [hc] at h
    cases h
  | some c =>
    rw [hc] at h
    dsimp only at h
    split at h
    · cases h
    · split at h
      · exact ⟨c, rfl, And.left ‹_›⟩
      · cases h

/-- Once no write is made to fail, the next pass removes what is left, and then sets the condition to false. -/
theorem run_reconcileFeature_off_of_unblocked {status : SearchStatus} {w : World} (p : Pass)
    (hoff : p.toggles.isEnabled f = false) (htrue : status.isTrue f.conditionType = true) (hblocks : w.Unblocked) :
    ∃ after report v, w.run (p.reconcileFeature f status) = ((after, report), v) ∧ report.failures = [] ∧
      (∃ c, after.condition? f.conditionType = some c ∧ c.status = ConditionStatus.false.word) ∧
      w.Removal (f.Places p.owner (f.targetsIn w)) True v := by
  obtain ⟨hremoved, hgone⟩ := f.removal_disable p.owner w
  obtain ⟨v, hv⟩ : ∃ v, w.run (f.disable p.owner).run = (.ok (), v) := run_disable_of_unblocked hblocks
  rw [hv] at hremoved hgone
  refine ⟨_, { notices := [Pass.transitionNotice f .disabled] }, v, ?_, rfl,
    condition?_of_disabled (@state_upsert_disabled f (p.now f) p.generation status), hremoved, fun _ => hgone rfl⟩
  rw [Pass.reconcileFeature, World.run_bind, hoff, reconcile_off_of_enabled (isTrue_iff_state.1 htrue),
    World.run_work_bind_ok hv]
  rfl

/-- Disabling one feature and sweeping all of them are complete, whatever writes fail. As long as the managed clusters
can be read, every feature has its turn in every target, in the order of the features and in ascending order of the
targets; where no removal failed in a turn, none of the resources is left in the target, and nothing but resources is
removed. A removal fails only when it is made to fail, not because there is no object. It is a success exactly when no
removal failed; otherwise there is one failure for each turn in which one did, under the names of the feature and the
target. Calling it again after a success changes no object. The prerequisites of the features do not matter. And while
switching a feature off fails its condition stays true; once nothing is made to fail, another attempt removes what is
left, and then the condition is set to false. -/
theorem switches_off_completely (owner : Owner) :
    (∀ fs work, SwitchesOff owner fs work → ∀ (faults : Faults) (s : Recorded),
      (∀ result t made, s.run faults work.run = (result, t) → t.calls = s.calls ++ made → ReadsAnswered made →
        (∀ n r name ok, made[n]? = some (.remove r name, ok) →
          (ok = false ↔ (faults (s.calls.length + n)).isSome = true ∨ s.world.blocks r name = true)) ∧
        (result = .ok () ↔ ∀ call ∈ made, call.1.isWrite = true → call.2 = true) ∧
        ∃ (turns : List (Turn (Feature × Target))) (causes : Failures),
          Swept owner (sweptItems fs s.world) made causes t turns ∧
          (causes = [] ∧ result = .ok () ∨ causes ≠ [] ∧ result = .error (.aggregate causes))) ∧
      (∀ f : Feature, (f.targetsIn s.world).Pairwise fun a b => a.name ≤ b.name) ∧
      (((s.world.store (hubStore .managedCluster)).objects.values.map fun c => c.metadata.anyName).Nodup →
        (sweptItems fs s.world).Nodup) ∧
      s.world.Removal (fun r name => ∃ f ∈ fs, f.Places owner (f.targetsIn s.world) r name)
        ((s.run faults work.run).1 = .ok ()) (s.run faults work.run).2.world ∧
      (∀ t, s.run faults work.run = (.ok (), t) →
        ∀ (faults' : Faults) (again : Recorded), t.world.SameObjects again.world →
          ∀ r name, (again.run faults' work.run).2.world.object? r name = again.world.object? r name) ∧
      ∀ s', s.AgreeOn (fun r => ¬IsPrerequisiteStore r) s' →
        (s'.run faults work.run).1 = (s.run faults work.run).1 ∧
        (s.run faults work.run).2.AgreeOn (fun r => ¬IsPrerequisiteStore r) (s'.run faults work.run).2) ∧
    ∀ (f : Feature) (before after : SearchStatus × World), before.1.isTrue f.conditionType = true →
      Relation.ReflTransGen (f.Stalls owner) before after →
      after.1 = before.1 ∧ before.2.RemovedIn (f.Places owner (f.targetsIn before.2)) after.2 ∧
      ∀ (p : Pass) (w : World), p.owner = owner → p.toggles.isEnabled f = false → after.2.SameObjects w →
        w.Unblocked → ∃ status report v, w.run (p.reconcileFeature f after.1) = ((status, report), v) ∧
          report.failures = [] ∧
          (∃ c, status.condition? f.conditionType = some c ∧ c.status = ConditionStatus.false.word) ∧
          before.2.Removal (f.Places owner (f.targetsIn before.2)) True v := by
  refine ⟨fun fs work hwork faults s => ⟨fun result t made hrun hmade hreads => ?_, fun f => f.pairwise_targetsIn _,
    fun hnames => ?_, hwork.run_removes faults s, fun t hok faults' again hsame => ?_, ?_⟩,
    fun f before after htrue hstalls => ?_⟩
  · obtain ⟨turns, causes, hswept, rfl⟩ := hwork.exists_swept hrun hmade hreads
    refine ⟨fun n r name ok hcall => ?_, Failures.toResult_eq_ok.trans hswept.failures_eq_nil_iff, turns, causes,
      hswept, ?_⟩
    · exact Plan.removal_failed_iff faults work.run s (by rw [hrun, hmade]) hcall
    · cases causes with
      | nil => exact .inl ⟨rfl, rfl⟩
      | cons cause rest => exact .inr ⟨List.cons_ne_nil _ _, rfl⟩
  · exact hwork.nodup_sweptItems hnames
  · exact hwork.object?_run_again hok hsame faults'
  · exact (hwork.makes.mono fun _ hc => hc.not_isPrerequisiteStore).twin_agreeOn faults s
  · obtain ⟨hstatus, htargets, hremoved⟩ := stalled hstalls
    refine ⟨hstatus, hremoved, ?_⟩
    rintro p w rfl hoff hsame hblocks
    rw [← hstatus] at htrue
    obtain ⟨status, report, v, hrun, hfailures, hfalse, hremoved', hgone⟩ :=
      run_reconcileFeature_off_of_unblocked p hoff htrue hblocks
    rw [targetsIn_of_sameObjects hsame, htargets] at hremoved' hgone
    refine ⟨status, report, v, hrun, hfailures, hfalse, hremoved.trans fun r name => ?_, hgone⟩
    rw [← hsame.object?_eq]
    exact hremoved' r name

/-- A hub on which global search is in two managed clusters, into one of which every write fails. -/
def stuckHub : World :=
  let place (w : World) (cluster : String) : World :=
    (globalSearch.resources (.managedCluster cluster) sampleOwner).foldl (fun w r => w.seed r.store r.object) w
  place (place wideHub "east") "west"

theorem targetsIn_stuckHub : globalSearch.targetsIn stuckHub = [.managedCluster "east", .managedCluster "west"] := by
  rw [← targetsIn_wideHub]
  exact targetsIn_congr rfl

/-- A pass that has global search off. -/
def stuckPass : Pass := ⟨{}, sampleOwner, {}, default⟩

/-- The status of a Search that had global search on. -/
def stuckStatus : SearchStatus := (({} : SearchStatus).upsert (globalSearch.enabledCondition default 1 2)).1

theorem run_disable_stuckHub : ∃ causes t, (⟨stuckHub, []⟩ : Recorded).run (fun _ => none)
    (globalSearch.disable sampleOwner).run = (.error (.aggregate causes), t) ∧
    causes.map (·.1) = [["GlobalSearch", "west"]] := by
  let s : Recorded := ⟨stuckHub, []⟩
  let u := (s.run (fun _ => none) globalSearch.targets.run).2
  have htargets : s.run (fun _ => none) globalSearch.targets.run = (.ok (globalSearch.targetsIn stuckHub), u) := rfl
  rw [targetsIn_stuckHub] at htargets
  have hlabels : (u.run (fun _ => none) (Work.attemptEach globalSearch.labels (globalSearch.deleteTarget sampleOwner)
      [.managedCluster "east", .managedCluster "west"])).1.map (·.1) = [["GlobalSearch", "west"]] := by
    decide +kernel
  have hrun : s.run (fun _ => none) (globalSearch.disable sampleOwner).run = _ :=
    globalSearch.run_disable_of_targets sampleOwner htargets
  rw [hrun]
  cases hcauses : (u.run (fun _ => none) (Work.attemptEach globalSearch.labels (globalSearch.deleteTarget sampleOwner)
      [.managedCluster "east", .managedCluster "west"])).1 with
  | nil =>
    rw [hcauses] at hlabels
    cases hlabels
  | cons cause rest => exact ⟨_, _, rfl, hcauses ▸ hlabels⟩

theorem stalls_stuckHub {e : OperatorError} {t : Recorded}
    (h : (⟨stuckHub, []⟩ : Recorded).run (fun _ => none) (globalSearch.disable sampleOwner).run = (.error e, t)) :
    globalSearch.Stalls sampleOwner (stuckStatus, stuckHub) (stuckStatus, t.world) := by
  have hoff : stuckPass.toggles.isEnabled globalSearch = false := by decide +kernel
  have hrun : (⟨stuckHub, []⟩ : Recorded).run (fun _ => none) (stuckPass.reconcileFeature globalSearch stuckStatus) =
      ((stuckStatus, ⟨[Pass.failureNotice globalSearch e], [([globalSearch.name], e)]⟩), t) := by
    have hstate : globalSearch.state stuckStatus = .enabled := state_upsert_enabled 2
    have hreconcile : (⟨stuckHub, []⟩ : Recorded).run (fun _ => none)
        (globalSearch.reconcile stuckPass.owner (stuckPass.now globalSearch) stuckPass.generation false
          stuckStatus).run = (.error e, t) := by
      rw [reconcile_off_of_enabled hstate]
      exact Work.run_bind_of_error h _
    rw [Pass.reconcileFeature, Recorded.run_bind, hoff, hreconcile]
    rfl
  exact .pass (fun _ => none) rfl hoff (fun _ => rfl) hrun (List.cons_ne_nil _ _)

/-- Where every write into one managed cluster fails, the resources in the other one are removed, also without the
add-ons; when nothing is made to fail any more, the next pass removes those that are left. -/
theorem switches_off_completely_stuckHub : ∃ causes t,
    (⟨stuckHub, []⟩ : Recorded).run (fun _ => none) (globalSearch.disable sampleOwner).run =
      (.error (.aggregate causes), t) ∧
    causes.map (·.1) = [["GlobalSearch", "west"]] ∧
    (∀ r ∈ globalSearch.resources (.managedCluster "east") sampleOwner, t.world.object? r.store r.name = none) ∧
    ((⟨stuckHub.set (hubStore .clusterManagementAddOn) {}, []⟩ : Recorded).run (fun _ => none)
      (globalSearch.disable sampleOwner).run).1 = .error (.aggregate causes) ∧
    ∃ status report v,
      t.world.undisturbed.run (stuckPass.reconcileFeature globalSearch stuckStatus) = ((status, report), v) ∧
      report.failures = [] ∧
      (∃ c, status.condition? globalSearch.conditionType = some c ∧ c.status = ConditionStatus.false.word) ∧
      ∀ r name, globalSearch.Places sampleOwner (globalSearch.targetsIn stuckHub) r name → v.object? r name = none := by
  let s : Recorded := ⟨stuckHub, []⟩
  obtain ⟨hsweeps, hretry⟩ := switches_off_completely sampleOwner
  obtain ⟨hresult, -, -, -, -, htwin⟩ := hsweeps _ _ (.disable globalSearch) (fun _ => none) s
  obtain ⟨causes, t, hrun, hlabels⟩ := run_disable_stuckHub
  obtain ⟨made, hmade, -⟩ := (Plan.makes_true (globalSearch.disable sampleOwner).run).exists_calls (fun _ => none) s
  rw [show s.run (fun _ => none) (globalSearch.disable sampleOwner).run = _ from hrun] at hmade htwin
  obtain ⟨-, -, turns, causes', hswept, ⟨-, hok⟩ | ⟨-, herror⟩⟩ :=
    hresult _ _ made hrun hmade (Plan.readsAnswered_of_none _ s (by rw [← hmade, hrun]))
  · cases hok
  cases herror
  refine ⟨causes, t, hrun, hlabels, ?_, ?_, ?_⟩
  · -- the turn of the first managed cluster is not among those that failed
    have hitems : turns.map (·.item) =
        [(globalSearch, .managedCluster "east"), (globalSearch, .managedCluster "west")] := by
      rw [hswept.items_eq, sweptItems, List.flatMap_singleton, targetsIn_stuckHub]
      rfl
    obtain ⟨turn, hturn, heast⟩ := List.mem_map.1 (hitems ▸ List.mem_cons_self)
    have hnone : turn.failed = false := by
      by_contra hfailed
      have hmem := List.mem_map_of_mem (f := fun turn : Turn (Feature × Target) => [turn.item.1.name, turn.item.2.name])
        (List.mem_filter.2 ⟨hturn, by simpa using hfailed⟩)
      rw [← hswept.reported, hlabels, heast] at hmem
      exact absurd hmem (by decide)
    have hgone := hswept.gone turn hturn hnone
    rwa [heast] at hgone
  · have hagree : s.AgreeOn (fun r => ¬IsPrerequisiteStore r)
        ⟨stuckHub.set (hubStore .clusterManagementAddOn) {}, []⟩ :=
      ⟨rfl, fun r hr => stuckHub.store_set_of_ne _ fun h => hr (.inl h), rfl⟩
    exact (htwin _ hagree).1
  · have htrue : stuckStatus.isTrue globalSearch.conditionType = true := isTrue_iff_state.2 (state_upsert_enabled 2)
    obtain ⟨-, -, hnext⟩ := hretry globalSearch _ _ htrue (.single (stalls_stuckHub hrun))
    have hoff : stuckPass.toggles.isEnabled globalSearch = false := by decide +kernel
    obtain ⟨status, report, v, hv, hfailures, hfalse, hgone⟩ := hnext stuckPass t.world.undisturbed rfl hoff
      t.world.sameObjects_undisturbed t.world.unblocked_undisturbed
    exact ⟨status, report, v, hv, hfailures, hfalse, hgone.gone trivial⟩

end Feature

end HubSearch
