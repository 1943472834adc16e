/-
Switching a feature on in many targets while any call can fail. Every target has its turn, in ascending order of the
names, whatever failed in the others; a turn in which no call failed leaves all resources in the target, and every other
one is reported, once. No managed cluster that is being deleted is touched. So a condition that says that the feature is
ready is true of all targets. Main statement: `enable_fans_out`.
-/
import HubSearch.Proofs.Amend.SameSet
import HubSearch.Proofs.Feature.Machine
import HubSearch.Proofs.Sync.Placement

namespace HubSearch.Feature

open World

variable {f : Feature} {owner : Owner} {faults : Faults} {s t u : Recorded} {ts : List Target}

/-! ## The order of the targets -/

theorem pairwise_clusterNames (clusters : List Unstructured) : (clusterNames clusters).Pairwise (· ≤ ·) :=
  pairwise_sortedByText id _

/-- The managed clusters can be listed in any order. -/
theorem clusterNames_eq_of_perm {clusters clusters' : List Unstructured} (h : clusters.Perm clusters') :
    clusterNames clusters = clusterNames clusters' := by
  refine (sortedByText_eq_iff_perm fun a _ b _ heq => ?_).2 ((h.filter _).map _)
  exact (heq : id a = id b)

theorem pairwise_targetsIn (f : Feature) (w : World) : (f.targetsIn w).Pairwise fun a b => a.name ≤ b.name := by
  unfold targetsIn
  cases f.scope with
  | hub => exact List.pairwise_singleton _ _
  | managedClusters => exact List.pairwise_map.2 (pairwise_clusterNames _)

/-- Managed clusters with different names are different targets. -/
theorem nodup_targetsIn {w : World}
    (h : ((w.store (hubStore .managedCluster)).objects.values.map fun c => c.metadata.anyName).Nodup) :
    (f.targetsIn w).Nodup := by
  unfold targetsIn
  cases f.scope with
  | hub => exact List.nodup_singleton _
  | managedClusters =>
    refine List.Nodup.map (fun _ _ heq => Target.managedCluster.inj heq) ?_
    refine (List.mergeSort_perm _ _).nodup_iff.2 (h.sublist ?_)
    exact List.filter_sublist.map _

theorem eq_managedCluster_of_mem_resources {t : Target} {r : FeatureResource} {ns : String}
    (hr : r ∈ f.resources t owner) (hns : r.store.inNamespace = some ns) : t = .managedCluster ns := by
  cases f with
  | fineGrainedRbac =>
    obtain rfl := List.mem_singleton.1 hr
    rw [FeatureResource.store_new] at hns
    cases hns
  | _ =>
    cases t with
    | hub => cases hr
    | managedCluster cluster =>
      have hcluster : r.store.inNamespace = some cluster := by
        rcases List.mem_cons.1 hr with rfl | hr
        · exact congrArg StoreRef.inNamespace (FeatureResource.store_new ..)
        · obtain rfl := List.mem_singleton.1 hr
          exact congrArg StoreRef.inNamespace (FeatureResource.store_new ..)
      rw [Option.some.inj (hcluster.symm.trans hns)]

/-- A resource in a namespace is that of a managed cluster that is not being deleted. -/
theorem exists_cluster_of_places {w : World} {k : Kind} {ns name : String}
    (h : f.Places owner (f.targetsIn w) ⟨k, some ns⟩ name) :
    ∃ c ∈ (w.store (hubStore .managedCluster)).objects.values,
      c.metadata.anyName = ns ∧ c.metadata.deletionTimestamp = none := by
  obtain ⟨t, ht, r, hr, hstore, -⟩ := h
  obtain rfl := eq_managedCluster_of_mem_resources hr (congrArg StoreRef.inNamespace hstore).symm
  unfold targetsIn at ht
  cases hscope : f.scope with
  | hub =>
    rw [hscope] at ht
    cases List.mem_singleton.1 ht
  | managedClusters =>
    rw [hscope] at ht
    obtain ⟨name, hname, heq⟩ := List.mem_map.1 ht
    obtain rfl := Target.managedCluster.inj heq
    obtain ⟨c, hc, hlives, hname⟩ := mem_clusterNames.1 hname
    exact ⟨c, hc, hname, Option.isNone_iff_eq_none.1 hlives⟩

/-! ## One target -/

theorem strict_applyTarget (f : Feature) (owner : Owner) (t : Target) : (f.applyTarget owner t).Strict :=
  Work.strict_forM fun _ _ => (strict_sync _ _).bind fun _ => Work.strict_pure ()

theorem makes_applyTarget (f : Feature) (owner : Owner) (t : Target) :
    (f.applyTarget owner t).run.Makes fun c => ∃ r ∈ f.resources t owner, c.store = r.store :=
  Plan.makes_forM fun r hr =>
    ((makes_sync r.store r.object).mono fun _ hc => ⟨r, hr, hc.1⟩).work_bind fun _ => Plan.makes_pure _

theorem preserves_applyTarget_putIn {w : World} {t : Target} (ht : t ∈ ts) :
    (f.applyTarget owner t).run.Preserves (Recorded.answer faults) fun s =>
      s.world.Versioned ∧ w.PutIn (f.Places owner ts) s.world := by
  refine Plan.preserves_forM fun r hr => ?_
  have hplace : f.Places owner ts r.wanted.store r.wanted.name :=
    ⟨t, ht, r, hr, rfl, name_wanted_of_mem_resources hr⟩
  exact (preserves_sync_putIn hplace).work_bind fun _ => Plan.preserves_pure _

theorem preserves_applyTarget_holds {t t' : Target} {r : FeatureResource} (hr : r ∈ f.resources t' owner) :
    (f.applyTarget owner t).run.Preserves (Recorded.answer faults) fun s =>
      s.world.Versioned ∧ s.world.Holds r.wanted :=
  Plan.preserves_forM fun _ hx =>
    (preserves_sync_holds (compatible_of_mem_resources hx hr)).work_bind fun _ => Plan.preserves_pure _

theorem holds_of_run_applyTarget_with_faults {t : Target} (hs : s.world.Versioned)
    (h : s.run faults (f.applyTarget owner t).run = (.ok (), u)) :
    ∀ r ∈ f.resources t owner, u.world.Holds r.wanted := by
  refine @Plan.achieves_forM _ _ (Recorded.answer faults) (fun u => u.world.Versioned)
    (fun r u => u.world.Holds r.wanted) _ _ (fun _ _ => Plan.preserves_versioned faults _)
    (fun r hr s u hs h => ?_) (fun r hr x hx => ?_) _ _ hs h
  · rcases Recorded.run_work_bind_cases faults s (sync r.store r.object) fun _ => pure () with
      ⟨o, v, hv, hrun⟩ | ⟨e, v, -, hrun⟩
    · obtain rfl : v = u := congrArg (·.2) (hrun.symm.trans h)
      exact holds_of_run_sync_with_faults (x := r.wanted) (hasDistinctKeys_of_mem_resources hr) hs hv
    · cases (Prod.mk.inj (hrun.symm.trans h)).1
  · exact (preserves_sync_holds (compatible_of_mem_resources hr hx)).work_bind fun _ => Plan.preserves_pure _

/-! ## All targets -/

theorem run_attemptEach_applyTarget_putIn (f : Feature) (owner : Owner) (ts : List Target) (faults : Faults)
    (hs : s.world.Versioned) : s.world.PutIn (f.Places owner ts)
      (s.run faults (Work.attemptEach f.labels (f.applyTarget owner) ts)).2.world := by
  have hput : (Work.attemptEach f.labels (f.applyTarget owner) ts).Preserves (Recorded.answer faults) fun u =>
      u.world.Versioned ∧ s.world.PutIn (f.Places owner ts) u.world :=
    Plan.preserves_attemptEach fun _ ht => preserves_applyTarget_putIn ht
  exact (hput s ⟨hs, .of_store rfl⟩).2

/-- Every target has its turn. The failures are those of the turns with a call that failed, and the others leave all
resources in their targets. -/
theorem run_attemptEach_applyTarget_turns {failures : Failures} (f : Feature) (owner : Owner) (ts : List Target)
    (hs : s.world.Versioned)
    (h : s.run faults (Work.attemptEach f.labels (f.applyTarget owner) ts) = (failures, t)) :
    ∃ turns : List (Turn Target), turns.map (·.item) = ts ∧ t.calls = s.calls ++ turns.flatMap (·.calls) ∧
      (∀ turn ∈ turns, ∀ call ∈ turn.calls, ∃ r ∈ f.resources turn.item owner, call.1.store = r.store) ∧
      failures.map (·.1) = (turns.filter (·.failed)).map (fun turn => f.labels turn.item) ∧
      ∀ turn ∈ turns, turn.failed = false → ∀ r ∈ f.resources turn.item owner, t.world.Holds r.wanted := by
  refine @Plan.run_attemptEach_turns _ faults f.labels (f.applyTarget owner)
    (fun t c => ∃ r ∈ f.resources t owner, c.store = r.store) (fun u => u.world.Versioned)
    (fun t u => ∀ r ∈ f.resources t owner, u.world.Holds r.wanted) ts (fun t _ => f.strict_applyTarget owner t)
    (fun t _ => f.makes_applyTarget owner t) (fun _ _ => Plan.preserves_versioned faults _)
    (fun t _ u v hu hv => holds_of_run_applyTarget_with_faults hu hv)
    (fun t _ t' _ u hu => ⟨Plan.preserves_versioned faults _ u hu.1, fun r hr => ?_⟩) _ _ _ hs h
  exact (preserves_applyTarget_holds hr u ⟨hu.1, hu.2 r hr⟩).2

/-! ## Switching on -/

/-- What is looked at before anything is applied: the prerequisites, and the targets. -/
def survey (f : Feature) : Work (List Target) := do
  f.validate
  f.targets

/-- Apply the resources to every target, and the number of targets. -/
def applyAll (f : Feature) (owner : Owner) (ts : List Target) : Work Nat := do
  let failures ← Work.attemptEach f.labels (f.applyTarget owner) ts
  Work.ofExcept failures.toResult
  pure ts.length

theorem enable_eq (f : Feature) (owner : Owner) : f.enable owner = f.survey >>= f.applyAll owner := by
  rw [survey, bind_assoc]
  rfl

theorem run_applyAll_of_answer {σ : Type} (answer : Plan.Answering σ) (s : σ) (f : Feature) (owner : Owner)
    (ts : List Target) : (f.applyAll owner ts).run.run answer s =
      (((Work.attemptEach f.labels (f.applyTarget owner) ts).run answer s).1.toResult.map fun _ => ts.length,
        ((Work.attemptEach f.labels (f.applyTarget owner) ts).run answer s).2) := by
  refine (Work.run_bind_of_ok (Work.run_lift answer s _) _).trans ?_
  cases ((Work.attemptEach f.labels (f.applyTarget owner) ts).run answer s).1 <;> rfl

theorem run_applyAll (f : Feature) (owner : Owner) (ts : List Target) (faults : Faults) (s : Recorded) :
    s.run faults (f.applyAll owner ts).run =
      ((s.run faults (Work.attemptEach f.labels (f.applyTarget owner) ts)).1.toResult.map fun _ => ts.length,
        (s.run faults (Work.attemptEach f.labels (f.applyTarget owner) ts)).2) :=
  run_applyAll_of_answer (Recorded.answer faults) s f owner ts

theorem makes_survey (f : Feature) : f.survey.run.Makes fun c => c.isWrite = false := by
  refine (f.makes_validate.mono fun _ h => h.1).work_bind fun _ => ?_
  cases f with
  | fineGrainedRbac => exact Plan.makes_pure _
  | _ => exact Plan.Makes.work_bind (Plan.makes_ask rfl) fun _ => Plan.makes_pure _

theorem targetsIn_of_run_survey (h : s.run faults f.survey.run = (.ok ts, u)) : ts = f.targetsIn s.world := by
  rcases Recorded.run_work_bind_cases faults s f.validate fun _ => f.targets with
    ⟨⟨⟩, v, hv, hr⟩ | ⟨e, v, -, hr⟩ <;> replace h := hr.symm.trans h
  · have hstore := (f.makes_validate.mono fun _ h => h.1).store_run_of_reads faults s
    rw [hv] at hstore
    obtain ⟨u', -, hr' | ⟨e, hr'⟩⟩ := f.run_targets_cases faults v <;> cases h.symm.trans hr'
    exact targetsIn_congr (congrFun hstore _)
  · cases h

/-- When the prerequisites hold, and no call fails that looks at them and at the managed clusters, the targets are
seen. -/
theorem run_survey_of_validates {made : List (StoreCall × Bool)} (hval : f.Validates s.world)
    (hmade : (s.run faults f.survey.run).2.calls = s.calls ++ made) (hok : ∀ call ∈ made, call.2 = true) :
    ∃ u, s.run faults f.survey.run = (.ok (f.targetsIn s.world), u) := by
  have hvalidate : s.world.run f.validate.run = (.ok (), _) := Prod.ext hval rfl
  obtain ⟨v, htargets, -⟩ := f.run_targets (s.world.run f.validate.run).2
  have hseen : s.world.run f.survey.run = (.ok (f.targetsIn s.world), v) := by
    rw [← targetsIn_congr (congrFun (f.onlyRead_validate s.world).store _), ← htargets]
    exact run_work_bind_ok hvalidate _
  refine ⟨_, Prod.ext ((Plan.run_of_forall_ok faults _ s hmade hok).1.trans ?_) rfl⟩
  rw [hseen]

theorem run_enable_of_survey (owner : Owner) (h : s.run faults f.survey.run = (.ok ts, u)) :
    s.run faults (f.enable owner).run = u.run faults (f.applyAll owner ts).run := by
  rw [enable_eq]
  exact Work.run_bind_of_ok h _

/-- Switching on puts resources into their places in the targets, and changes nothing else. -/
theorem run_enable_putIn (f : Feature) (owner : Owner) (faults : Faults) (hs : s.world.Versioned) :
    s.world.PutIn (f.Places owner (f.targetsIn s.world)) (s.run faults (f.enable owner).run).2.world := by
  have hstore := f.makes_survey.store_run_of_reads faults s
  rw [enable_eq]
  rcases Recorded.run_work_bind_cases faults s f.survey (f.applyAll owner) with ⟨ts, u, hu, hr⟩ | ⟨e, u, hu, hr⟩ <;>
    rw [hu] at hstore <;> rw [hr]
  · obtain rfl := targetsIn_of_run_survey hu
    rw [run_applyAll]
    exact (World.ChangedIn.of_store hstore).trans
      (run_attemptEach_applyTarget_putIn f owner _ faults (hs.congr hstore))
  · exact .of_store hstore

/-- A success means that no target failed. -/
theorem survey_of_run_enable_ok {n : Nat} (h : s.run faults (f.enable owner).run = (.ok n, t)) :
    ∃ ts u, s.run faults f.survey.run = (.ok ts, u) ∧
      u.run faults (Work.attemptEach f.labels (f.applyTarget owner) ts) = ([], t) := by
  rw [enable_eq] at h
  rcases Recorded.run_work_bind_cases faults s f.survey (f.applyAll owner) with ⟨ts, u, hu, hr⟩ | ⟨e, u, -, hr⟩
  · rw [hr, run_applyAll] at h
    obtain ⟨hresult, rfl⟩ := Prod.mk.inj h
    refine ⟨ts, u, hu, Prod.ext ?_ rfl⟩
    cases hfailures : (u.run faults (Work.attemptEach f.labels (f.applyTarget owner) ts)).1 with
    | nil => rfl
    | cons =>
      rw [hfailures] at hresult
      cases hresult
  · cases h.symm.trans hr

/-- When the condition is said to be true, all targets hold all resources. -/
theorem holds_of_run_reconcile {now : Timestamp} {generation : Int64} {isOn : Bool} {status after : SearchStatus}
    {change : Option Transition} (hs : s.world.Versioned)
    (h : s.run faults (f.reconcile owner now generation isOn status).run = (.ok (after, change), t))
    (htrue : after.isTrue f.conditionType = true) :
    isOn = true ∧ ∀ x ∈ f.targetsIn t.world, ∀ r ∈ f.resources x owner, t.world.Holds r.wanted := by
  have hstate := congrArg Prod.fst (follows_next_of_run_reconcile h)
  rw [isTrue_iff_state.1 htrue] at hstate
  cases isOn with
  | false => cases hs : f.state status <;> rw [hs] at hstate <;> cases hstate
  | true =>
    refine ⟨rfl, ?_⟩
    unfold reconcile at h
    rw [if_pos rfl] at h
    rcases Recorded.run_work_bind_cases faults s (f.enable owner) _ with ⟨n, u, hu, hr⟩ | ⟨e, u, -, hr⟩ <;>
      cases h.symm.trans hr
    obtain ⟨ts, v, hsurvey, hattempt⟩ := survey_of_run_enable_ok hu
    obtain rfl := targetsIn_of_run_survey hsurvey
    have hstore := f.makes_survey.store_run_of_reads faults s
    rw [hsurvey] at hstore
    obtain ⟨turns, hitems, -, -, hlabels, hholds⟩ :=
      run_attemptEach_applyTarget_turns f owner _ (hs.congr hstore) hattempt
    have htargets := targetsIn_run (f.makes_enable owner) f faults s
    rw [hu] at htargets
    rw [htargets]
    intro x hx
    rw [← hitems] at hx
    obtain ⟨turn, hturn, rfl⟩ := List.mem_map.1 hx
    have hnone := List.filter_eq_nil_iff.1 (List.map_eq_nil_iff.1 hlabels.symm) turn hturn
    exact hholds turn hturn (by simpa using hnone)

/-- When the prerequisites hold, and what is looked at before anything is applied can be read, the targets are seen.
Once they are, every target has its turn, in ascending order of the names, which does not depend on the order in which
the clusters are listed. A target in whose turn no call failed holds all resources in the end. The number of targets is
given when no call failed; otherwise the failures are exactly those of the targets with a call that failed, in their
order, under the names of the feature and the target. Nothing but the resources changes, so nothing in a namespace of
managed clusters that are being deleted. And the condition of the feature is set to true only when all targets hold all
resources. -/
theorem enable_fans_out (f : Feature) (owner : Owner) (faults : Faults) {s : Recorded} (hbuilt : s.world.Built) :
    (f.Validates s.world → ∀ made, (s.run faults f.survey.run).2.calls = s.calls ++ made →
      (∀ call ∈ made, call.2 = true) → ∃ u, s.run faults f.survey.run = (.ok (f.targetsIn s.world), u)) ∧
    (∀ ts u, s.run faults f.survey.run = (.ok ts, u) →
      ts = f.targetsIn s.world ∧ (ts.Pairwise fun a b => a.name ≤ b.name) ∧
      (((s.world.store (hubStore .managedCluster)).objects.values.map fun c => c.metadata.anyName).Nodup → ts.Nodup) ∧
      ∃ (turns : List (Turn Target)) (result : Except OperatorError Nat) (t : Recorded),
        s.run faults (f.enable owner).run = (result, t) ∧
        turns.map (·.item) = ts ∧ t.calls = u.calls ++ turns.flatMap (·.calls) ∧
        (∀ turn ∈ turns, ∀ call ∈ turn.calls, ∃ r ∈ f.resources turn.item owner, call.1.store = r.store) ∧
        (∀ turn ∈ turns, turn.failed = false → ∀ r ∈ f.resources turn.item owner, t.world.Holds r.wanted) ∧
        ((∀ turn ∈ turns, turn.failed = false) ∧ result = .ok ts.length ∨
          ∃ causes, result = .error (.aggregate causes) ∧ causes ≠ [] ∧
            causes.map (·.1) = (turns.filter (·.failed)).map fun turn => [f.name, turn.item.name]) ∧
        (∀ r name, ¬f.Places owner ts r name → t.world.object? r name = s.world.object? r name) ∧
        ∀ ns, (∀ c ∈ (s.world.store (hubStore .managedCluster)).objects.values, c.metadata.anyName = ns →
            c.metadata.deletionTimestamp ≠ none) →
          ∀ k name, t.world.object? ⟨k, some ns⟩ name = s.world.object? ⟨k, some ns⟩ name) ∧
    (∀ clusters clusters', clusters.Perm clusters' → clusterNames clusters = clusterNames clusters') ∧
    ∀ now generation isOn status after change t,
      s.run faults (f.reconcile owner now generation isOn status).run = (.ok (after, change), t) →
      after.isTrue f.conditionType = true →
      isOn = true ∧ ∀ x ∈ f.targetsIn t.world, ∀ r ∈ f.resources x owner, t.world.Holds r.wanted := by
  refine ⟨fun hval _ => run_survey_of_validates hval, fun ts u hsurvey => ?_, fun _ _ => clusterNames_eq_of_perm,
    fun _ _ _ _ _ _ _ h htrue => holds_of_run_reconcile hbuilt.versioned h htrue⟩
  obtain rfl := targetsIn_of_run_survey hsurvey
  have hstore := f.makes_survey.store_run_of_reads faults s
  rw [hsurvey] at hstore
  have hversioned : u.world.Versioned := hbuilt.versioned.congr hstore
  cases hrun : u.run faults (Work.attemptEach f.labels (f.applyTarget owner) (f.targetsIn s.world)) with
  | mk failures t =>
    have hput := run_attemptEach_applyTarget_putIn f owner (f.targetsIn s.world) faults hversioned
    rw [hrun] at hput
    obtain ⟨turns, hitems, hcalls, hstores, hlabels, hholds⟩ :=
      run_attemptEach_applyTarget_turns f owner (f.targetsIn s.world) hversioned hrun
    have hframe : ∀ r name, ¬f.Places owner (f.targetsIn s.world) r name →
        t.world.object? r name = s.world.object? r name := fun r name hplace =>
      (hput.object?_of_not hplace not_false).trans (object?_congr hstore r name)
    refine ⟨rfl, f.pairwise_targetsIn s.world, nodup_targetsIn, turns,
      failures.toResult.map fun _ => (f.targetsIn s.world).length, t, ?_, hitems, hcalls, hstores, hholds, ?_, hframe,
      fun ns hdeleted k name => hframe _ _ fun hplace => ?_⟩
    · rw [run_enable_of_survey owner hsurvey, run_applyAll, hrun]
    · cases failures with
      | nil =>
        have hnone := List.map_eq_nil_iff.1 hlabels.symm
        exact .inl ⟨fun turn hturn => by simpa using List.filter_eq_nil_iff.1 hnone turn hturn, rfl⟩
      | cons failure rest => exact .inr ⟨failure :: rest, rfl, List.cons_ne_nil _ _, hlabels⟩
    · obtain ⟨c, hc, hname, hlives⟩ := exists_cluster_of_places hplace
      exact hdeleted c hc hname hlives

/-- A hub with two more managed clusters: one into which every write fails, and one that is being deleted. -/
def wideHub : World :=
  let cluster (name : String) (deleted : Option Timestamp) : Unstructured :=
    let object := Unstructured.new UnstructuredKind.managedCluster.api name none .null
    { object with metadata := { object.metadata with deletionTimestamp := deleted } }
  ((sampleHub.seed (hubStore .managedCluster) (cluster "west" none)).seed (hubStore .managedCluster)
    (cluster "north" (some default))).failNamespace "west"

theorem targetsIn_wideHub :
    globalSearch.targetsIn wideHub = [.managedCluster "east", .managedCluster "west"] := by
  let clusters : List Unstructured := (wideHub.store (hubStore .managedCluster)).objects.values
  have hnames : (clusters.filter fun c => c.metadata.deletionTimestamp.isNone).map (fun c => c.metadata.anyName) =
      ["east", "west"] := by decide +kernel
  show (clusterNames clusters).map _ = _
  rw [clusterNames, hnames, List.mergeSort_of_pairwise (by decide)]
  rfl

/-- Where every write into one managed cluster fails, that one is reported, and the other one holds all resources. -/
theorem enable_fans_out_wideHub : ∃ causes t,
    (⟨wideHub, []⟩ : Recorded).run (fun _ => none) (globalSearch.enable sampleOwner).run =
      (.error (.aggregate causes), t) ∧
    causes.map (·.1) = [["GlobalSearch", "west"]] ∧
    ∀ r ∈ globalSearch.resources (.managedCluster "east") sampleOwner, t.world.Holds r.wanted := by
  let s : Recorded := ⟨wideHub, []⟩
  have hbuilt : s.world.Built := .failNamespace _ (.seed _ _ (.seed _ _ built_sampleHub))
  obtain ⟨ts, hts⟩ := exists_ok_of_isOk (r := (s.run (fun _ => none) globalSearch.survey.run).1) (by decide +kernel)
  have hsurvey : s.run (fun _ => none) globalSearch.survey.run = (.ok ts, _) := Prod.ext hts rfl
  obtain ⟨htargets, -, -, turns, result, t, hrun, hitems, -, -, hholds, hresult, -, -⟩ :=
    (enable_fans_out globalSearch sampleOwner (fun _ => none) hbuilt).2.1 _ _ hsurvey
  obtain rfl : ts = [.managedCluster "east", .managedCluster "west"] := htargets.trans targetsIn_wideHub
  have hfailures : (((s.run (fun _ => none) globalSearch.survey.run).2.run (fun _ => none)
      (Work.attemptEach globalSearch.labels (globalSearch.applyTarget sampleOwner)
        [.managedCluster "east", .managedCluster "west"])).1.map (·.1)) = [["GlobalSearch", "west"]] := by
    decide +kernel
  have hall := hrun
  rw [run_enable_of_survey sampleOwner hsurvey, run_applyAll] at hall
  obtain ⟨hall, -⟩ := Prod.mk.inj hall
  revert hall hfailures
  cases ((s.run (fun _ => none) globalSearch.survey.run).2.run (fun _ => none)
    (Work.attemptEach globalSearch.labels (globalSearch.applyTarget sampleOwner)
      [.managedCluster "east", .managedCluster "west"])).1 with
  | nil => exact fun h => nomatch h
  | cons failure rest =>
    rintro hfailures rfl
    obtain ⟨-, hresult⟩ | ⟨causes, hresult, -, hcauses⟩ := hresult
    · cases hresult
    · cases hresult
      refine ⟨_, t, hrun, hfailures, ?_⟩
      -- the turn of the first managed cluster is not among those that failed
      obtain ⟨turn, hturn, heast⟩ := List.mem_map.1 (hitems ▸ List.mem_cons_self)
      have hnone : turn.failed = false := by
        by_contra hfailed
        have hmem := List.mem_map_of_mem (f := fun turn : Turn Target => [globalSearch.name, turn.item.name])
          (List.mem_filter.2 ⟨hturn, by simpa using hfailed⟩)
        rw [← hcauses, hfailures, heast] at hmem
        exact absurd hmem (by decide)
      rw [← heast]
      exact hholds turn hturn hnone
end HubSearch.Feature
