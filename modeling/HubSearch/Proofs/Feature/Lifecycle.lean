/-
What switching a feature on does to the stores. After a success every target holds all resources
(`run_enable_ok`). On the way nothing is disturbed that is no resource of the feature, and nothing is taken away. A
feature that is on already, with all its resources held, is looked at without a write (`run_enable_of_holds`).
-/
import HubSearch.Proofs.Condition
import HubSearch.Proofs.Feature.Resource

namespace HubSearch

theorem Failures.toResult_eq_ok {fs : Failures} : fs.toResult = .ok () ↔ fs = [] := by
  cases fs <;> simp [toResult]

namespace Feature

open World

variable {f : Feature} {owner : Owner} {w v : World}

/-! ## Targets and prerequisites -/

/-- The targets of the feature, as the managed clusters stand. -/
def targetsIn (f : Feature) (w : World) : List Target :=
  match f.scope with
  | .hub => [.hub]
  | .managedClusters =>
    (clusterNames (w.store (hubStore .managedCluster)).objects.values).map .managedCluster

theorem targetsIn_congr {w w' : World} (h : w'.store (hubStore .managedCluster) = w.store (hubStore .managedCluster)) :
    f.targetsIn w' = f.targetsIn w := by
  rw [targetsIn, targetsIn, h]

theorem mem_clusterNames {clusters : List Unstructured} {name : String} : name ∈ clusterNames clusters ↔
    ∃ c ∈ clusters, c.metadata.deletionTimestamp.isNone = true ∧ c.metadata.anyName = name := by
  simp only [clusterNames, List.mem_mergeSort, List.mem_map, List.mem_filter, and_assoc]

/-- Where all managed clusters stay as they are, no target gets lost. -/
theorem targetsIn_subset {w w' : World}
    (h : ∀ name c, w.object? (hubStore .managedCluster) name = some c →
      w'.object? (hubStore .managedCluster) name = some c) : f.targetsIn w ⊆ f.targetsIn w' := by
  unfold targetsIn
  cases f.scope with
  | hub => exact List.Subset.refl _
  | managedClusters =>
    refine List.map_subset _ fun name hname => ?_
    obtain ⟨c, hc, hlives⟩ := mem_clusterNames.1 hname
    obtain ⟨key, hkey⟩ := Dict.mem_values_iff.1 hc
    exact mem_clusterNames.2 ⟨c, Dict.mem_values_iff.2 ⟨key, h key c hkey⟩, hlives⟩

theorem run_targets (f : Feature) (w : World) : ∃ v, w.run f.targets.run = (.ok (f.targetsIn w), v) ∧ w.OnlyRead v := by
  cases f with
  | fineGrainedRbac => exact ⟨w, rfl, .refl w⟩
  | _ => exact ⟨_, rfl, .logged w rfl⟩

/-- Where the prerequisites of a feature are looked up. -/
def IsPrerequisiteStore (r : StoreRef) : Prop :=
  r = hubStore .clusterManagementAddOn ∨ r = hubStore .multiClusterEngine

theorem makes_validate (f : Feature) :
    f.validate.run.Makes fun c => c.isWrite = false ∧ IsPrerequisiteStore c.store := by
  have haddons : f.requireAddons.run.Makes fun c => c.isWrite = false ∧ IsPrerequisiteStore c.store :=
    Plan.makes_forM fun addon _ => by
      refine Plan.Makes.work_bind (Plan.makes_ask ⟨rfl, .inl rfl⟩) fun o => ?_
      split <;> exact Plan.makes_pure _
  refine haddons.work_bind fun _ => Plan.Makes.work_bind (Plan.makes_ask ⟨rfl, .inr rfl⟩) fun engines => ?_
  cases engines with
  | nil => exact Plan.makes_pure _
  | cons engine _ => exact Plan.makes_pure _

theorem onlyRead_validate (f : Feature) (w : World) : w.OnlyRead (w.run f.validate.run).2 := by
  have hreads : f.validate.run.Makes fun c => c.isWrite = false := f.makes_validate.mono fun _ h => h.1
  exact hreads.onlyRead w

/-- Whether the prerequisites of a feature are there. -/
def Validates (f : Feature) (w : World) : Prop := (w.run f.validate.run).1 = .ok ()

theorem validates_congr {w w' : World} (h : ∀ r, IsPrerequisiteStore r → w'.store r = w.store r) :
    f.Validates w' ↔ f.Validates w := by
  rw [Validates, Validates, f.makes_validate.run_fst_eq h]

/-- A hub with a managed cluster and everything that global search depends on. -/
def sampleHub : World :=
  let component (name : String) : Json := .object [("enabled", .bool true), ("name", .string name)]
  let components : Json := .array (globalSearch.requiredComponents.map component)
  let engine : Json := .object [("spec", .object [("overrides", .object [("components", components)])])]
  let hub (k : UnstructuredKind) (name : String) (data : Json) (w : World) : World :=
    w.seed (hubStore k) (.new k.api name none data)
  hub .clusterManagementAddOn "managed-serviceaccount" .null <|
    hub .multiClusterEngine "multiclusterengine" engine <| hub .managedCluster "east" .null {}

theorem built_sampleHub : sampleHub.Built := .seed _ _ (.seed _ _ (.seed _ _ .start))

/-- The owner of what is made there. -/
def sampleOwner : Owner := ⟨"search", "acm", "1"⟩

/-! ## Calls -/

/-- The calls of the work on features: reads in the whole cluster, and calls on resources, of which no status is
written. -/
def IsFeatureCall (c : StoreCall) : Prop :=
  (c.isWrite = false ∧ (∃ k, c.store = hubStore k) ∨ ∃ k ∈ resourceKinds, c.store.kind = .unstructured k) ∧
    c.isStatusWrite = false

theorem IsFeatureCall.store_ne_search {c : StoreCall} (h : IsFeatureCall c) (ns : Option String) :
    c.store ≠ ⟨.search, ns⟩ := by
  intro heq
  rcases h.1 with ⟨-, k, hk⟩ | ⟨k, -, hk⟩
  · cases hk.symm.trans heq
  · rw [heq] at hk
    cases hk

theorem makes_targets (f : Feature) : f.targets.run.Makes IsFeatureCall := by
  cases f with
  | fineGrainedRbac => exact Plan.makes_pure _
  | _ => exact Plan.Makes.work_bind (Plan.makes_ask ⟨.inl ⟨rfl, _, rfl⟩, rfl⟩) fun _ => Plan.makes_pure _

theorem isFeatureCall_of_store {t : Target} {r : FeatureResource} (hr : r ∈ f.resources t owner) (c : StoreCall)
    (h : c.store = r.store ∧ c.isStatusWrite = false) : IsFeatureCall c :=
  ⟨.inr ⟨r.kind, kind_of_mem_resources hr, by rw [h.1]; rfl⟩, h.2⟩

theorem makes_enable (f : Feature) (owner : Owner) : (f.enable owner).run.Makes IsFeatureCall := by
  have hvalidate : f.validate.run.Makes IsFeatureCall :=
    f.makes_validate.mono fun c h =>
      ⟨.inl ⟨h.1, h.2.elim (fun h => ⟨_, h⟩) fun h => ⟨_, h⟩⟩, StoreCall.isStatusWrite_of_isWrite h.1⟩
  have happly : ∀ ts, (Work.attemptEach f.labels (f.applyTarget owner) ts).Makes IsFeatureCall := fun ts =>
    Plan.makes_attemptEach fun t _ => Plan.makes_forM fun r hr =>
      ((makes_sync r.store r.object).mono (isFeatureCall_of_store hr)).work_bind fun _ => Plan.makes_pure _
  exact hvalidate.work_bind fun _ => f.makes_targets.work_bind fun ts => (happly ts).lift.work_bind fun _ =>
    Plan.Makes.work_bind (Plan.makes_pure _) fun _ => Plan.makes_pure _

theorem makes_deleteTarget (f : Feature) (owner : Owner) (t : Target) :
    (f.deleteTarget owner t).run.Makes IsFeatureCall := by
  refine Plan.makes_forM fun r hr => ?_
  have hcall : IsFeatureCall (.remove r.store r.name) := isFeatureCall_of_store hr _ ⟨rfl, rfl⟩
  refine Plan.Makes.work_bind ((makes_ensureDeleted r.store r.kind.api.kind r.name).mono ?_) fun _ => Plan.makes_pure _
  rintro _ rfl
  exact hcall

theorem makes_disable (f : Feature) (owner : Owner) : (f.disable owner).run.Makes IsFeatureCall := by
  have hdelete : ∀ ts, (Work.attemptEach f.labels (f.deleteTarget owner) ts).Makes IsFeatureCall := fun ts =>
    Plan.makes_attemptEach fun t _ => f.makes_deleteTarget owner t
  exact f.makes_targets.work_bind fun ts => (hdelete ts).lift.work_bind fun _ => Plan.makes_pure _

/-! ## What switching on keeps -/

section

variable {P : World → Prop} (hread : ∀ v v', World.OnlyRead v v' → P v → P v')

theorem keeps_applyTarget {t : Target} (h : ∀ r ∈ f.resources t owner, (sync r.store r.object).run.Keeps P) :
    (f.applyTarget owner t).run.Keeps P :=
  Plan.keeps_forM fun r hr => (h r hr).work_bind fun _ => Plan.keeps_pure _

include hread

theorem keeps_targets : f.targets.run.Keeps P := by
  intro w hw
  obtain ⟨v, hv, hr⟩ := f.run_targets w
  rw [hv]
  exact hread w v hr hw

/-- Switching on keeps what reading and bringing each resource into its state keep. -/
theorem keeps_enable (h : ∀ t, ∀ r ∈ f.resources t owner, (sync r.store r.object).run.Keeps P) :
    (f.enable owner).run.Keeps P := by
  have hvalidate : f.validate.run.Keeps P := fun w hw => hread _ _ (f.onlyRead_validate w) hw
  have happly : ∀ ts, (Work.attemptEach f.labels (f.applyTarget owner) ts).Keeps P := fun ts =>
    Plan.keeps_attemptEach fun t _ => keeps_applyTarget (h t)
  exact hvalidate.work_bind fun _ => (keeps_targets hread).work_bind fun ts => (happly ts).lift.work_bind fun _ =>
    Plan.Keeps.work_bind (Plan.keeps_pure _) fun _ => Plan.keeps_pure _

end

/-- Switching on keeps the objects that are none of the resources. -/
theorem keeps_enable_of_apart {r : StoreRef} {name : String} {o : Option r.kind.Object}
    (h : ∀ t, ∀ s ∈ f.resources t owner, r ≠ s.store ∨ name ≠ s.name) :
    (f.enable owner).run.Keeps fun w => w.Versioned ∧ w.object? r name = o := by
  refine keeps_enable (fun v v' hr hv => ⟨hv.1.congr hr.store, (object?_congr hr.store r name).trans hv.2⟩)
    fun t s hs w hw => ⟨Plan.keeps_versioned _ w hw.1, ?_⟩
  have hne := h t s hs
  rw [← name_wanted_of_mem_resources hs] at hne
  exact (object?_run_sync_of_ne hw.1 s.wanted hne).trans hw.2

/-- Switching on takes nothing away. -/
theorem keeps_enable_ne_none (r : StoreRef) (name : String) :
    (f.enable owner).run.Keeps fun w => w.Versioned ∧ w.object? r name ≠ none :=
  keeps_enable (fun _ _ hr hv => ⟨hv.1.congr hr.store, (object?_congr hr.store r name).symm ▸ hv.2⟩)
    fun _ s _ w hw => ⟨Plan.keeps_versioned _ w hw.1, object?_run_sync_ne_none hw.1 s.wanted hw.2⟩

/-! ## Switching on -/

theorem keeps_sync_holds {x y : Wanted} (h : x.Compatible y) :
    (sync x.store x.object).run.Keeps fun w => w.Versioned ∧ w.Holds y := fun w hw =>
  ⟨Plan.keeps_versioned _ w hw.1, holds_run_sync hw.1 h hw.2⟩

theorem holds_of_run_applyTarget_ok {t : Target} (hw : w.Versioned)
    (h : w.run (f.applyTarget owner t).run = (.ok (), v)) : ∀ r ∈ f.resources t owner, v.Holds r.wanted := by
  refine @Plan.post_forM _ World.Versioned (fun r v => v.Holds r.wanted) _ _ (fun _ _ => Plan.keeps_versioned _)
    (fun r hr w v hw h => ?_) (fun r hr s hs => ?_) _ _ hw h
  · rcases run_work_bind_cases w (sync r.store r.object) fun _ => pure () with ⟨o, u, hu, hr'⟩ | ⟨e, u, -, hr'⟩
    · obtain rfl : u = v := congrArg (·.2) (hr'.symm.trans h)
      exact holds_of_run_sync_ok (x := r.wanted) hw (hasDistinctKeys_of_mem_resources hr) hu
    · cases (Prod.mk.inj (hr'.symm.trans h)).1
  · exact (keeps_sync_holds (compatible_of_mem_resources hr hs)).work_bind fun _ => Plan.keeps_pure _

theorem holds_of_run_attemptEach_applyTarget {ts : List Target} (hw : w.Versioned)
    (h : w.run (Work.attemptEach f.labels (f.applyTarget owner) ts) = ([], v)) :
    ∀ t ∈ ts, ∀ r ∈ f.resources t owner, v.Holds r.wanted := by
  refine @Plan.post_attemptEach _ World.Versioned (fun t v => ∀ r ∈ f.resources t owner, v.Holds r.wanted) _ _ _
    (fun _ _ => Plan.keeps_versioned _) (fun t _ w v hw h => holds_of_run_applyTarget_ok hw h)
    (fun t _ u _ w hw => ⟨Plan.keeps_versioned _ w hw.1, fun s hs => ?_⟩) _ _ hw h
  exact (keeps_applyTarget (fun r hr => keeps_sync_holds (compatible_of_mem_resources hr hs)) w ⟨hw.1, hw.2 s hs⟩).2

/-- Switching on checks the prerequisites, and then brings the resources of all targets into their state. -/
theorem run_enable_cases (f : Feature) (owner : Owner) (w : World) :
    (∃ e v, ¬f.Validates w ∧ w.run (f.enable owner).run = (.error e, v) ∧ w.OnlyRead v) ∨
      ∃ u failures v, f.Validates w ∧ w.OnlyRead u ∧
        u.run (Work.attemptEach f.labels (f.applyTarget owner) (f.targetsIn w)) = (failures, v) ∧
        w.run (f.enable owner).run = (failures.toResult.map fun _ => (f.targetsIn w).length, v) := by
  have hread := f.onlyRead_validate w
  rcases run_work_bind_cases w f.validate fun _ => do
      let targets ← f.targets
      let failures ← Work.attemptEach f.labels (f.applyTarget owner) targets
      Work.ofExcept failures.toResult
      pure targets.length with ⟨⟨⟩, u, hu, hr⟩ | ⟨e, u, hu, hr⟩
  · rw [hu] at hread
    obtain ⟨u', hu', hread'⟩ := f.run_targets u
    rw [targetsIn_congr (congrFun hread.store _)] at hu'
    have hval : f.Validates w := by rw [Validates, hu]
    cases ha : u'.run (Work.attemptEach f.labels (f.applyTarget owner) (f.targetsIn w)) with
    | mk failures v =>
      refine .inr ⟨u', failures, v, hval, hread.trans hread', ha, ?_⟩
      refine hr.trans ((run_work_bind_ok hu' _).trans ((run_work_bind_ok (run_lift u' _) _).trans ?_))
      rw [ha]
      cases failures <;> rfl
  · rw [hu] at hread
    refine .inl ⟨e, u, fun hv => ?_, hr, hread⟩
    rw [Validates, hu] at hv
    cases hv

/-- After switching on every target holds all resources, and their number is given. -/
theorem run_enable_ok (hw : w.Versioned) {n : Nat} (h : w.run (f.enable owner).run = (.ok n, v)) :
    f.Validates w ∧ n = (f.targetsIn w).length ∧
      ∀ t ∈ f.targetsIn w, ∀ r ∈ f.resources t owner, v.Holds r.wanted := by
  rcases run_enable_cases f owner w with ⟨e, u, -, hr, -⟩ | ⟨u, failures, v', hval, hread, ha, hr⟩
  · cases (Prod.mk.inj (h.symm.trans hr)).1
  · obtain ⟨hn, rfl⟩ := Prod.mk.inj (h.symm.trans hr)
    cases failures with
    | nil =>
      exact ⟨hval, Except.ok.inj hn, holds_of_run_attemptEach_applyTarget (hw.congr hread.store) ha⟩
    | cons failure rest => cases hn

/-! ### A feature that is on already -/

theorem run_attemptEach_applyTarget_of_holds {ts : List Target}
    (h : ∀ t ∈ ts, ∀ r ∈ f.resources t owner, w.Holds r.wanted) :
    ∃ v, w.run (Work.attemptEach f.labels (f.applyTarget owner) ts) = ([], v) ∧ w.OnlyRead v := by
  refine Plan.succeeds_attemptEach f.labels (fun t ht u hu => ?_) (.refl w)
  refine Plan.succeeds_forM (fun r hr u hu => ?_) hu
  have hsync := run_sync_of_holds ((h t ht r hr).congr (object?_congr hu.store _ _))
  exact ⟨_, run_work_bind_ok hsync _, hu.trans (.logged u rfl)⟩

/-- A feature whose prerequisites are there and whose resources are held is switched on without a write. -/
theorem run_enable_of_holds (hval : f.Validates w)
    (h : ∀ t ∈ f.targetsIn w, ∀ r ∈ f.resources t owner, w.Holds r.wanted) :
    ∃ v, w.run (f.enable owner).run = (.ok (f.targetsIn w).length, v) ∧ w.OnlyRead v := by
  rcases run_enable_cases f owner w with ⟨e, u, hne, -, -⟩ | ⟨u, failures, v, -, hread, ha, hr⟩
  · exact absurd hval hne
  · obtain ⟨v', hv', hread'⟩ := run_attemptEach_applyTarget_of_holds fun t ht r hr =>
      (h t ht r hr).congr (object?_congr hread.store _ _)
    obtain ⟨rfl, rfl⟩ := Prod.mk.inj (ha.symm.trans hv')
    exact ⟨v, hr, hread.trans hread'⟩

/-! ### A feature without obstacles -/

/-- Every resource in some targets is as it is wanted, or not there at all. -/
def Tidy (f : Feature) (owner : Owner) (ts : List Target) (w : World) : Prop :=
  ∀ t ∈ ts, ∀ r ∈ f.resources t owner, w.object? r.store r.name = none ∨ w.Holds r.wanted

theorem run_sync_of_tidy {ts : List Target} {t : Target} {r : FeatureResource} (ht : t ∈ ts)
    (hr : r ∈ f.resources t owner) (h : w.Versioned ∧ w.Unblocked ∧ f.Tidy owner ts w) :
    ∃ o v, w.run (sync r.store r.object).run = (.ok o, v) ∧ v.Versioned ∧ v.Unblocked ∧ f.Tidy owner ts v := by
  obtain ⟨hw, hblocks, htidy⟩ := h
  have hok : ∃ o v, w.run (sync r.store r.object).run = (.ok o, v) := by
    rcases htidy t ht r hr with hfree | hheld
    · rw [← name_wanted_of_mem_resources hr] at hfree
      exact run_sync_ok (x := r.wanted) hblocks (metadata_name_of_mem_resources hr) fun _ hlive =>
        nomatch hfree.symm.trans hlive
    · exact ⟨_, _, run_sync_of_holds hheld⟩
  obtain ⟨o, v, hv⟩ := hok
  refine ⟨o, v, hv, hw.of_run hv, ?_, fun t' ht' s hs => ?_⟩
  · have hv' := (sync r.store r.object).run.keeps_unblocked w hblocks
    rwa [hv] at hv'
  -- the resource in the place that was written is the one that is wanted there, and the others were not touched
  by_cases hplace : s.store = r.store ∧ s.name = r.name
  · rw [(eq_of_same_place hr hs hplace.1 hplace.2).2]
    exact .inr (holds_of_run_sync_ok (x := r.wanted) hw (hasDistinctKeys_of_mem_resources hr) hv)
  · rcases htidy t' ht' s hs with hfree | hheld
    · have hne : s.store ≠ r.wanted.store ∨ s.name ≠ r.wanted.name := by
        rw [name_wanted_of_mem_resources hr]
        exact Decidable.not_and_iff_or_not.1 hplace
      have hsame := object?_run_sync_of_ne hw r.wanted hne
      rw [show w.run (sync r.wanted.store r.wanted.object).run = _ from hv] at hsame
      exact .inl (hsame.trans hfree)
    · have hheld' := holds_run_sync hw (compatible_of_mem_resources hr hs) hheld
      rw [show w.run (sync r.wanted.store r.wanted.object).run = _ from hv] at hheld'
      exact .inr hheld'

theorem run_attemptEach_applyTarget_of_tidy {ts : List Target} (h : w.Versioned ∧ w.Unblocked ∧ f.Tidy owner ts w) :
    ∃ v, w.run (Work.attemptEach f.labels (f.applyTarget owner) ts) = ([], v) ∧
      v.Versioned ∧ v.Unblocked ∧ f.Tidy owner ts v := by
  refine Plan.succeeds_attemptEach f.labels (fun t ht u hu => ?_) h
  refine Plan.succeeds_forM (fun r hr u hu => ?_) hu
  obtain ⟨o, v, hv, hinv⟩ := run_sync_of_tidy ht hr hu
  exact ⟨v, run_work_bind_ok hv _, hinv⟩

/-- A feature whose prerequisites are there is switched on, unless writes are made to fail or other objects are
in its way. -/
theorem run_enable_of_tidy (hw : w.Versioned) (hblocks : w.Unblocked) (hval : f.Validates w)
    (htidy : f.Tidy owner (f.targetsIn w) w) :
    ∃ v, w.run (f.enable owner).run = (.ok (f.targetsIn w).length, v) := by
  rcases run_enable_cases f owner w with ⟨e, u, hne, -, -⟩ | ⟨u, failures, v, -, hread, ha, hr⟩
  · exact absurd hval hne
  · have hobject := fun r name => object?_congr hread.store r name
    have htidy' : f.Tidy owner (f.targetsIn w) u := fun t ht r hr =>
      (htidy t ht r hr).imp (hobject _ _).trans fun h => h.congr (hobject _ _)
    obtain ⟨v', hv', -⟩ :=
      run_attemptEach_applyTarget_of_tidy ⟨hw.congr hread.store, hread.unblocked hblocks, htidy'⟩
    obtain ⟨rfl, rfl⟩ := Prod.mk.inj (ha.symm.trans hv')
    exact ⟨_, hr⟩

/-! ## Switching off -/

theorem run_attemptEach_deleteTarget_of_unblocked {ts : List Target} (h : w.Unblocked) :
    ∃ v, w.run (Work.attemptEach f.labels (f.deleteTarget owner) ts) = ([], v) ∧ v.Unblocked := by
  refine Plan.succeeds_attemptEach f.labels (fun t _ u hu => ?_) h
  refine Plan.succeeds_forM (fun r _ u hu => ?_) hu
  obtain ⟨b, v, hv⟩ := run_ensureDeleted_of_unblocked hu r.store r.kind.api.kind r.name
  have hv' := (ensureDeleted r.store r.kind.api.kind r.name).run.keeps_unblocked u hu
  rw [hv] at hv'
  exact ⟨v, run_work_bind_ok hv _, hv'⟩

/-- A feature is switched off, unless writes are made to fail. -/
theorem run_disable_of_unblocked (hblocks : w.Unblocked) : ∃ v, w.run (f.disable owner).run = (.ok (), v) := by
  obtain ⟨u, hu, hread⟩ := f.run_targets w
  obtain ⟨v, hv, -⟩ := run_attemptEach_deleteTarget_of_unblocked (hread.unblocked hblocks)
  refine ⟨v, (run_work_bind_ok hu _).trans ((run_work_bind_ok (run_lift u _) _).trans ?_)⟩
  rw [hv]
  rfl

end Feature

end HubSearch
