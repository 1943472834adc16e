/-
A pass converges: after one that succeeded on the live Search everything that the Search asks for is held, and
the next pass over what is live then finds nothing to do. Every part of a pass is a fixpoint of its own (the
objects, the merged database configuration, the features, the status that was written and read back), and none
undoes another one. Main statement: `apply_converges`.
-/
import HubSearch.Proofs.Pass.Apply

namespace HubSearch

open World

/-! ## The status as it was read back -/

theorem Feature.Settled.of_alike {f : Feature} {owner : Owner} {generation : Int64} {isOn : Bool}
    {status status' : SearchStatus} {w : World} (h : f.Settled owner generation isOn status w)
    (ha : List.Forall₂ Condition.Alike status'.conditionList status.conditionList) :
    f.Settled owner generation isOn status' w := by
  cases isOn with
  | true =>
    obtain ⟨hval, hholds, d, hd, hagrees⟩ := h
    rcases Condition.find?_of_alike f.conditionType ha with ⟨-, hn⟩ | ⟨c', c, hc', hc, hcc⟩
    · cases hn.symm.trans hd
    · cases hc.symm.trans hd
      exact ⟨hval, hholds, c', hc', fun now => Condition.agrees_trans hcc.agrees (hagrees now)⟩
  | false =>
    rw [Settled, state_of_alike ha]
    exact h

namespace Pass

variable {p : Pass} {w v : World}

/-! ## The same Search with its status -/

/-- A Search that was stored with a status makes the same pass but for the version and the clock. -/
theorem new?_of_hasStatus {search after : Search} {config : OperatorConfig} {now : Feature → Timestamp}
    {status : SearchStatus} (hp : Pass.new? search config now = .ok p) (h : search.HasStatus status after)
    (now' : Feature → Timestamp) :
    Pass.new? after config now' = .ok { p with search := after, now := now' } := by
  obtain ⟨owner, ho, rfl⟩ := new?_eq_ok.1 hp
  refine new?_eq_ok.2 ⟨owner, ?_, rfl⟩
  rw [← ho, Owner.of?, Owner.of?, h.metadata.inNamespace, h.metadata.name, h.metadata.uid]

theorem toggles_of_hasStatus {before after : Search} {status : SearchStatus} (h : before.HasStatus status after) :
    FeatureToggles.ofSearch after = FeatureToggles.ofSearch before := by
  simp only [FeatureToggles.ofSearch, Search.annotationEnabled, Search.annotated?, h.metadata.annotations]

/-- The objects that a Search asks for do not depend on its version and its status. -/
theorem desired_of_hasStatus {after : Search} {status : SearchStatus} (h : p.search.HasStatus status after)
    (now : Feature → Timestamp) (live : Option ConfigMap) :
    ({ p with search := after, now := now } : Pass).desired live = p.desired live := by
  have hbuild : DesiredState.build after p.owner p.config (.ofSearch after) =
      DesiredState.build p.search p.owner p.config (.ofSearch p.search) := by
    show DesiredState.build { spec := after.spec } _ _ _ = DesiredState.build { spec := p.search.spec } _ _ _
    rw [h.spec, toggles_of_hasStatus h]
  cases live with
  | none => exact hbuild
  | some c =>
    exact congrArg (fun d : DesiredState =>
      { d with databaseConfig := DatabaseConfig.merge c d.databaseConfig DatabaseConfig.priorTemplates }) hbuild

/-! ## The database configuration -/

/-- The data of the live database configuration. -/
def configData (p : Pass) (w : World) : Option (Dict String) := (p.liveConfig w).bind (·.data)

theorem liveConfig_congr (h : v.store (p.besideSearch .configMap) = w.store (p.besideSearch .configMap)) :
    p.liveConfig v = p.liveConfig w := by
  rw [liveConfig, liveConfig, object?, object?, h]

/-- Keys of the database configuration that are not desired stay as they are. -/
theorem configData_run_sync {live : Option ConfigMap} {x : Wanted} (hx : x ∈ p.wanted (p.desired live))
    (hw : w.Versioned) {key : String} (hk : (p.desired live).databaseConfig.data.bind (·.get? key) = none) :
    (p.configData (w.run (sync x.store x.object).run).2).bind (·.get? key) = (p.configData w).bind (·.get? key) := by
  have hobject : ∀ u : World, p.liveConfig u = u.object? (p.besideSearch .configMap) (p.wantedConfig live).name :=
    fun u => by rw [name_wantedConfig, liveConfig]
  -- either the configuration itself is brought into its state, or it is not touched
  rcases compatible_of_mem_wanted hx wantedConfig_mem_wanted with rfl | hne
  · rcases run_sync_cases hw (p.wantedConfig live) with ⟨c, -, -, hr⟩ | ⟨_, after, u, hr, hs, hafter⟩ | ⟨e, u, hr, hs⟩
    · rw [hr]
      rfl
    · have hput : p.liveConfig u =
          some (Store.stamped ((w.store (p.besideSearch .configMap)).version + 1) after) := by
        rw [hobject, object?_congr hs]
        exact object?_put_self w (p.besideSearch .configMap) _ after
      have hdata : p.configData u = ConfigMap.data after := by
        rw [configData, hput]
        rfl
      rw [hr]
      show (p.configData u).bind _ = _
      rw [hdata, configData, hobject]
      rcases hafter with ⟨hnone, rfl⟩ | ⟨c, hc, ha⟩
      · rw [show w.object? (p.besideSearch .configMap) _ = none from hnone]
        exact hk
      · rw [show w.object? (p.besideSearch .configMap) _ = some c from hc]
        exact ConfigMap.get?_amend_of_none ha hk
    · rw [hr]
      show (p.configData u).bind _ = _
      rw [configData, configData, liveConfig_congr (congrFun hs _)]
  · have hconfig : p.liveConfig (w.run (sync x.store x.object).run).2 = p.liveConfig w := by
      rw [hobject, hobject]
      exact object?_run_sync_of_ne hw x hne
    rw [configData, configData, hconfig]

/-- Merging with what a pass has made of the database configuration gives the same merge again. -/
theorem desired_of_holds {live : Option ConfigMap} (hholds : v.Holds (p.wantedConfig live))
    (hrest : ∀ key, (p.desired live).databaseConfig.data.bind (·.get? key) = none →
      (p.configData v).bind (·.get? key) = (live.bind (·.data)).bind (·.get? key)) :
    p.desired (p.liveConfig v) = p.desired live := by
  have hdata : ∀ key, (p.configData v).bind (·.get? key) =
      ((p.desired live).databaseConfig.data.bind (·.get? key)).or ((live.bind (·.data)).bind (·.get? key)) := by
    intro key
    cases hk : (p.desired live).databaseConfig.data.bind (·.get? key) with
    | none => rw [hrest key hk, Option.none_or]
    | some value =>
      obtain ⟨c, hc, hm⟩ := hholds
      rw [name_wantedConfig] at hc
      rw [configData, show p.liveConfig v = some c from hc, Option.some_or]
      exact hm key value hk
  rw [databaseConfig_desired] at hdata
  have hagain := DatabaseConfig.mergeData_written hdata
  have hconfig : (p.desired (p.liveConfig v)).databaseConfig = (p.desired live).databaseConfig := by
    rw [databaseConfig_desired, databaseConfig_desired, ← hagain]
    rfl
  rw [desired_eq, hconfig, ← desired_eq]

/-- Applying the objects leaves the other keys of the database configuration, and the Search, as they are. -/
theorem keeps_forEach_syncOne (p : Pass) (live : Option ConfigMap) (search : Option Search) (name : String) :
    (Plan.forEach syncOne (p.wanted (p.desired live))).Keeps fun v =>
      v.Versioned ∧ v.object? (p.besideSearch .search) name = search ∧
        ∀ key, (p.desired live).databaseConfig.data.bind (·.get? key) = none →
          (p.configData v).bind (·.get? key) = (live.bind (·.data)).bind (·.get? key) := by
  refine Plan.keeps_forEach fun x hx => keeps_syncOne fun w hw => ?_
  obtain ⟨hv, hsearch, hkeys⟩ := hw
  refine ⟨Plan.keeps_versioned _ w hv, ?_, fun key hk => (configData_run_sync hx hv hk).trans (hkeys key hk)⟩
  refine (object?_run_sync_of_ne hv x (.inl fun h => ?_)).trans hsearch
  exact (kind_of_mem_wanted hx).1 (congrArg StoreRef.kind h).symm

/-! ## Passes with nothing in their way -/

/-- A pass over the live Search succeeds when no write is made to fail, what is in the places of the objects carries
their names, the features are settled and the Search can be read with its status. -/
theorem run_apply_of_settled (hw : w.Versioned) (hblocks : w.Unblocked)
    (hplaces : ∀ x ∈ p.wanted (p.desired (p.liveConfig w)), w.NamedAt x.store x.name)
    (hfeatures : ∀ f ∈ Feature.all, f.Settled p.owner p.generation (p.toggles.isEnabled f) (p.search.status.getD {}) w)
    (hlive : w.object? (p.besideSearch .search) p.search.metadata.anyName = some p.search) {merged : Search}
    (hmerged : Store.withStatus? (k := .search) p.search
      (statusJson (finalStatus (p.desired (p.liveConfig w)) (p.search.status.getD {}))) = .ok merged) :
    ∃ notices v, w.run p.apply = ((notices, .ok ()), v) := by
  have hread : (w.logged p.configCall).Versioned := hw.congr rfl
  cases hobjects : (w.logged p.configCall).run (Plan.forEach syncOne (p.wanted (p.desired (p.liveConfig w)))) with
  | mk reports v₁ =>
    -- the objects, which leave the features and the Search as they were
    have hreports := failures_run_forEach_syncOne (fun _ => metadata_name_of_mem_wanted) hread
      (hblocks : (w.logged p.configCall).Unblocked) hplaces hobjects
    have hblocks₁ := (Plan.forEach syncOne (p.wanted (p.desired (p.liveConfig w)))).keeps_unblocked
      (w.logged p.configCall) hblocks
    have hkeeps₁ := p.keeps_forEach_syncOne (p.liveConfig w) _ _ (w.logged p.configCall)
      ⟨hread, hlive, fun _ _ => rfl⟩
    have hunstructured₁ : ∀ k ns, v₁.store ⟨.unstructured k, ns⟩ = w.store ⟨.unstructured k, ns⟩ := fun k ns => by
      have hcalls := (p.makes_objects (p.liveConfig w)).mono fun c hc (_ : c.isWrite = true) => (hc.2.1 k ns).symm
      have hs := hcalls.keeps_store (w.logged p.configCall) rfl
      rwa [hobjects] at hs
    rw [hobjects] at hblocks₁ hkeeps₁
    obtain ⟨v₂, hfeatures₂, hread₂⟩ := run_reconcileFeatures_of_settled (p := p) (w := v₁) fun f hf =>
      (hfeatures f hf).congr hunstructured₁
    have hlive₂ : v₂.object? (p.besideSearch .search) p.search.metadata.anyName = some p.search := by
      rw [object?_congr hread₂.store]
      exact hkeeps₁.2.1
    have hwritten := run_persist_of_unblocked (hread₂.unblocked hblocks₁) hlive₂ hmerged
    have happly := run_apply hobjects hfeatures₂ (Prod.ext hwritten rfl)
    refine ⟨_, _, happly.trans (Prod.ext (Prod.ext rfl ?_) rfl)⟩
    rw [Failures.toResult_eq_ok, Report.failures_append, Report.failures_append,
      Report.failures_concat_eq_nil.2 hreports]
    rfl

/-! ## Passes that find nothing to do -/

/-- Nothing is left to do for a pass: what it asks for is held, its features are settled and its status says so. -/
structure AtRest (p : Pass) (w : World) : Prop where
  objects : ∀ x ∈ p.wanted (p.desired (p.liveConfig w)), w.Holds x
  features : ∀ f ∈ Feature.all, f.Settled p.owner p.generation (p.toggles.isEnabled f) (p.search.status.getD {}) w
  status : p.search.status = some (finalStatus (p.desired (p.liveConfig w)) (p.search.status.getD {}))

theorem run_apply_of_atRest (h : p.AtRest w) : ∃ v, w.run p.apply = (([], .ok ()), v) ∧ w.OnlyRead v := by
  obtain ⟨v₁, hobjects, hread₁⟩ := run_forEach_syncOne_of_holds (w := w.logged p.configCall) h.objects
  obtain ⟨v₂, hfeatures, hread₂⟩ := run_reconcileFeatures_of_settled (p := p) (w := v₁) fun f hf =>
    (h.features f hf).congr fun _ _ => congrFun hread₁.store _
  refine ⟨v₂, ?_, (World.OnlyRead.logged w rfl).trans (hread₁.trans hread₂)⟩
  rw [run_apply hobjects hfeatures (run_persist_unchanged h.status v₂), Report.concat_map_empty]
  rfl

/-- What a pass has reached: everything that it asks for is held, and would be asked for again; the features are
settled, and the live Search has a status that says so. -/
structure Reached (p : Pass) (live : Option ConfigMap) (status : SearchStatus) (after : Search) (w : World) : Prop where
  objects : ∀ x ∈ p.wanted (p.desired live), w.Holds x
  desired : p.desired (p.liveConfig w) = p.desired live
  features : ∀ f ∈ Feature.all, f.Settled p.owner p.generation (p.toggles.isEnabled f) status w
  search : w.object? (p.besideSearch .search) p.search.metadata.anyName = some after
  status : p.search.HasStatus (finalStatus (p.desired live) status) after

/-- What a pass has come to before it writes the status: everything that it asks for is held, the features are settled,
and the Search and the other keys of the database configuration are as they were. -/
structure Applied (p : Pass) (w : World) (status : SearchStatus) (u : World) : Prop where
  objects : ∀ x ∈ p.wanted (p.desired (p.liveConfig w)), u.Holds x
  features : ∀ f ∈ Feature.all, f.Settled p.owner p.generation (p.toggles.isEnabled f) status u
  search : u.object? (p.besideSearch .search) p.search.metadata.anyName =
    w.object? (p.besideSearch .search) p.search.metadata.anyName
  config : ∀ key, (p.desired (p.liveConfig w)).databaseConfig.data.bind (·.get? key) = none →
    (p.configData u).bind (·.get? key) = (p.configData w).bind (·.get? key)

theorem applied_of_run_apply_ok (hw : w.Versioned) {notices : List Notice}
    (h : w.run p.apply = ((notices, .ok ()), v)) : ∃ status u, p.Applied w status u ∧
      u.run (p.persist (finalStatus (p.desired (p.liveConfig w)) status)) = (.ok (), v) := by
  obtain ⟨reports, v₁, status, features, u, hobjects, hreports, hfeatures, hnofailure, hpersist⟩ := run_apply_ok h
  -- the objects
  have hread : (w.logged p.configCall).Versioned := hw.congr rfl
  have hholds₁ : ∀ x ∈ p.wanted (p.desired (p.liveConfig w)), v₁.Holds x :=
    holds_of_run_forEach_syncOne (fun _ => hasDistinctNames_of_mem_wanted)
      (fun _ hx _ hy => compatible_of_mem_wanted hx hy) hread hobjects hreports
  have hkeeps₁ := p.keeps_forEach_syncOne (p.liveConfig w) _ p.search.metadata.anyName (w.logged p.configCall)
    ⟨hread, rfl, fun _ _ => rfl⟩
  rw [hobjects] at hkeeps₁
  obtain ⟨-, hsearch₁, hkeys₁⟩ := hkeeps₁
  -- the features leave the objects and the Search alone
  have hstore : ∀ r : StoreRef, (∀ k ∈ Feature.resourceKinds, r.kind ≠ .unstructured k) → u.store r = v₁.store r := by
    intro r hr
    have hs := p.store_run_reconcileFeatures (p.search.status.getD {}) Feature.all v₁ hr
    rwa [hfeatures] at hs
  have hobject : ∀ (r : StoreRef) (name : String), (∀ k ∈ Feature.resourceKinds, r.kind ≠ .unstructured k) →
      u.object? r name = v₁.object? r name := fun r name hr => by rw [object?, object?, hstore r hr]
  refine ⟨status, u, ⟨fun x hx => ?_, ?_, ?_, fun key hk => ?_⟩, hpersist⟩
  · refine (hholds₁ x hx).congr (hobject _ _ fun k _ => ?_)
    exact (kind_of_mem_wanted hx).2 k (by cases k <;> decide)
  · exact settled_of_run_reconcileFeatures_ok (by decide) (hread.of_run hobjects) hfeatures hnofailure
  · exact (hobject _ _ (by rintro _ _ ⟨⟩)).trans hsearch₁
  · rw [configData, show p.liveConfig u = p.liveConfig v₁ from hobject _ _ (by rintro _ _ ⟨⟩)]
    exact hkeys₁ key hk

/-- The status is written to the Search alone. -/
theorem store_of_run_persist {status : SearchStatus} {written : Except OperatorError Unit} {u : World}
    (h : u.run (p.persist status) = (written, v)) {r : StoreRef} (hr : r.kind ≠ .search) : v.store r = u.store r := by
  have hs := p.store_run_persist_of_ne status u fun h : r = p.besideSearch .search => hr (congrArg StoreRef.kind h)
  rwa [h] at hs

theorem Applied.after_persist {status written : SearchStatus} {result : Except OperatorError Unit} {u : World}
    (happlied : p.Applied w status u) (h : u.run (p.persist written) = (result, v)) :
    (∀ x ∈ p.wanted (p.desired (p.liveConfig w)), v.Holds x) ∧
      ∀ f ∈ Feature.all, f.Settled p.owner p.generation (p.toggles.isEnabled f) status v := by
  refine ⟨fun x hx => (happlied.objects x hx).congr ?_, fun f hf => (happlied.features f hf).congr fun k ns => ?_⟩
  · rw [object?, object?, store_of_run_persist h (kind_of_mem_wanted hx).1]
  · exact store_of_run_persist h (by rintro ⟨⟩)

theorem reached_of_run_apply_ok (hw : w.Versioned)
    (hlive : w.object? (p.besideSearch .search) p.search.metadata.anyName = some p.search) {notices : List Notice}
    (h : w.run p.apply = ((notices, .ok ()), v)) :
    ∃ status after, p.Reached (p.liveConfig w) status after v := by
  obtain ⟨status, u, happlied, hpersist⟩ := applied_of_run_apply_ok hw h
  obtain ⟨hholds, hsettled⟩ := happlied.after_persist hpersist
  obtain ⟨after, hafter, hstatus⟩ := hasStatus_of_run_persist_ok (Option.some_ne_none _) (Option.some_ne_none _)
    (happlied.search.trans hlive) hpersist
  refine ⟨status, after, hholds, ?_, hsettled, hafter, hstatus⟩
  refine desired_of_holds (hholds _ wantedConfig_mem_wanted) fun key hk => ?_
  rw [configData, liveConfig_congr (store_of_run_persist hpersist (by rintro ⟨⟩))]
  exact happlied.config key hk

/-- Once a pass has reached what it is for, nothing is left to do for the pass over the Search that is live then. -/
theorem atRest_of_reached {live : Option ConfigMap} {status : SearchStatus} {after : Search}
    (h : p.Reached live status after v) (now : Feature → Timestamp) :
    ({ p with search := after, now := now } : Pass).AtRest v := by
  obtain ⟨written, hwritten, halike⟩ := h.status.status
  have hdesired : ({ p with search := after, now := now } : Pass).desired (p.liveConfig v) = p.desired live :=
    (desired_of_hasStatus h.status now _).trans h.desired
  constructor
  · intro x hx
    exact h.objects x (hdesired ▸ hx)
  · intro f hf
    have hgeneration : after.metadata.generation = p.search.metadata.generation := h.status.metadata.generation
    show f.Settled p.owner (after.metadata.generation.getD 0) ((FeatureToggles.ofSearch after).isEnabled f)
      (after.status.getD {}) v
    rw [hgeneration, toggles_of_hasStatus h.status, hwritten]
    exact (h.features f hf).of_alike halike.conditions
  · show after.status = some (finalStatus (({ p with search := after, now := now } : Pass).desired (p.liveConfig v))
      (after.status.getD {}))
    rw [hdesired, hwritten]
    refine congrArg some ?_
    obtain ⟨db, storage, conditions⟩ := written
    obtain rfl : db = _ := halike.db
    obtain rfl : storage = _ := halike.storage
    rfl

/-- After a pass that succeeded on the live Search, everything that the Search asks for is held; and the next
pass over the Search that is live then writes nothing, has nothing to report and succeeds. -/
theorem apply_converges {w v : World} (hw : w.Built) {search : Search} {config : OperatorConfig}
    {now : Feature → Timestamp} {p : Pass} (hp : Pass.new? search config now = .ok p)
    (hlive : w.object? (p.besideSearch .search) search.metadata.anyName = some search) {notices : List Notice}
    (h : w.run p.apply = ((notices, .ok ()), v)) :
    (∀ x ∈ p.wanted (p.desired (p.liveConfig w)), v.Holds x) ∧
      ∃ after, v.object? (p.besideSearch .search) search.metadata.anyName = some after ∧
        ∀ now', ∃ q, Pass.new? after config now' = .ok q ∧
          ∃ u, v.run q.apply = (([], .ok ()), u) ∧ v.OnlyRead u := by
  obtain ⟨owner, -, rfl⟩ := new?_eq_ok.1 hp
  obtain ⟨status, after, hreached⟩ := reached_of_run_apply_ok hw.versioned hlive h
  refine ⟨hreached.objects, after, hreached.search, fun now' => ⟨_, new?_of_hasStatus hp hreached.status now', ?_⟩⟩
  exact run_apply_of_atRest (atRest_of_reached hreached now')

/-- A Search that switches global search on. -/
def sampleSearch : Search where
  metadata := {
    name := some "search", inNamespace := some "acm", uid := some "1", resourceVersion := some "1",
    annotations := some (.ofList [(Feature.globalSearch.toggleKey, "true")]) }

/-- A hub with the Search and with a database configuration that somebody else made. -/
def sampleStores : World :=
  (Feature.sampleHub.seed ⟨.search, some "acm"⟩ sampleSearch).seed ⟨.configMap, some "acm"⟩
    { metadata := { name := some Desired.databaseConfigName }, data := some (.ofList [("owner", "somebody else")]) }

/-- A pass over the Search. -/
def samplePass : Pass := ⟨sampleSearch, Feature.sampleOwner, {}, default⟩

/-- The first pass over the Search succeeds, and the second one finds nothing to do. -/
theorem apply_converges_sampleStores :
    ∃ notices v, sampleStores.run samplePass.apply = ((notices, .ok ()), v) ∧
      (∀ x ∈ samplePass.wanted (samplePass.desired (samplePass.liveConfig sampleStores)), v.Holds x) ∧
        ∃ after, v.object? (samplePass.besideSearch .search) "search" = some after ∧
          ∀ now', ∃ q, Pass.new? after {} now' = .ok q ∧ ∃ u, v.run q.apply = (([], .ok ()), u) ∧ v.OnlyRead u := by
  have hbuilt : sampleStores.Built := .seed _ _ (.seed _ _ Feature.built_sampleHub)
  have hlive : sampleStores.object? ⟨.search, some "acm"⟩ "search" = some sampleSearch := by decide +kernel
  obtain ⟨⟨⟩, hok⟩ := exists_ok_of_isOk (r := (sampleStores.run samplePass.apply).1.2) (by decide +kernel)
  have hrun : sampleStores.run samplePass.apply = (((sampleStores.run samplePass.apply).1.1, .ok ()), _) :=
    Prod.ext (Prod.ext rfl hok) rfl
  have hnew : Pass.new? sampleSearch {} default = .ok samplePass := rfl
  exact ⟨_, _, hrun, apply_converges hbuilt hnew hlive hrun⟩

end Pass

end HubSearch
