/-
What a pass and a cleanup can touch at all, whatever fails in them. A pass writes to the objects that the Search asks
for, to the resources of features that are on, and the status of the Search; it takes away nothing but resources of
features that were on and are switched off (`run_apply_footprint`). A cleanup only takes away. In between the Searches
can change in any way: a claim on storage that is there once stays as it is for good. Main statement:
`passes_keep_footprint`.
-/
import HubSearch.Proofs.Feature.FanOut
import HubSearch.Proofs.Pass.Cleanup
import HubSearch.Proofs.Pass.Status
import Mathlib.Logic.Relation

namespace HubSearch

open World

theorem World.RemovedIn.changedIn {places put gone : StoreRef → String → Prop} {w v : World} (h : w.RemovedIn places v)
    (hgone : ∀ r name, places r name → gone r name) : w.ChangedIn put gone v :=
  fun r name => (h r name).imp_right fun h => .inr ⟨h.1, hgone r name h.2⟩

/-! ## Features -/

namespace Feature

/-- Bringing a feature to its place puts its resources into the targets when it is on, and takes them away when it is
off and was on. -/
theorem run_reconcile_changedIn (f : Feature) (owner : Owner) (now : Timestamp) (generation : Int64) (isOn : Bool)
    (status : SearchStatus) (faults : Faults) {s : Recorded} (hs : s.world.Versioned) :
    s.world.ChangedIn (fun r name => isOn = true ∧ f.Places owner (f.targetsIn s.world) r name)
      (fun r name => isOn = false ∧ f.state status = .enabled ∧ f.Places owner (f.targetsIn s.world) r name)
      (s.run faults (f.reconcile owner now generation isOn status).run).2.world := by
  cases isOn with
  | false =>
    exact (f.run_reconcile_off_removes owner now generation status faults s).removed.changedIn fun _ _ h => ⟨rfl, h⟩
  | true =>
    have hput := f.run_enable_putIn owner faults hs
    have hworld : (s.run faults (f.reconcile owner now generation true status).run).2 =
        (s.run faults (f.enable owner).run).2 := by
      unfold reconcile
      rw [if_pos rfl]
      rcases Recorded.run_work_bind_cases faults s (f.enable owner) _ with ⟨n, u, hu, hr⟩ | ⟨e, u, hu, hr⟩ <;>
        rw [hr, hu]
      rfl
    rw [hworld]
    exact hput.mono (fun _ _ h => ⟨rfl, h⟩) fun _ _ h => h.elim

end Feature

namespace Pass

variable {p : Pass} {faults : Faults} {s t : Recorded} {w v : World}

/-! ## The footprint of a pass -/

/-- The places that a pass may write to: those of the objects that the Search asks for, those of the resources of
features that are on, and that of the Search itself. -/
inductive Writes (p : Pass) (w : World) (r : StoreRef) (name : String) : Prop
  | object (x : Wanted) (hx : x ∈ p.wanted (.build p.search p.owner p.config p.toggles)) (hstore : r = x.store)
      (hname : name = x.name)
  | resource (f : Feature) (hon : p.toggles.isEnabled f = true) (hplace : f.Places p.owner (f.targetsIn w) r name)
  | search (hstore : r = p.besideSearch .search) (hname : name = p.search.metadata.anyName)

/-- A feature is off, and the snapshot says that it is on. -/
def SwitchesOff (p : Pass) (f : Feature) : Prop :=
  p.toggles.isEnabled f = false ∧ (p.search.status.getD {}).isTrue f.conditionType = true

/-- The places from which a pass may take objects away. -/
def Empties (p : Pass) (w : World) (r : StoreRef) (name : String) : Prop :=
  ∃ f, p.SwitchesOff f ∧ f.Places p.owner (f.targetsIn w) r name

/-- What a pass leaves behind in the stores. -/
structure Footprint (p : Pass) (w v : World) : Prop where
  changed : w.ChangedIn (p.Writes w) (p.Empties w) v
  /-- Of the Search only the status is written, and the version with it. -/
  search : ∀ live, p.liveSearch? w = some live → ∃ after, p.liveSearch? v = some after ∧
    (after = live ∨ ∃ status, live.Reports status after)
  noSearch : p.liveSearch? w = none → p.liveSearch? v = none

/-! ### Objects -/

theorem run_objects_changedIn (p : Pass) (live : Option ConfigMap) (faults : Faults) (hs : s.world.Versioned) :
    s.world.ChangedIn (p.Writes w) (p.Empties w)
      (s.run faults (Plan.forEach syncOne (p.wanted (p.desired live)))).2.world := by
  have hplaces : ∀ x ∈ p.wanted (p.desired live), p.Writes w x.store x.name := by
    intro x hx
    have hmem : (x.store, x.name) ∈ (p.wanted (p.desired live)).map fun x => (x.store, x.name) :=
      List.mem_map.2 ⟨x, hx, rfl⟩
    rw [places_wanted] at hmem
    obtain ⟨y, hy, hplace⟩ := List.mem_map.1 hmem
    exact .object y hy (congrArg Prod.fst hplace).symm (congrArg Prod.snd hplace).symm
  have hput : (Plan.forEach syncOne (p.wanted (p.desired live))).Preserves (Recorded.answer faults) fun t =>
      t.world.Versioned ∧ s.world.PutIn (p.Writes w) t.world :=
    Plan.preserves_forEach fun x hx => (preserves_sync_putIn (hplaces x hx)).bind fun _ => Plan.preserves_pure _
  exact (hput s ⟨hs, .of_store rfl⟩).2.mono (fun _ _ h => h) fun _ _ h => h.elim

/-! ### Features in turn -/

theorem changedIn_of_featureTurn {f : Feature} {status after : SearchStatus} {report : Report}
    (hs : s.world.Versioned) (htargets : f.targetsIn s.world = f.targetsIn w)
    (hstate : f.state status = f.state (p.search.status.getD {}))
    (h : p.FeatureTurn faults f (status, s) report (after, t)) :
    s.world.ChangedIn (p.Writes w) (p.Empties w) t.world := by
  have hrun : (s.run faults (f.reconcile p.owner (p.now f) p.generation (p.toggles.isEnabled f) status).run).2 = t := by
    cases h with
    | settled hrun => rw [hrun]
    | failed hrun => rw [hrun]
  have hchanged := f.run_reconcile_changedIn p.owner (p.now f) p.generation (p.toggles.isEnabled f) status faults hs
  rw [hrun, htargets, hstate] at hchanged
  refine hchanged.mono (fun r name h => .resource f h.1 h.2) ?_
  rintro r name ⟨hoff, henabled, hplace⟩
  exact ⟨f, ⟨hoff, Feature.isTrue_iff_state.2 henabled⟩, hplace⟩

/-- The turn of a feature leaves the targets of all features as they are, and the states of the others. -/
theorem targetsIn_of_featureTurn {f : Feature} {status after : SearchStatus} {report : Report}
    (h : p.FeatureTurn faults f (status, s) report (after, t)) (g : Feature) :
    g.targetsIn t.world = g.targetsIn s.world ∧ (g ≠ f → g.state after = g.state status) := by
  have htargets := Feature.targetsIn_run
    (f.makes_reconcile p.owner (p.now f) p.generation (p.toggles.isEnabled f) status) g faults s
  cases h with
  | settled hrun =>
    rw [hrun] at htargets
    refine ⟨htargets, fun hne => ?_⟩
    rw [Feature.state, (Feature.marks_of_run_reconcile hrun).condition?_of_ne fun htype =>
      hne (Feature.conditionType_injective htype)]
    rfl
  | failed hrun =>
    rw [hrun] at htargets
    exact ⟨htargets, fun _ => rfl⟩

/-- Each feature finds its targets and its state as they were when the pass began. -/
theorem changedIn_of_inTurn {after : SearchStatus} : ∀ {fs : List Feature} {reports : List Report}
    {status : SearchStatus} {s : Recorded}, fs.Nodup → s.world.Versioned →
    (∀ f : Feature, f.targetsIn s.world = f.targetsIn w) →
    (∀ f ∈ fs, f.state status = f.state (p.search.status.getD {})) →
    InTurn (p.FeatureTurn faults) fs (status, s) reports (after, t) →
    s.world.ChangedIn (p.Writes w) (p.Empties w) t.world
  | [], _, _, _, _, _, _, _, .nil => .of_store rfl
  | f :: rest, _, _, s, hn, hs, htargets, hstates, .cons (t := (next, u)) first later => by
    rw [List.nodup_cons] at hn
    have hchanged := changedIn_of_featureTurn hs (htargets f) (hstates f List.mem_cons_self) first
    have hu : u.world.Versioned := by
      cases first with
      | settled hrun => exact (Plan.preserves_versioned faults _).of_run hs hrun
      | failed hrun => exact (Plan.preserves_versioned faults _).of_run hs hrun
    refine hchanged.trans (changedIn_of_inTurn hn.2 hu (fun g => ?_) (fun g hg => ?_) later)
    · exact (targetsIn_of_featureTurn first g).1.trans (htargets g)
    · have hne : g ≠ f := fun heq => hn.1 (heq ▸ hg)
      exact ((targetsIn_of_featureTurn first g).2 hne).trans (hstates g (List.mem_cons_of_mem f hg))

/-! ### The status -/

/-- The turn of the status leaves the stores as they are, or merges the status into the live Search. -/
theorem store_of_statusTurn {status : SearchStatus} {report : Report} (h : p.StatusTurn faults status s report t) :
    t.world.store = s.world.store ∨ ∃ live merged, p.liveSearch? s.world = some live ∧
      Store.withStatus? (k := .search) live (statusJson status) = .ok merged ∧
      t.world.store = (s.world.set (p.besideSearch .search)
        ((s.world.store (p.besideSearch .search)).put p.search.metadata.anyName merged).2).store := by
  have hcall : ∀ {reply}, Recorded.answer faults s (p.statusCall status) = (reply, t) →
      t.world.store = s.world.store ∨ ∃ live merged, p.liveSearch? s.world = some live ∧
        Store.withStatus? (k := .search) live (statusJson status) = .ok merged ∧
        t.world.store = (s.world.set (p.besideSearch .search)
          ((s.world.store (p.besideSearch .search)).put p.search.metadata.anyName merged).2).store := by
    intro reply hcall
    obtain rfl : _ = t := congrArg Prod.snd hcall
    rcases Recorded.answer_cases faults s (p.statusCall status) with ⟨a, ha, hr⟩ | ⟨e, u, hr, hu⟩ <;> rw [hr]
    · rcases answer_writeStatus_cases s.world (p.besideSearch .search) p.search.metadata.anyName
        p.search.metadata.resourceVersion (statusJson status) with ⟨live, merged, hlive, -, hm, hc⟩ | ⟨e, he, -⟩
      · exact .inr ⟨live, merged, hlive, hm, congrArg (fun r => r.2.store) hc⟩
      · cases ha.symm.trans he
    · exact .inl hu
  cases h with
  | unchanged => exact .inl rfl
  | written _ h => exact hcall h
  | outdated _ h => exact hcall h
  | failed _ h _ => exact hcall h

theorem footprint_of_store (hchanged : w.ChangedIn (p.Writes w) (p.Empties w) v)
    (hsearch : p.liveSearch? v = p.liveSearch? w) : p.Footprint w v :=
  ⟨hchanged, fun live hlive => ⟨live, hsearch.trans hlive, .inl rfl⟩, fun hnone => hsearch.trans hnone⟩

theorem footprint_of_statusTurn {status : SearchStatus} {report : Report}
    (hchanged : w.ChangedIn (p.Writes w) (p.Empties w) s.world) (hsearch : p.liveSearch? s.world = p.liveSearch? w)
    (hdb : status.db ≠ none) (hstorage : status.storage ≠ none) (h : p.StatusTurn faults status s report t) :
    p.Footprint w t.world := by
  rcases store_of_statusTurn h with hs | ⟨live, merged, hlive, hm, hs⟩
  · exact footprint_of_store (hchanged.trans (.of_store hs)) ((object?_congr hs _ _).trans hsearch)
  · have hafter : p.liveSearch? t.world =
        some (Store.stamped (k := .search) ((s.world.store (p.besideSearch .search)).version + 1) merged) :=
      (object?_congr hs _ _).trans (object?_put_self s.world _ _ _)
    rw [hsearch] at hlive
    refine ⟨hchanged.trans fun r name => ?_, fun live' hlive' => ?_, fun hnone => nomatch hnone.symm.trans hlive⟩
    · by_cases hplace : r = p.besideSearch .search ∧ name = p.search.metadata.anyName
      · obtain ⟨rfl, rfl⟩ := hplace
        refine .inr (.inl ⟨?_, .search rfl rfl⟩)
        rw [show t.world.object? _ _ = _ from hafter]
        exact Option.some_ne_none _
      · rw [object?_congr hs]
        exact .inl (object?_set_of_ne s.world (fun _ => Store.get?_put_of_ne _ merged)
          (Decidable.not_and_iff_or_not.1 hplace))
    · obtain rfl := Option.some.inj (hlive.symm.trans hlive')
      exact ⟨_, hafter, .inr ⟨status, Search.reports_of_withStatus hdb hstorage hm _⟩⟩

/-! ### The pass -/

theorem run_applyDesired_footprint (p : Pass) (live : Option ConfigMap) (faults : Faults) (hs : s.world.Versioned)
    (hw : s.world.store = w.store) : p.Footprint w (s.run faults (p.applyDesired live)).2.world := by
  rw [run_applyDesired]
  let objects := s.run faults (Plan.forEach syncOne (p.wanted (p.desired live)))
  let features := objects.2.run faults (p.reconcileFeatures (p.search.status.getD {}) Feature.all)
  have hobjects : s.world.ChangedIn (p.Writes w) (p.Empties w) objects.2.world :=
    run_objects_changedIn p live faults hs
  have hversioned : objects.2.world.Versioned := Plan.preserves_versioned faults _ s hs
  -- the objects are of other kinds than the managed clusters
  have htargets : ∀ f : Feature, f.targetsIn objects.2.world = f.targetsIn w := by
    refine fun f => Feature.targetsIn_congr (Eq.trans ?_ (congrFun hw _))
    exact ((p.makes_objects live).mono fun _ hc _ => (hc.2.1 .managedCluster none).symm).preserves_store faults s rfl
  obtain ⟨reports, -, hturns⟩ := p.inTurn_run_features faults Feature.all (p.search.status.getD {}) objects.2
  have hfeatures := changedIn_of_inTurn (by decide) hversioned htargets (fun _ _ => rfl) hturns
  have hspares := (p.spares_run_objects faults live s).trans
    (p.spares_run_features faults (p.search.status.getD {}) objects.2)
  exact footprint_of_statusTurn (((World.ChangedIn.of_store hw).trans hobjects).trans hfeatures)
    (hspares.liveSearch?.trans (object?_congr hw _ _)) (Option.some_ne_none _) (Option.some_ne_none _)
    (p.statusTurn_run_persist faults (finalStatus (p.desired live) features.1.1) features.2)

/-- Whatever fails in a pass, it leaves no more than its footprint. -/
theorem run_apply_footprint (p : Pass) (faults : Faults) (hs : s.world.Versioned) :
    p.Footprint s.world (s.run faults p.apply).2.world := by
  have hread : s.run faults (Work.fetch (p.besideSearch .configMap) Desired.databaseConfigName).run =
      Recorded.answer faults s p.configCall := rfl
  rw [apply, Recorded.run_bind, hread]
  rcases Recorded.answer_fetch_cases faults s (p.besideSearch .configMap) Desired.databaseConfigName with
    hf | ⟨e, u, hf, hu⟩ <;> rw [show Recorded.answer faults s p.configCall = _ from hf]
  · let u : Recorded := ⟨s.world.logged p.configCall, s.calls ++ [(p.configCall, true)]⟩
    have hu : p.Footprint s.world (u.run faults (p.applyDesired (p.liveConfig s.world))).2.world :=
      p.run_applyDesired_footprint (p.liveConfig s.world) faults (hs.congr rfl) rfl
    show p.Footprint s.world (u.run faults (do
      let report ← p.applyDesired (p.liveConfig s.world)
      pure (report.notices, report.failures.toResult))).2.world
    rw [Recorded.run_bind]
    exact hu
  · exact footprint_of_store (.of_store hu) (object?_congr hu _ _)

/-! ## Claims on storage -/

/-- The claim of a name in a namespace. -/
def claim? (ns : Option String) (name : String) (w : World) : Option PersistentVolumeClaim :=
  w.object? ⟨.persistentVolumeClaim, ns⟩ name

section

variable {ns : Option String} {name : String} {claim : PersistentVolumeClaim}

/-- A claim that is there is not amended, so it stays as it is when it is wanted again. -/
theorem preserves_claim_sync (x : Wanted) : (sync x.store x.object).run.Preserves (Recorded.answer faults) fun s =>
    s.world.Versioned ∧ claim? ns name s.world = some claim := by
  rintro s ⟨hs, hclaim⟩
  have hattempt := attempt_run_sync faults hs x
  refine ⟨Plan.preserves_versioned faults _ s hs, ?_⟩
  by_cases hplace : (⟨.persistentVolumeClaim, ns⟩ : StoreRef) = x.store ∧ name = x.name
  · obtain ⟨r, desired⟩ := x
    obtain ⟨rfl, rfl⟩ := hplace
    have hholds : s.world.Holds ⟨⟨.persistentVolumeClaim, ns⟩, desired⟩ :=
      ⟨claim, hclaim, (Kind.amend_eq_none_iff _).1 rfl⟩
    exact (hattempt.object?_of_holds hholds).trans hclaim
  · exact (hattempt.object?_of_ne (Decidable.not_and_iff_or_not.1 hplace)).trans hclaim

/-- A plan that does not write to the stores of claims keeps them. -/
theorem preserves_claim_of_makes {α : Type} {plan : Plan α}
    (h : plan.Makes fun c => c.isWrite = true → c.store.kind ≠ .persistentVolumeClaim) :
    plan.Preserves (Recorded.answer faults) fun s => s.world.Versioned ∧ claim? ns name s.world = some claim := by
  rintro s ⟨hs, hclaim⟩
  have hmakes := h.mono fun c hc hwrite (heq : c.store = ⟨.persistentVolumeClaim, ns⟩) =>
    hc hwrite (congrArg StoreRef.kind heq)
  have hstore := hmakes.preserves_store faults s rfl
  exact ⟨Plan.preserves_versioned faults _ s hs, (congrArg (fun stored : Store .persistentVolumeClaim =>
    stored.objects.get? name) hstore).trans hclaim⟩

theorem preserves_claim_features (p : Pass) (status : SearchStatus) (fs : List Feature) :
    (p.reconcileFeatures status fs).Preserves (Recorded.answer faults) fun s =>
      s.world.Versioned ∧ claim? ns name s.world = some claim := by
  refine preserves_claim_of_makes ((p.makes_reconcileFeatures fs status).mono fun c hc hwrite heq => ?_)
  rcases hc.1 with ⟨hread, -⟩ | ⟨k, -, hk⟩
  · cases hread.symm.trans hwrite
  · cases hk.symm.trans heq

theorem preserves_claim_apply (p : Pass) : p.apply.Preserves (Recorded.answer faults) fun s =>
    s.world.Versioned ∧ claim? ns name s.world = some claim := by
  refine preserves_apply (preserves_claim_of_makes (Plan.makes_ask nofun)) (fun _ x _ => preserves_claim_sync x)
    (fun status => p.preserves_claim_features status _) fun status => ?_
  refine preserves_claim_of_makes ((p.makes_persist status).mono ?_)
  rintro _ rfl -
  exact nofun

/-- A cleanup takes no claim away. -/
theorem claim_run_cleanup (p : Pass) (hclaim : claim? ns name s.world = some claim) :
    claim? ns name (s.run faults p.cleanup).2.world = some claim := by
  rcases (p.run_cleanup_removes faults s).removed ⟨.persistentVolumeClaim, ns⟩ name with hsame | ⟨-, hdoomed⟩
  · exact hsame.trans hclaim
  · rcases hdoomed with ⟨f, u, -, r, -, hstore, -⟩ | ⟨⟨hstore | hstore, -⟩, -⟩ <;> cases congrArg StoreRef.kind hstore

end

/-! ## Runs -/

/-- What happens to the stores over time: passes and cleanups, in which any call can fail, and changes to Searches. -/
inductive Step : World → World → Prop
  | apply (p : Pass) (faults : Faults) (s : Recorded) : Step s.world (s.run faults p.apply).2.world
  | cleanup (p : Pass) (faults : Faults) (s : Recorded) : Step s.world (s.run faults p.cleanup).2.world
  | edit (w : World) (ns : Option String) (search : Search) : Step w (w.seed ⟨.search, ns⟩ search)

theorem Step.versioned (h : Step w v) (hw : w.Versioned) : v.Versioned := by
  cases h with
  | apply p faults s => exact Plan.preserves_versioned faults p.apply s hw
  | cleanup p faults s => exact Plan.preserves_versioned faults p.cleanup s hw
  | edit _ ns search => exact hw.seed _ _

theorem Step.claim (h : Step w v) (hw : w.Versioned) {ns : Option String} {name : String}
    {claim : PersistentVolumeClaim} (hclaim : claim? ns name w = some claim) : claim? ns name v = some claim := by
  cases h with
  | apply p faults s => exact (p.preserves_claim_apply s ⟨hw, hclaim⟩).2
  | cleanup p faults s => exact p.claim_run_cleanup hclaim
  | edit _ other search =>
    have hstore : (w.seed ⟨.search, other⟩ search).store ⟨.persistentVolumeClaim, ns⟩ =
        w.store ⟨.persistentVolumeClaim, ns⟩ := store_set_of_ne w _ (by rintro ⟨⟩)
    rw [claim?, object?, hstore]
    exact hclaim

/-- The objects that a Search asks for are beside it or in the whole cluster. -/
theorem inNamespace_of_mem_wanted {d : DesiredState} {x : Wanted} (hx : x ∈ p.wanted d) :
    x.store.inNamespace = none ∨ x.store.inNamespace = some p.owner.inNamespace := by
  rcases mem_wanted_cases hx with rfl | rfl | hns
  · exact .inl rfl
  · exact .inl rfl
  · exact .inr hns

/-- However passes, cleanups and changes to Searches follow each other, a claim on storage that is there once stays as
it is. Each pass writes to the objects that its Search asks for, which are beside the Search or in the whole cluster,
to the resources of features that are on, and the status of the Search; it takes away nothing but resources of features
that are off while the snapshot says that they are on. Each cleanup takes away resources of features and the cluster
role and its binding. Nothing else changes. -/
theorem passes_keep_footprint (hbuilt : w.Built) (hrun : Relation.ReflTransGen Step w v) :
    (∀ ns name claim, claim? ns name w = some claim → claim? ns name v = some claim) ∧
    ∀ (p : Pass) (faults : Faults) (calls : List (StoreCall × Bool)),
      p.Footprint v ((⟨v, calls⟩ : Recorded).run faults p.apply).2.world ∧
      (∀ x ∈ p.wanted (.build p.search p.owner p.config p.toggles),
        x.store.inNamespace = none ∨ x.store.inNamespace = some p.owner.inNamespace) ∧
      v.RemovedIn (fun r name => (∃ f : Feature, f.Places p.owner (f.targetsIn v) r name) ∨ IsClusterPlace r name)
        ((⟨v, calls⟩ : Recorded).run faults p.cleanup).2.world := by
  have hsteps : v.Versioned ∧ ∀ ns name claim, claim? ns name w = some claim → claim? ns name v = some claim := by
    induction hrun with
    | refl => exact ⟨hbuilt.versioned, fun _ _ _ h => h⟩
    | tail _ hstep ih => exact ⟨hstep.versioned ih.1, fun ns name claim h => hstep.claim ih.1 (ih.2 ns name claim h)⟩
  refine ⟨hsteps.2, fun p faults calls => ⟨?_, fun _ => inNamespace_of_mem_wanted, ?_⟩⟩
  · exact p.run_apply_footprint (s := ⟨v, calls⟩) faults hsteps.1
  · exact (p.run_cleanup_removes faults ⟨v, calls⟩).removed.mono fun r name h => h.imp_right And.left

/-- The stores of a Search that asked for storage once. -/
def claimedStores : World :=
  sampleStores.seed ⟨.persistentVolumeClaim, some "acm"⟩
    { metadata := { name := some Desired.storageClaimName, inNamespace := some "acm" } }

/-- A pass over the Search when it asks for storage again, and more of it. -/
def storagePass : Pass :=
  { samplePass with search := { sampleSearch with spec := { dbStorage := some { size := some "100Gi" } } } }

/-- The claim is as it was after a pass without storage, a pass with more storage, and a cleanup. -/
theorem passes_keep_footprint_claimedStores : ∃ claim v,
    claim? (some "acm") Desired.storageClaimName claimedStores = some claim ∧
    Relation.ReflTransGen Step claimedStores v ∧
    claim? (some "acm") Desired.storageClaimName v = some claim := by
  have hbuilt : claimedStores.Built := .seed _ _ (.seed _ _ (.seed _ _ Feature.built_sampleHub))
  obtain ⟨claim, hclaim⟩ := Option.isSome_iff_exists.1
    (show (claim? (some "acm") Desired.storageClaimName claimedStores).isSome = true by decide +kernel)
  let s : Recorded := ((⟨claimedStores, []⟩ : Recorded).run (fun _ => none) samplePass.apply).2
  let u : Recorded := ⟨s.world.seed ⟨.search, some "acm"⟩ storagePass.search, s.calls⟩
  let t : Recorded := (u.run (fun _ => none) storagePass.apply).2
  have hrun : Relation.ReflTransGen Step claimedStores (t.run (fun _ => none) storagePass.cleanup).2.world :=
    (((Relation.ReflTransGen.refl.tail (.apply samplePass (fun _ => none) ⟨claimedStores, []⟩)).tail
      (.edit s.world (some "acm") storagePass.search)).tail (.apply storagePass (fun _ => none) u)).tail
        (.cleanup storagePass (fun _ => none) t)
  exact ⟨claim, _, hclaim, hrun, (passes_keep_footprint hbuilt hrun).1 _ _ claim hclaim⟩

end Pass

end HubSearch
