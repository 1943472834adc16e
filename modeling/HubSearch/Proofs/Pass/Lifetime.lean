/-
What is left when a Search is deleted. Every object that its passes have created either goes with the Search, to which
it refers as its controller, or is taken away by the cleanup; only the claim on the storage of the database is meant
to stay. The invariant `World.Accounted` says which of these it is for each object there is; every write of a pass keeps
it, whatever fails, and so do the user's edits and the arrival of managed clusters. Main statement:
`Lifetime.controlled_or_storage`.
-/
import HubSearch.Proofs.Pass.Cleanup
import HubSearch.Proofs.Pass.Interleaving
import HubSearch.Proofs.Sync.Attempt

namespace HubSearch

open World

/-! ## What becomes of objects -/

/-- The kinds of the objects that features depend on. -/
def Feature.hubKinds : List UnstructuredKind := [.managedCluster, .clusterManagementAddOn, .multiClusterEngine]

/-- The stores of what is given to a pass: the one of the Search itself, and those of what features depend on. -/
def Owner.IsGiven (o : Owner) (r : StoreRef) : Prop := r = o.searchStore ∨ ∃ k ∈ Feature.hubKinds, r = Feature.hubStore k

/-- The place of the claim on the storage of the database. -/
def Owner.IsStoragePlace (o : Owner) (r : StoreRef) (name : String) : Prop :=
  r = ⟨.persistentVolumeClaim, some o.inNamespace⟩ ∧ name = Desired.storageClaimName

/-- What becomes of an object when the Search of an owner is deleted. -/
inductive Fate (o : Owner) (targets : Feature → List Target) (r : StoreRef) (name : String) (m : ObjectMeta) : Prop
  /-- It is none that a pass creates. -/
  | given (hstore : o.IsGiven r)
  /-- It goes with the Search. -/
  | controlled (hstore : r.inNamespace = some o.inNamespace) (hcontrols : o.Controls m)
  /-- It stays, so that the data outlives the Search. -/
  | storage (hplace : o.IsStoragePlace r name) (hrefs : m.ownerReferences = none)
  /-- The cleanup takes it away for its labels. -/
  | labelled (hplace : IsClusterPlace r name) (howns : o.owns m = true)
  /-- The cleanup takes it away for its place. -/
  | resource (f : Feature) (hplace : f.Places o (targets f) r name)

/-- It is known what becomes of each object. -/
structure World.Accounted (o : Owner) (targets : Feature → List Target) (w : World) : Prop where
  versioned : w.Versioned
  targetsIn : ∀ f : Feature, f.targetsIn w = targets f
  fate : ∀ r name live, w.object? r name = some live → Fate o targets r name (r.kind.metadata live)

variable {o : Owner} {targets : Feature → List Target} {w v : World}

namespace Fate

variable {r : StoreRef} {name : String} {m : ObjectMeta}

theorem withVersion (h : Fate o targets r name m) (version : String) : Fate o targets r name (m.withVersion version) := by
  cases h with
  | given hstore => exact .given hstore
  | controlled hstore hcontrols => exact .controlled hstore hcontrols
  | storage hplace hrefs => exact .storage hplace hrefs
  | labelled hplace howns => exact .labelled hplace howns
  | resource f hplace => exact .resource f hplace

theorem mono {more : Feature → List Target} (hmore : ∀ f, targets f ⊆ more f) (h : Fate o targets r name m) :
    Fate o more r name m := by
  cases h with
  | given hstore => exact .given hstore
  | controlled hstore hcontrols => exact .controlled hstore hcontrols
  | storage hplace hrefs => exact .storage hplace hrefs
  | labelled hplace howns => exact .labelled hplace howns
  | resource f hplace =>
    obtain ⟨t, ht, hx⟩ := hplace
    exact .resource f ⟨t, hmore f ht, hx⟩

end Fate

namespace World.Accounted

theorem congr (h : w.Accounted o targets) (hs : v.store = w.store) : v.Accounted o targets where
  versioned := h.versioned.congr hs
  targetsIn f := (Feature.targetsIn_congr (congrFun hs _)).trans (h.targetsIn f)
  fate r name live hlive := h.fate r name live ((object?_congr hs r name).symm.trans hlive)

/-- An object is put into its place. -/
theorem put (h : w.Accounted o targets) {r : StoreRef} {name : String} {x : r.kind.Object}
    (hr : r ≠ Feature.hubStore .managedCluster) (hx : Fate o targets r name (r.kind.metadata x))
    (hs : v.store = (w.set r ((w.store r).put name x).2).store) : v.Accounted o targets where
  versioned := Versioned.congr (h.versioned.set ((h.versioned r).put name x)) hs
  targetsIn f := by
    have hclusters : v.store (Feature.hubStore .managedCluster) = w.store (Feature.hubStore .managedCluster) := by
      rw [hs, store_set_of_ne w _ hr.symm]
    exact (Feature.targetsIn_congr hclusters).trans (h.targetsIn f)
  fate r' name' live hlive := by
    rw [object?_congr hs] at hlive
    by_cases hplace : r' = r ∧ name' = name
    · obtain ⟨rfl, rfl⟩ := hplace
      obtain rfl := Option.some.inj ((object?_put_self w r' name' x).symm.trans hlive)
      rw [Store.stamped, Kind.metadata_withMetadata]
      exact hx.withVersion _
    · rw [object?_set_of_ne w (fun _ => Store.get?_put_of_ne _ x) (Decidable.not_and_iff_or_not.1 hplace)] at hlive
      exact h.fate r' name' live hlive

/-- Objects are gone. -/
theorem removedIn {places : StoreRef → String → Prop} (h : w.Accounted o targets) (hremoved : w.RemovedIn places v)
    (hversioned : v.Versioned) (htargets : ∀ f : Feature, f.targetsIn v = f.targetsIn w) : v.Accounted o targets where
  versioned := hversioned
  targetsIn f := (htargets f).trans (h.targetsIn f)
  fate r name live hlive := h.fate r name live (hremoved.object?_eq_some hlive)

/-- Nothing but the store of the Search has changed. -/
theorem of_search (h : w.Accounted o targets) (hversioned : v.Versioned)
    (hs : ∀ r, r ≠ o.searchStore → v.store r = w.store r) : v.Accounted o targets where
  versioned := hversioned
  targetsIn f := (Feature.targetsIn_congr (hs _ (by rintro ⟨⟩))).trans (h.targetsIn f)
  fate r name live hlive := by
    by_cases hr : r = o.searchStore
    · exact .given (.inl hr)
    · rw [object?, hs r hr] at hlive
      exact h.fate r name live hlive

/-- An object is as it was, or it was put into its place as a wanted one. -/
theorem attempt {x : Wanted} {s t : Recorded} {outcome : Except OperatorError SyncOutcome}
    (h : s.world.Accounted o targets) (hx : x.store ≠ Feature.hubStore .managedCluster)
    (hfate : Fate o targets x.store x.name (x.store.kind.metadata x.object)) (hattempt : x.Attempt s outcome t) :
    t.world.Accounted o targets := by
  rcases hattempt.store_cases with hs | ⟨after, hs, ⟨-, rfl⟩ | ⟨live, hlive, hamend⟩⟩
  · exact h.congr hs
  · exact h.put hx hfate hs
  · -- amending leaves the marks as they are
    refine h.put hx ?_ hs
    rw [x.store.kind.metadata_amend hamend]
    exact h.fate _ _ live hlive

end World.Accounted

/-! ## Features -/

section

variable (faults : Faults)

theorem preserves_accounted_of_reads {α : Type} {p : Plan α} (h : p.Makes (·.isWrite = false)) :
    p.Preserves (Recorded.answer faults) fun s => s.world.Accounted o targets :=
  h.preserves_world faults (fun _ _ hs hw => hw.congr hs) fun w _ hc hw => hw.congr (OnlyRead.answer w hc).store

theorem preserves_accounted_sync {x : Wanted} (hx : x.store ≠ Feature.hubStore .managedCluster)
    (hfate : Fate o targets x.store x.name (x.store.kind.metadata x.object)) :
    (sync x.store x.object).run.Preserves (Recorded.answer faults) fun s => s.world.Accounted o targets :=
  fun _ hs => hs.attempt hx hfate (attempt_run_sync faults hs.versioned x)

namespace Feature

variable {f : Feature}

theorem store_ne_managedCluster {r : StoreRef} (hr : ∃ k ∈ resourceKinds, r.kind = .unstructured k) :
    r ≠ hubStore .managedCluster := by
  rintro rfl
  obtain ⟨k, hk, hkind⟩ := hr
  cases hkind
  revert hk
  decide

theorem preserves_accounted_applyTarget {t : Target} (ht : t ∈ targets f) :
    (f.applyTarget o t).run.Preserves (Recorded.answer faults) fun s => s.world.Accounted o targets := by
  refine Plan.preserves_forM fun r hr => ?_
  have hstore : r.wanted.store ≠ hubStore .managedCluster :=
    store_ne_managedCluster ⟨r.kind, kind_of_mem_resources hr, rfl⟩
  have hplace : f.Places o (targets f) r.wanted.store r.wanted.name :=
    ⟨t, ht, r, hr, rfl, name_wanted_of_mem_resources hr⟩
  exact (preserves_accounted_sync faults hstore (.resource f hplace)).work_bind fun _ => Plan.preserves_pure _

/-- Switching on puts resources into targets that the cleanup is going to visit. -/
theorem preserves_accounted_enable (f : Feature) :
    (f.enable o).run.Preserves (Recorded.answer faults) fun s => s.world.Accounted o targets := by
  have hvalidate := f.makes_validate.mono fun _ hc => hc.1
  refine (preserves_accounted_of_reads faults hvalidate).work_bind fun _ s hs => ?_
  obtain ⟨u, hu, hr | ⟨e, hr⟩⟩ := f.run_targets_cases faults s
  · rw [hs.targetsIn f] at hr
    rw [Work.run_bind_of_ok hr]
    have happly : (Work.attemptEach f.labels (f.applyTarget o) (targets f)).Preserves (Recorded.answer faults)
        fun s => s.world.Accounted o targets :=
      Plan.preserves_attemptEach fun _ ht => preserves_accounted_applyTarget faults ht
    exact happly.lift.work_bind (fun _ => Plan.Preserves.work_bind (Plan.preserves_pure _) fun _ =>
      Plan.preserves_pure _) u (hs.congr hu)
  · rw [Work.run_bind_of_error hr]
    exact hs.congr hu

theorem preserves_accounted_reconcile (f : Feature) (now : Timestamp) (generation : Int64) (isOn : Bool)
    (status : SearchStatus) :
    (f.reconcile o now generation isOn status).run.Preserves (Recorded.answer faults) fun s =>
      s.world.Accounted o targets := by
  cases isOn with
  | true => exact (f.preserves_accounted_enable faults).work_bind fun _ => Plan.preserves_pure _
  | false =>
    intro s hs
    refine hs.removedIn (f.run_reconcile_off_removes o now generation status faults s).removed
      (Plan.preserves_versioned faults _ s hs.versioned) fun g => ?_
    exact targetsIn_run (f.makes_reconcile o now generation false status) g faults s

end Feature

end

/-! ## Objects -/

namespace Pass

variable {p : Pass} {live : Option ConfigMap} {x : Wanted}

theorem fate_of_mem_wanted (hx : x ∈ p.wanted (p.desired live)) :
    Fate p.owner targets x.store x.name (x.store.kind.metadata x.object) := by
  have hcontrols : ∀ name, p.owner.Controls (Desired.ownedMeta p.owner name true) := fun _ =>
    p.owner.controls_adopt rfl rfl
  have howns : p.owner.owns (Desired.ownedMeta p.owner Desired.clusterRoleName false) = true := by
    rw [Desired.ownedMeta, p.owner.adopt_of_ne _ (by simp)]
    exact p.owner.owns_label _
  have hname : (Desired.ownedMeta p.owner Desired.clusterRoleName false).name.getD "" = Desired.clusterRoleName :=
    congrArg (·.getD "") (p.owner.adopt_name _)
  have hconfig := p.databaseConfig_desired live
  rw [desired_eq] at hx
  simp only [wanted, DesiredState.build, List.mem_append, List.mem_map, List.mem_cons, List.not_mem_nil,
    or_false] at hx
  rcases hx with (((rfl | rfl | rfl | rfl) | ⟨claim, hclaim, rfl⟩) | ⟨_, ⟨c, -, rfl⟩, rfl⟩) | ⟨_, ⟨c, -, rfl⟩, rfl⟩
  · exact .controlled rfl (hcontrols _)
  · exact .labelled ⟨.inr rfl, hname⟩ howns
  · exact .labelled ⟨.inl rfl, hname⟩ howns
  · rw [hconfig]
    exact .controlled rfl (hcontrols _)
  · obtain ⟨storage, -, rfl⟩ := Option.map_eq_some_iff.1 (Option.mem_toList.1 hclaim)
    exact .storage ⟨rfl, rfl⟩ rfl
  · exact .controlled rfl (hcontrols _)
  · exact .controlled rfl (hcontrols _)

theorem preserves_accounted_persist (p : Pass) (status : SearchStatus) (faults : Faults) :
    (p.persist status).Preserves (Recorded.answer faults) fun s => s.world.Accounted p.owner targets := by
  refine (p.makes_persist status).preserves_world faults (fun _ _ hs hw => hw.congr hs) ?_
  rintro w _ rfl hw
  exact hw.of_search (hw.versioned.answer _) fun r hr => store_answer_of_ne w (p.statusCall status) hr

/-- Whatever fails in a pass, it is known afterwards what becomes of each object. -/
theorem preserves_accounted_apply (p : Pass) (faults : Faults) :
    p.apply.Preserves (Recorded.answer faults) fun s => s.world.Accounted p.owner targets := by
  refine preserves_apply (preserves_accounted_of_reads faults (Plan.makes_ask rfl)) (fun live x hx => ?_)
    (preserves_reconcileFeatures fun f _ status =>
      f.preserves_accounted_reconcile faults (p.now f) p.generation _ status)
    fun status => p.preserves_accounted_persist status faults
  have hstore : x.store ≠ Feature.hubStore .managedCluster := fun heq =>
    (kind_of_mem_wanted hx).2 .managedCluster (by decide) (congrArg StoreRef.kind heq)
  exact preserves_accounted_sync faults hstore (fate_of_mem_wanted hx)

end Pass

/-! ## What passes create -/

/-- The store and the name of the object that a call creates. -/
def StoreCall.created? : StoreCall → Option (StoreRef × Option String)
  | .insert r x => some (r, (r.kind.metadata x).name)
  | _ => none

/-- The call creates nothing in the stores of what is given. -/
def StoreCall.SparesGiven (o : Owner) (c : StoreCall) : Prop := ∀ place, c.created? = some place → ¬o.IsGiven place.1

/-- An object was created in a place. -/
def Recorded.Created (s : Recorded) (r : StoreRef) (name : String) : Prop :=
  ∃ call ∈ s.calls, call.2 = true ∧ call.1.created? = some (r, some name)

instance (s : Recorded) (r : StoreRef) (name : String) : Decidable (s.Created r name) :=
  inferInstanceAs (Decidable (∃ call ∈ s.calls, _))

theorem StoreCall.store_of_created? {c : StoreCall} {place : StoreRef × Option String} (h : c.created? = some place) :
    c.isWrite = true ∧ place.1 = c.store := by
  cases c with
  | insert r x =>
    obtain rfl := Option.some.inj h
    exact ⟨rfl, rfl⟩
  | _ => cases h

namespace Pass

theorem sparesGiven_of_isObjectCall {c : StoreCall} (hc : IsObjectCall c) : c.SparesGiven o := by
  intro place hplace hgiven
  rw [(StoreCall.store_of_created? hplace).2] at hgiven
  rcases hgiven with hgiven | ⟨k, -, hgiven⟩
  · exact hc.1 _ hgiven.symm
  · exact hc.2.1 k none hgiven.symm

theorem sparesGiven_of_isFeatureCall {c : StoreCall} (hc : Feature.IsFeatureCall c) : c.SparesGiven o := by
  intro place hplace hgiven
  have hdisjoint : ∀ k ∈ Feature.resourceKinds, k ∉ Feature.hubKinds := by decide
  obtain ⟨hwrite, hstore⟩ := StoreCall.store_of_created? hplace
  rw [hstore] at hgiven
  rcases hc.1 with ⟨hread, -⟩ | ⟨k, hk, hkind⟩
  · cases hread.symm.trans hwrite
  · rcases hgiven with hgiven | ⟨k', hk', hgiven⟩ <;> rw [hgiven] at hkind
    · cases hkind
    · cases hkind
      exact hdisjoint k hk hk'

/-- A pass creates nothing in the stores of what is given to it. -/
theorem makes_sparesGiven_apply (p : Pass) : p.apply.Makes (·.SparesGiven o) :=
  makes_apply nofun (fun _ => sparesGiven_of_isObjectCall) (fun _ => sparesGiven_of_isFeatureCall) fun _ => nofun

end Pass

/-! ## The lifetime of a Search -/

/-- Nothing is there but what is given to a pass. -/
def World.OnlyGiven (w : World) (o : Owner) : Prop := ∀ r name, w.object? r name ≠ none → o.IsGiven r

theorem World.OnlyGiven.seed (h : w.OnlyGiven o) {r : StoreRef} (hr : o.IsGiven r) (x : r.kind.Object) :
    (w.seed r x).OnlyGiven o := by
  intro r' name hne
  by_cases hsame : r' = r
  · rw [hsame]
    exact hr
  · have hstore : (w.seed r x).store r' = w.store r' := store_set_of_ne w _ hsame
    rw [object?, hstore] at hne
    exact h r' name hne

/-- The stores while a Search is worked on: passes over it, of which any call can fail, and between them the user edits
the Search and managed clusters arrive. -/
inductive Lifetime (o : Owner) : Recorded → Prop
  | start {w : World} (hbuilt : w.Built) (hgiven : w.OnlyGiven o) : Lifetime o ⟨w, []⟩
  | pass {s : Recorded} (p : Pass) (faults : Faults) (howner : p.owner = o) (earlier : Lifetime o s) :
    Lifetime o (s.run faults p.apply).2
  | edit {s : Recorded} (search : Search) (earlier : Lifetime o s) :
    Lifetime o ⟨s.world.seed o.searchStore search, s.calls⟩
  | arrival {s : Recorded} (c : Unstructured)
      (hnew : s.world.object? (Feature.hubStore .managedCluster) (c.metadata.name.getD "") = none)
      (earlier : Lifetime o s) : Lifetime o ⟨s.world.seed (Feature.hubStore .managedCluster) c, s.calls⟩

/-- When a managed cluster arrives the targets become more, and no other object is touched. -/
theorem World.Accounted.arrival (h : w.Accounted o targets) {c : Unstructured}
    (hnew : w.object? (Feature.hubStore .managedCluster) (c.metadata.name.getD "") = none) :
    (w.seed (Feature.hubStore .managedCluster) c).Accounted o fun f =>
      f.targetsIn (w.seed (Feature.hubStore .managedCluster) c) where
  versioned := h.versioned.seed _ _
  targetsIn _ := rfl
  fate r name live hlive := by
    by_cases hr : r = Feature.hubStore .managedCluster
    · exact .given (.inr ⟨_, List.mem_cons_self, hr⟩)
    · have hsame : (w.seed (Feature.hubStore .managedCluster) c).store r = w.store r := store_set_of_ne w _ hr
      rw [object?, hsame] at hlive
      refine (h.fate r name live hlive).mono fun f => ?_
      rw [← h.targetsIn f]
      refine Feature.targetsIn_subset fun other cluster hcluster => ?_
      have hother : other ≠ c.metadata.name.getD "" := by
        rintro rfl
        cases hnew.symm.trans hcluster
      rw [← hcluster]
      refine object?_set_of_ne w (fun key hkey => ?_) (.inr hother)
      exact Store.get?_put_of_ne (w.store (Feature.hubStore .managedCluster)) c hkey

namespace Lifetime

variable {s : Recorded}

/-- At any time it is known what becomes of each object. -/
theorem accounted (h : Lifetime o s) : ∃ targets, s.world.Accounted o targets := by
  induction h with
  | @start w hbuilt hgiven =>
    exact ⟨fun f => f.targetsIn w, hbuilt.versioned, fun _ => rfl, fun r name live hlive =>
      .given (hgiven r name (by rw [hlive]; exact Option.some_ne_none _))⟩
  | pass p faults howner _ ih =>
    subst howner
    obtain ⟨targets, hs⟩ := ih
    exact ⟨targets, p.preserves_accounted_apply faults _ hs⟩
  | edit search _ ih =>
    obtain ⟨targets, hs⟩ := ih
    exact ⟨targets, hs.of_search (hs.versioned.seed _ _) fun r hr => store_set_of_ne _ _ hr⟩
  | arrival c hnew _ ih =>
    obtain ⟨targets, hs⟩ := ih
    exact ⟨_, hs.arrival hnew⟩

theorem sparesGiven (h : Lifetime o s) : ∀ call ∈ s.calls, call.1.SparesGiven o := by
  induction h with
  | start => exact fun _ hcall => absurd hcall List.not_mem_nil
  | pass p faults _ _ ih => exact p.makes_sparesGiven_apply.preserves_calls faults _ ih
  | edit _ _ ih => exact ih
  | arrival _ _ _ ih => exact ih

/-- Once the cleanup after a Search has succeeded, an object that its passes created and that is still there stands in
the namespace of the Search and refers to it as its controller, or it is the claim on the storage of the database, which
refers to no owner. -/
theorem controlled_or_storage (h : Lifetime o s) {p : Pass} (howner : p.owner = o) {faults : Faults} {t : Recorded}
    (hcleanup : s.run faults p.cleanup = (.ok (), t)) {r : StoreRef} {name : String} (hcreated : s.Created r name)
    {live : r.kind.Object} (hlive : t.world.object? r name = some live) :
    r.inNamespace = some o.inNamespace ∧ o.Controls (r.kind.metadata live) ∨
      o.IsStoragePlace r name ∧ (r.kind.metadata live).ownerReferences = none := by
  subst howner
  obtain ⟨targets, haccounted⟩ := h.accounted
  obtain ⟨hremoved, hgone⟩ := p.run_cleanup_removes faults s
  rw [hcleanup] at hremoved hgone
  have hbefore := hremoved.object?_eq_some hlive
  -- what the cleanup is to take away is gone
  have hstays : ¬s.world.Doomed p.owner r name := fun hdoomed => nomatch hlive.symm.trans (hgone rfl r name hdoomed)
  rcases haccounted.fate r name live hbefore with hstore | ⟨hstore, hcontrols⟩ | ⟨hplace, hrefs⟩ | ⟨hplace, howns⟩ |
    ⟨f, hplace⟩
  · obtain ⟨call, hcall, -, hplace⟩ := hcreated
    exact absurd hstore (h.sparesGiven call hcall _ hplace)
  · exact .inl ⟨hstore, hcontrols⟩
  · exact .inr ⟨hplace, hrefs⟩
  · exact absurd (.inr ⟨hplace, live, hbefore, howns⟩) hstays
  · rw [← haccounted.targetsIn f] at hplace
    exact absurd (.inl ⟨f, hplace⟩) hstays

/-! ### A Search whose global search was switched on in part -/

/-- The stores after a pass that could not give global search all of its resources. -/
def partialPass : Recorded :=
  ((⟨Feature.searchHub, []⟩ : Recorded).run (fun n => if n = 29 then some (.other "refused") else none)
    Pass.samplePass.apply).2

theorem lifetime_partialPass : Lifetime Feature.sampleOwner partialPass := by
  have hempty : ({} : World).OnlyGiven Feature.sampleOwner := fun _ _ hne => absurd rfl hne
  have hhub : Feature.sampleHub.OnlyGiven Feature.sampleOwner :=
    ((hempty.seed (.inr ⟨.managedCluster, by decide, rfl⟩) _).seed (.inr ⟨.multiClusterEngine, by decide, rfl⟩) _).seed
      (.inr ⟨.clusterManagementAddOn, by decide, rfl⟩) _
  exact .pass Pass.samplePass _ rfl (.start (.seed _ _ Feature.built_sampleHub) (hhub.seed (.inl rfl) _))

/-- The resource that global search got is gone, and the service account goes with the Search. -/
theorem controlled_or_storage_partialPass :
    ∃ t live, partialPass.run (fun _ => none) Pass.samplePass.cleanup = (.ok (), t) ∧
      partialPass.Created ⟨.unstructured .managedServiceAccount, some "east"⟩ "search-global" ∧
      t.world.object? ⟨.unstructured .managedServiceAccount, some "east"⟩ "search-global" = none ∧
      partialPass.Created ⟨.serviceAccount, some "acm"⟩ Desired.serviceAccountName ∧
      t.world.object? ⟨.serviceAccount, some "acm"⟩ Desired.serviceAccountName = some live ∧
      Feature.sampleOwner.Controls live.metadata := by
  let t := (partialPass.run (fun _ => none) Pass.samplePass.cleanup).2
  obtain ⟨⟨⟩, hok⟩ := exists_ok_of_isOk (r := (partialPass.run (fun _ => none) Pass.samplePass.cleanup).1)
    (by decide +kernel)
  have hcleanup : partialPass.run (fun _ => none) Pass.samplePass.cleanup = (.ok (), t) := Prod.ext hok rfl
  have hcreated : partialPass.Created ⟨.serviceAccount, some "acm"⟩ Desired.serviceAccountName := by decide +kernel
  have hthere : (t.world.object? ⟨.serviceAccount, some "acm"⟩ Desired.serviceAccountName).isSome = true := by
    decide +kernel
  obtain ⟨live, hlive⟩ := Option.isSome_iff_exists.1 hthere
  refine ⟨t, live, hcleanup, by decide +kernel, by decide +kernel, hcreated, hlive, ?_⟩
  rcases controlled_or_storage lifetime_partialPass rfl hcleanup hcreated hlive with ⟨-, hcontrols⟩ | ⟨hplace, -⟩
  · exact hcontrols
  · cases hplace.1

end Lifetime

end HubSearch
