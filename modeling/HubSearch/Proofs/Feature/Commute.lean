/-
Two features, one after the other, in either order. The work on a feature depends on its prerequisites, the managed
clusters, its own condition, and on what stands in the places of its own resources, which the other feature does not
touch. So the order does not matter, up to the versions of the objects and the instants of the conditions. Main
statement: `features_commute`. Only the reason can differ why an object could not be updated that carries another name
than the one it stands under (`order_matters_to_misnamed`).
-/
import HubSearch.Proofs.Condition.History
import HubSearch.Proofs.Feature.FanOut
import HubSearch.Proofs.Sync.Version

namespace HubSearch

open World

/-! ## Conditions without their instants -/

namespace Condition

/-- A condition without the instant at which its status last changed. -/
def timeless (c : Condition) : Condition := { c with lastTransitionTime := default }

theorem timeless_eq_of_agrees {c d : Condition} (htype : c.type = d.type) (h : c.agrees d = true) :
    c.timeless = d.timeless := by
  obtain ⟨hstatus, hreason, hmessage, hgeneration⟩ := agrees_iff.1 h
  rw [timeless, timeless, htype, hstatus, hreason, hmessage, hgeneration]

theorem nodup_upsert {cs : List Condition} (h : (cs.map (·.type)).Nodup) (new : Condition) :
    ((upsert new cs).map (·.type)).Nodup := by
  cases hfind : find? new.type cs with
  | none =>
    rw [upsert_of_find?_eq_none hfind, List.map_append]
    refine List.nodup_append.2 ⟨h, List.nodup_singleton _, fun type htype type' htype' => ?_⟩
    rw [List.mem_singleton.1 htype']
    rintro rfl
    exact find?_eq_none_iff.1 hfind htype
  | some entry =>
    rw [(upsert_of_find? hfind).2]
    exact h

theorem nodup_remove {cs : List Condition} (h : (cs.map (·.type)).Nodup) (type : String) :
    ((remove type cs).map (·.type)).Nodup := by
  rw [map_type_remove]
  exact h.filter _

/-- When types are distinct the conditions are told by their types, up to their order. -/
theorem map_timeless_perm {cs cs' : List Condition} (h : (cs.map (·.type)).Nodup) (h' : (cs'.map (·.type)).Nodup)
    (hsame : ∀ type, (find? type cs').map timeless = (find? type cs).map timeless) :
    (cs'.map timeless).Perm (cs.map timeless) := by
  have hmem : ∀ {cs : List Condition} {d : Condition}, (cs.map (·.type)).Nodup →
      (d ∈ cs.map timeless ↔ (find? d.type cs).map timeless = some d) := by
    intro cs d hcs
    constructor
    · intro hd
      obtain ⟨c, hc, rfl⟩ := List.mem_map.1 hd
      have hfind : find? c.timeless.type cs = some c := find?_of_mem hcs hc
      rw [hfind, Option.map_some]
    · intro hd
      obtain ⟨c, hc, rfl⟩ := Option.map_eq_some_iff.1 hd
      exact List.mem_map_of_mem (List.mem_of_find?_eq_some hc)
  have hnodup : ∀ {cs : List Condition}, (cs.map (·.type)).Nodup → (cs.map timeless).Nodup := by
    intro cs hcs
    have htypes : (cs.map timeless).map (·.type) = cs.map (·.type) := by
      rw [List.map_map]
      rfl
    exact List.Nodup.of_map (·.type) (htypes ▸ hcs)
  refine (List.perm_ext_iff_of_nodup (hnodup h') (hnodup h)).2 fun d => ?_
  rw [hmem h', hmem h, hsame]

end Condition

theorem SearchStatus.timeless_condition?_upsert (status : SearchStatus) (new : Condition) :
    ((status.upsert new).1.condition? new.type).map Condition.timeless = some new.timeless := by
  obtain ⟨c, hc, hagrees⟩ := status.condition?_upsert_self new
  rw [hc, Option.map_some, Condition.timeless_eq_of_agrees (Condition.type_of_find? hc) hagrees]

namespace Feature

variable {f g : Feature} {owner : Owner} {start w v w' v' : World}

/-! ## Worlds that are the same for a feature -/

/-- Where features look without writing. -/
def IsHubStore (r : StoreRef) : Prop := IsPrerequisiteStore r ∨ r = hubStore .managedCluster

theorem IsHubStore.kind_ne {r : StoreRef} (h : IsHubStore r) : ∀ k ∈ resourceKinds, r.kind ≠ .unstructured k := by
  rcases h with (rfl | rfl) | rfl <;> decide

theorem IsHubStore.ne_store {r : StoreRef} (h : IsHubStore r) {t : Target} {x : FeatureResource}
    (hx : x ∈ f.resources t owner) : r ≠ x.store := fun heq =>
  h.kind_ne x.kind (kind_of_mem_resources hx) (congrArg StoreRef.kind heq)

/-- The worlds are the same in all that the work on a feature depends on, up to the versions of objects. Its targets are
those it had at the start, and what carried its own name in the place of a resource then does so still. -/
structure SameWork (f : Feature) (owner : Owner) (start w v : World) : Prop where
  versioned : w.Versioned
  versioned' : v.Versioned
  hub : ∀ r, IsHubStore r → v.store r = w.store r
  blocks : ∀ r name, v.blocks r name = w.blocks r name
  contents : ∀ t, ∀ x ∈ f.resources t owner, v.content? x.store x.name = w.content? x.store x.name
  targets : f.targetsIn w = f.targetsIn start
  carried : ∀ t, ∀ x ∈ f.resources t owner, start.NamedAt x.store x.name → w.NamedAt x.store x.name

namespace SameWork

/-- Reads do not matter. -/
theorem onlyRead (h : f.SameWork owner start w v) (hw : w.OnlyRead w') (hv : v.OnlyRead v') :
    f.SameWork owner start w' v' where
  versioned := h.versioned.congr hw.store
  versioned' := h.versioned'.congr hv.store
  hub r hr := by rw [hv.store, hw.store, h.hub r hr]
  blocks r name := by rw [hv.blocks_eq, hw.blocks_eq, h.blocks]
  contents t x hx := by
    rw [content?_congr (object?_congr hv.store _ _), content?_congr (object?_congr hw.store _ _), h.contents t x hx]
  targets := (targetsIn_congr (congrFun hw.store _)).trans h.targets
  carried t x hx hn live hlive := h.carried t x hx hn live ((object?_congr hw.store _ _).symm.trans hlive)

/-- When the same is made of one resource in both worlds they stay the same. -/
theorem changedAt (h : f.SameWork owner start w v) {t : Target} {x : FeatureResource} (hx : x ∈ f.resources t owner)
    (hw : w.ChangedAt x.store x.name w') (hv : v.ChangedAt x.store x.name v')
    (hsame : v'.content? x.store x.name = w'.content? x.store x.name)
    (hname : start.NamedAt x.store x.name → w'.NamedAt x.store x.name) : f.SameWork owner start w' v' where
  versioned := hw.versioned
  versioned' := hv.versioned
  hub r hr := by rw [hv.store r (hr.ne_store hx), hw.store r (hr.ne_store hx), h.hub r hr]
  blocks r name := by rw [hv.blocks, hw.blocks, h.blocks]
  contents u y hy := by
    by_cases hplace : y.store = x.store ∧ y.name = x.name
    · rw [(eq_of_same_place hx hy hplace.1 hplace.2).2]
      exact hsame
    · have hne := Decidable.not_and_iff_or_not.1 hplace
      rw [content?_congr (hv.object _ _ hne), content?_congr (hw.object _ _ hne), h.contents u y hy]
  targets := (targetsIn_congr (hw.store _ (IsHubStore.ne_store (.inr rfl) hx))).trans h.targets
  carried u y hy := by
    by_cases hplace : y.store = x.store ∧ y.name = x.name
    · rw [(eq_of_same_place hx hy hplace.1 hplace.2).2]
      exact hname
    · intro hn live hlive
      rw [hw.object _ _ (Decidable.not_and_iff_or_not.1 hplace)] at hlive
      exact h.carried u y hy hn live hlive

end SameWork

/-! ## The same work -/

theorem twin_survey (f : Feature) : f.survey.run.Twin World.answer (f.SameWork owner start) := by
  have hmakes : f.survey.run.Makes fun c => c.isWrite = false ∧ IsHubStore c.store := by
    refine (f.makes_validate.mono fun _ hc => ⟨hc.1, .inl hc.2⟩).work_bind fun _ => ?_
    cases f with
    | fineGrainedRbac => exact Plan.makes_pure _
    | _ => exact Plan.Makes.work_bind (Plan.makes_ask ⟨rfl, .inr rfl⟩) fun _ => Plan.makes_pure _
  refine hmakes.twin fun w v c hc h => ⟨?_, h.onlyRead (.answer w hc.1) (.answer v hc.1)⟩
  have hstore := h.hub c.store hc.2
  cases c with
  | fetch r name => exact congrArg (fun s : Store r.kind => Except.ok (s.objects.get? name)) hstore
  | fetchAll r => exact congrArg (fun s : Store r.kind => Except.ok s.objects.values) hstore
  | _ => cases hc.1

/-- Failures in one target that differ in why an object could not be updated. -/
def RefusedUpdate (f : Feature) (owner : Owner) (start : World) (t : Target) (e e' : OperatorError) : Prop :=
  ∃ x ∈ f.resources t owner, start.RefusedUpdate x.wanted e e'

theorem twinUpTo_sync {t : Target} {x : FeatureResource} (hx : x ∈ f.resources t owner) :
    (sync x.store x.object).TwinUpTo World.answer (f.SameWork owner start) (f.RefusedUpdate owner start t) := by
  intro w v h
  have hname : (x.wanted.store.kind.metadata x.wanted.object).name = some x.wanted.name :=
    metadata_name_of_mem_resources hx
  have hplace := name_wanted_of_mem_resources hx
  have hcontent : v.content? x.wanted.store x.wanted.name = w.content? x.wanted.store x.wanted.name := by
    rw [hplace]
    exact h.contents t x hx
  have hcarried : start.NamedAt x.wanted.store x.wanted.name → w.NamedAt x.wanted.store x.wanted.name := by
    rw [hplace]
    exact h.carried t x hx
  obtain ⟨hresult, hafter⟩ := run_sync_alike h.versioned h.versioned' hname (h.blocks _ _) hcontent
  have hw := changedAt_run_sync h.versioned x.wanted
  have hv := changedAt_run_sync h.versioned' x.wanted
  have hcarried' := fun hn => namedAt_run_sync h.versioned hname (hcarried hn)
  refine ⟨hresult.imp_right ?_, ?_⟩
  · rintro ⟨e, e', he, he', hmisnamed, hreasons⟩
    exact ⟨e, e', he, he', x, hx, fun hn => hmisnamed (hcarried hn), hreasons⟩
  · rw [hplace] at hafter hw hv hcarried'
    exact h.changedAt hx hw hv hafter hcarried'

theorem twin_ensureDeleted {t : Target} {x : FeatureResource} (hx : x ∈ f.resources t owner) :
    (ensureDeleted x.store x.kind.api.kind x.name).run.Twin World.answer (f.SameWork owner start) := by
  intro w v h
  obtain ⟨hresult, hafter⟩ := run_ensureDeleted_alike x.kind.api.kind (h.blocks x.store x.name) (h.contents t x hx)
  have hw := changedAt_run_ensureDeleted h.versioned x.store x.kind.api.kind x.name
  have hv := changedAt_run_ensureDeleted h.versioned' x.store x.kind.api.kind x.name
  refine ⟨hresult, h.changedAt hx hw hv hafter fun hn live hlive => ?_⟩
  exact h.carried t x hx hn live (object?_of_run_ensureDeleted hlive)

theorem twinUpTo_applyTarget (t : Target) :
    (f.applyTarget owner t).TwinUpTo World.answer (f.SameWork owner start) (f.RefusedUpdate owner start t) :=
  Work.twinUpTo_forM fun _ hx => (twinUpTo_sync hx).bind fun _ => (Plan.twin_pure (.ok ())).upTo

theorem twin_deleteTarget (t : Target) :
    (f.deleteTarget owner t).run.Twin World.answer (f.SameWork owner start) :=
  Plan.twin_forM fun _ hx => (twin_ensureDeleted hx).work_bind fun _ => Plan.twin_pure _

/-- Failures of a feature that differ only in why objects could not be updated that carry other names than the ones they
stand under. -/
def MayDiffer (f : Feature) (owner : Owner) (start : World) (e e' : OperatorError) : Prop :=
  ∃ causes causes', e = .aggregate causes ∧ e' = .aggregate causes' ∧
    List.Forall₂ (SameCause f.labels (f.targetsIn start) (f.RefusedUpdate owner start)) causes causes'

theorem sameUpTo_toResult {failures failures' : Failures}
    (h : List.Forall₂ (SameCause f.labels (f.targetsIn start) (f.RefusedUpdate owner start)) failures failures') :
    SameUpTo (f.MayDiffer owner start) failures.toResult failures'.toResult := by
  cases h with
  | nil => exact .inl rfl
  | cons hcause hrest => exact .inr ⟨_, _, rfl, rfl, _, _, rfl, rfl, .cons hcause hrest⟩

/-- Where all objects in the places of the resources carry their names, no failures differ. -/
theorem eq_of_sameUpTo {α : Type} {x y : Except OperatorError α}
    (hnamed : ∀ t ∈ f.targetsIn start, ∀ r ∈ f.resources t owner, start.NamedAt r.store r.name)
    (h : SameUpTo (f.MayDiffer owner start) x y) : y = x := by
  rcases h with hsame | ⟨_, _, rfl, rfl, causes, causes', rfl, rfl, hcauses⟩
  · exact hsame
  · have hsame : List.Forall₂ (fun c c' => c = c') causes causes' := by
      refine hcauses.imp fun c c' hc => ?_
      rcases hc with rfl | ⟨t, ht, _, _, -, -, r, hr, hmisnamed, -⟩
      · rfl
      · rw [name_wanted_of_mem_resources hr] at hmisnamed
        exact absurd (hnamed t ht r hr) hmisnamed
    rw [List.forall₂_eq_eq_eq] at hsame
    rw [hsame]

theorem twinUpTo_applyAll : (f.applyAll owner (f.targetsIn start)).TwinUpTo World.answer (f.SameWork owner start)
    (f.MayDiffer owner start) := by
  intro w v h
  obtain ⟨hfailures, hstate⟩ := Work.TwinUpTo.attemptEach f.labels (fun t _ => twinUpTo_applyTarget t) w v h
  rw [run_applyAll_of_answer, run_applyAll_of_answer]
  exact ⟨(sameUpTo_toResult hfailures).map _, hstate⟩

theorem twinUpTo_enable (f : Feature) :
    (f.enable owner).TwinUpTo World.answer (f.SameWork owner start) (f.MayDiffer owner start) := by
  intro w v h
  obtain ⟨hresult, hstate⟩ := f.twin_survey w v h
  cases hw : f.survey.run.run World.answer w with
  | mk result u =>
    cases hv : f.survey.run.run World.answer v with
    | mk result' u' =>
      rw [hw, hv] at hresult hstate
      obtain rfl : result' = result := hresult
      rw [enable_eq]
      cases result' with
      | error e =>
        rw [Work.run_bind_of_error hw, Work.run_bind_of_error hv]
        exact ⟨.inl rfl, hstate⟩
      | ok seen =>
        obtain rfl : seen = f.targetsIn start := by
          have hrecorded := (Recorded.run_none f.survey.run ⟨w, []⟩).1.trans (congrArg Prod.fst hw)
          exact (targetsIn_of_run_survey (Prod.ext hrecorded rfl)).trans h.targets
        rw [Work.run_bind_of_ok hw, Work.run_bind_of_ok hv]
        exact twinUpTo_applyAll u u' hstate

theorem twin_disable (f : Feature) : (f.disable owner).run.Twin World.answer (f.SameWork owner start) := by
  intro w v h
  obtain ⟨u, hu, hread⟩ := f.run_targets w
  obtain ⟨u', hu', hread'⟩ := f.run_targets v
  rw [targetsIn_congr (h.hub _ (.inr rfl))] at hu'
  have hdelete : (Work.attemptEach f.labels (f.deleteTarget owner) (f.targetsIn w)).Twin World.answer
      (f.SameWork owner start) := Plan.twin_attemptEach fun t _ => twin_deleteTarget t
  obtain ⟨hfailures, hstate⟩ := hdelete u u' (h.onlyRead hread hread')
  rw [f.run_disable_of_targets owner hu, f.run_disable_of_targets owner hu', hfailures]
  exact ⟨rfl, hstate⟩

/-! ## Moving one feature -/

/-- The status after an attempt to bring a feature to its place: that of the attempt, or as before when it failed. -/
def statusAfter (status : SearchStatus) : Except OperatorError (SearchStatus × Option Transition) → SearchStatus
  | .ok (after, _) => after
  | .error _ => status

/-- Bring a feature to where its toggle wants it: what is given back, and the status and the stores afterwards. -/
def moved (f : Feature) (owner : Owner) (now : Timestamp) (generation : Int64) (isOn : Bool)
    (s : SearchStatus × World) : Except OperatorError (Option Transition) × SearchStatus × World :=
  let r := s.2.run (f.reconcile owner now generation isOn s.1).run
  (r.1.map (·.2), statusAfter s.1 r.1, r.2)

variable {s s' : SearchStatus × World} {now : Timestamp} {generation : Int64} {isOn : Bool}

theorem moved_of_run {result : Except OperatorError (SearchStatus × Option Transition)}
    (h : s.2.run (f.reconcile owner now generation isOn s.1).run = (result, w)) :
    f.moved owner now generation isOn s = (result.map (·.2), statusAfter s.1 result, w) := by
  rw [moved, h]

theorem moved_on_of_ok {n : Nat} (h : s.2.run (f.enable owner).run = (.ok n, w)) :
    f.moved owner now generation true s = (.ok ((f.state s.1).next true).2,
      (s.1.upsert (f.enabledCondition now generation n)).1, w) := by
  have hrun : s.2.run (f.reconcile owner now generation true s.1).run = _ := Work.run_bind_of_ok h _
  have hnext := congrArg Prod.snd (@reconcile_on_follows_next f now generation s.1 n)
  rw [moved_of_run hrun, ← hnext]
  rfl

theorem moved_on_of_error {e : OperatorError} (h : s.2.run (f.enable owner).run = (.error e, w)) :
    f.moved owner now generation true s = (.error e, s.1, w) := by
  have hrun : s.2.run (f.reconcile owner now generation true s.1).run = (.error e, w) := Work.run_bind_of_error h _
  exact moved_of_run hrun

theorem moved_off_of_ok (hs : f.state s.1 = .enabled) (h : s.2.run (f.disable owner).run = (.ok (), w)) :
    f.moved owner now generation false s =
      (.ok (some .disabled), (s.1.upsert (f.disabledCondition now generation)).1, w) := by
  rw [moved, reconcile_off_of_enabled hs, run_work_bind_ok h]
  rfl

theorem moved_off_of_error (hs : f.state s.1 = .enabled) {e : OperatorError}
    (h : s.2.run (f.disable owner).run = (.error e, w)) :
    f.moved owner now generation false s = (.error e, s.1, w) := by
  have hrun : s.2.run (f.reconcile owner now generation false s.1).run = (.error e, w) := by
    rw [reconcile_off_of_enabled hs]
    exact Work.run_bind_of_error h _
  exact moved_of_run hrun

theorem moved_off_of_inactive (hs : f.state s.1 = .inactive) : f.moved owner now generation false s =
    (.ok (some .cleared), (s.1.remove f.conditionType).1, s.2) := by
  rw [moved, reconcile_off_of_inactive hs]
  rfl

theorem moved_off_of_rest (hs : f.state s.1 = .unset ∨ f.state s.1 = .disabled) :
    f.moved owner now generation false s = (.ok none, s) := by
  rw [moved, reconcile_off_of_unset_or_disabled hs]
  rfl

/-- Moving the feature came to the same in two places: the same is given back, the condition says the same, and the same
work is left to do. -/
structure MovedAlike (f : Feature) (owner : Owner) (start : World)
    (a a' : Except OperatorError (Option Transition) × SearchStatus × World) : Prop where
  result : SameUpTo (f.MayDiffer owner start) a.1 a'.1
  condition : (a'.2.1.condition? f.conditionType).map Condition.timeless =
    (a.2.1.condition? f.conditionType).map Condition.timeless
  work : f.SameWork owner start a.2.2 a'.2.2

theorem moved_on_alike (h : f.SameWork owner start s.2 s'.2)
    (hcondition : s'.1.condition? f.conditionType = s.1.condition? f.conditionType) (now now' : Timestamp) :
    f.MovedAlike owner start (f.moved owner now generation true s) (f.moved owner now' generation true s') := by
  have hstate : f.state s'.1 = f.state s.1 := congrArg FeatureState.ofCondition hcondition
  cases hw : s.2.run (f.enable owner).run with
  | mk result w =>
    cases hv : s'.2.run (f.enable owner).run with
    | mk result' v =>
      obtain ⟨hresult, hafter⟩ : SameUpTo (f.MayDiffer owner start) result result' ∧
          f.SameWork owner start w v := by
        have htwin := f.twinUpTo_enable s.2 s'.2 h
        rwa [← World.run, ← World.run, hw, hv] at htwin
      rcases hresult with rfl | ⟨e, e', rfl, rfl, hlabels⟩
      · cases result' with
        | ok n =>
          rw [moved_on_of_ok hw, moved_on_of_ok hv, hstate]
          refine ⟨.inl rfl, ?_, hafter⟩
          have hon := s.1.timeless_condition?_upsert (f.enabledCondition now generation n)
          have hon' := s'.1.timeless_condition?_upsert (f.enabledCondition now' generation n)
          exact hon'.trans hon.symm
        | error e =>
          rw [moved_on_of_error hw, moved_on_of_error hv]
          exact ⟨.inl rfl, congrArg _ hcondition, hafter⟩
      · rw [moved_on_of_error hw, moved_on_of_error hv]
        exact ⟨.inr ⟨e, e', rfl, rfl, hlabels⟩, congrArg _ hcondition, hafter⟩

theorem moved_off_alike (h : f.SameWork owner start s.2 s'.2)
    (hcondition : s'.1.condition? f.conditionType = s.1.condition? f.conditionType) (now now' : Timestamp) :
    f.MovedAlike owner start (f.moved owner now generation false s) (f.moved owner now' generation false s') := by
  have hstate : f.state s'.1 = f.state s.1 := congrArg FeatureState.ofCondition hcondition
  by_cases henabled : f.state s.1 = .enabled
  · cases hw : s.2.run (f.disable owner).run with
    | mk result w =>
      cases hv : s'.2.run (f.disable owner).run with
      | mk result' v =>
        obtain ⟨rfl, hafter⟩ : result' = result ∧ f.SameWork owner start w v := by
          have htwin := f.twin_disable s.2 s'.2 h
          rwa [← World.run, ← World.run, hw, hv] at htwin
        cases result' with
        | ok =>
          rw [moved_off_of_ok henabled hw, moved_off_of_ok (hstate.trans henabled) hv]
          refine ⟨.inl rfl, ?_, hafter⟩
          have hoff := s.1.timeless_condition?_upsert (f.disabledCondition now generation)
          have hoff' := s'.1.timeless_condition?_upsert (f.disabledCondition now' generation)
          exact hoff'.trans hoff.symm
        | error e =>
          rw [moved_off_of_error henabled hw, moved_off_of_error (hstate.trans henabled) hv]
          exact ⟨.inl rfl, congrArg _ hcondition, hafter⟩
  · by_cases hinactive : f.state s.1 = .inactive
    · rw [moved_off_of_inactive hinactive, moved_off_of_inactive (hstate.trans hinactive)]
      refine ⟨.inl rfl, ?_, h⟩
      rw [SearchStatus.condition?_remove_self, SearchStatus.condition?_remove_self]
    · have hrest : f.state s.1 = .unset ∨ f.state s.1 = .disabled := by
        cases hs : f.state s.1 with
        | unset => exact .inl rfl
        | disabled => exact .inr rfl
        | enabled => exact absurd hs henabled
        | inactive => exact absurd hs hinactive
      rw [moved_off_of_rest hrest, moved_off_of_rest (hstate ▸ hrest)]
      exact ⟨.inl rfl, congrArg _ hcondition, h⟩

theorem moved_alike (h : f.SameWork owner start s.2 s'.2)
    (hcondition : s'.1.condition? f.conditionType = s.1.condition? f.conditionType) (now now' : Timestamp) :
    f.MovedAlike owner start (f.moved owner now generation isOn s) (f.moved owner now' generation isOn s') := by
  cases isOn with
  | true => exact moved_on_alike h hcondition now now'
  | false => exact moved_off_alike h hcondition now now'

/-! ## Moving another feature -/

theorem marks_moved (f : Feature) (owner : Owner) (now : Timestamp) (generation : Int64) (isOn : Bool)
    (s : SearchStatus × World) : f.Marks s.1 (f.moved owner now generation isOn s).2.1 := by
  cases hrun : s.2.run (f.reconcile owner now generation isOn s.1).run with
  | mk result v =>
    rw [moved_of_run hrun]
    cases result with
    | ok outcome => exact marks_of_run_reconcile hrun
    | error e => exact .same

theorem Marks.nodup {status after : SearchStatus} (h : f.Marks status after)
    (hnodup : (status.conditionList.map (·.type)).Nodup) : (after.conditionList.map (·.type)).Nodup := by
  cases h with
  | same => exact hnodup
  | @set c =>
    rw [SearchStatus.conditionList_upsert]
    exact Condition.nodup_upsert hnodup c
  | drop =>
    rw [SearchStatus.conditionList_remove]
    exact Condition.nodup_remove hnodup _

theorem nodup_moved (hnodup : (s.1.conditionList.map (·.type)).Nodup) :
    ((f.moved owner now generation isOn s).2.1.conditionList.map (·.type)).Nodup :=
  (f.marks_moved owner now generation isOn s).nodup hnodup

theorem versioned_moved (hw : s.2.Versioned) : (f.moved owner now generation isOn s).2.2.Versioned :=
  Plan.keeps_versioned _ s.2 hw

/-- Nothing is made, changed or removed in the places of the resources of a feature, in any managed cluster or on the
hub. -/
def Spared (f : Feature) (owner : Owner) (w v : World) : Prop :=
  ∀ t, ∀ x ∈ f.resources t owner, v.object? x.store x.name = w.object? x.store x.name

theorem spared_moved (hfg : g ≠ f) (hw : s.2.Versioned) :
    g.Spared owner s.2 (f.moved owner now generation isOn s).2.2 := fun _ _ hx =>
  object?_run_reconcile_of_apart hw fun _ _ hy => apart_of_mem_resources hfg hy hx

theorem condition?_moved_of_ne {type : String} (htype : type ≠ f.conditionType) :
    (f.moved owner now generation isOn s).2.1.condition? type = s.1.condition? type :=
  (f.marks_moved owner now generation isOn s).condition?_of_ne htype

/-- Moving another feature leaves all work on this one. -/
theorem sameWork_moved (hfg : g ≠ f) (hw : s.2.Versioned) :
    g.SameWork owner s.2 s.2 (f.moved owner now generation isOn s).2.2 where
  versioned := hw
  versioned' := versioned_moved hw
  hub _ hr := f.store_run_reconcile owner now generation isOn s.1 s.2 hr.kind_ne
  blocks := s.2.blocks_run _
  contents t x hx := content?_congr (spared_moved hfg hw t x hx)
  targets := rfl
  carried _ _ _ hn := hn

/-! ## In either order -/

/-- What a feature comes to does not depend on whether another one is moved before it or after it. -/
theorem moved_both_alike (hfg : g ≠ f) (hw : s.2.Versioned) (isOn' : Bool) (now₁ now₂ now₃ now₄ : Timestamp) :
    let a := f.moved owner now₁ generation isOn s
    let b := g.moved owner now₂ generation isOn' a.2
    let b' := g.moved owner now₃ generation isOn' s
    let a' := f.moved owner now₄ generation isOn b'.2
    SameUpTo (f.MayDiffer owner s.2) a.1 a'.1 ∧
    (a'.2.1.condition? f.conditionType).map Condition.timeless =
      (b.2.1.condition? f.conditionType).map Condition.timeless ∧
    ∀ t, ∀ x ∈ f.resources t owner, a'.2.2.content? x.store x.name = b.2.2.content? x.store x.name := by
  intro a b b' a'
  have htype : f.conditionType ≠ g.conditionType := fun h => hfg (conditionType_injective h).symm
  have halike : f.MovedAlike owner s.2 a a' :=
    moved_alike (sameWork_moved hfg.symm hw) (condition?_moved_of_ne htype) now₁ now₄
  refine ⟨halike.result, ?_, fun t x hx => ?_⟩
  · have hb : b.2.1.condition? f.conditionType = a.2.1.condition? f.conditionType := condition?_moved_of_ne htype
    rw [hb]
    exact halike.condition
  · have hb : b.2.2.object? x.store x.name = a.2.2.object? x.store x.name :=
      spared_moved hfg.symm halike.work.versioned t x hx
    rw [content?_congr hb]
    exact halike.work.contents t x hx

/-- Conditions of neither type stay. -/
theorem condition?_moved_both_of_ne {type : String} (hf : type ≠ f.conditionType) (hg : type ≠ g.conditionType)
    {now' : Timestamp} {isOn' : Bool} :
    (g.moved owner now' generation isOn' (f.moved owner now generation isOn s).2).2.1.condition? type =
      s.1.condition? type :=
  (condition?_moved_of_ne hg).trans (condition?_moved_of_ne hf)

/-- What is in the place of no resource of either feature stays. -/
theorem object?_moved_both_of_apart (hw : s.2.Versioned) {r : StoreRef} {name : String}
    (hf : ¬∃ t, ∃ x ∈ f.resources t owner, r = x.store ∧ name = x.name)
    (hg : ¬∃ t, ∃ x ∈ g.resources t owner, r = x.store ∧ name = x.name) {now' : Timestamp} {isOn' : Bool} :
    (g.moved owner now' generation isOn' (f.moved owner now generation isOn s).2).2.2.object? r name =
      s.2.object? r name := by
  have hf' : ∀ t, ∀ x ∈ f.resources t owner, r ≠ x.store ∨ name ≠ x.name := fun t x hx =>
    Decidable.not_and_iff_or_not.1 fun h => hf ⟨t, x, hx, h⟩
  have hg' : ∀ t, ∀ x ∈ g.resources t owner, r ≠ x.store ∨ name ≠ x.name := fun t x hx =>
    Decidable.not_and_iff_or_not.1 fun h => hg ⟨t, x, hx, h⟩
  have hfirst : (f.moved owner now generation isOn s).2.2.object? r name = s.2.object? r name :=
    object?_run_reconcile_of_apart hw hf'
  exact (object?_run_reconcile_of_apart (versioned_moved hw) hg').trans hfirst

/-- The order in which two features are brought to where their toggles want them does not matter, whatever writes are
made to fail. Each gives the same back, also when it fails; only why objects could not be updated that carry other names
than the ones they stand under may differ. The conditions say the same, and the same objects are stored, up to their
versions. Neither feature touches what stands in the places of the resources of the other one. -/
theorem features_commute (hfg : g ≠ f) (owner : Owner) (generation : Int64) (isOn isOn' : Bool)
    (now₁ now₂ now₃ now₄ : Timestamp) {s : SearchStatus × World} (hbuilt : s.2.Built)
    (hnodup : (s.1.conditionList.map (·.type)).Nodup) :
    let a := f.moved owner now₁ generation isOn s
    let b := g.moved owner now₂ generation isOn' a.2
    let b' := g.moved owner now₃ generation isOn' s
    let a' := f.moved owner now₄ generation isOn b'.2
    SameUpTo (f.MayDiffer owner s.2) a.1 a'.1 ∧
    SameUpTo (g.MayDiffer owner s.2) b'.1 b.1 ∧
    (∀ type, (a'.2.1.condition? type).map Condition.timeless = (b.2.1.condition? type).map Condition.timeless) ∧
    (a'.2.1.conditionList.map Condition.timeless).Perm (b.2.1.conditionList.map Condition.timeless) ∧
    (∀ r name, a'.2.2.content? r name = b.2.2.content? r name) ∧
    g.Spared owner s.2 a.2.2 ∧ f.Spared owner a.2.2 b.2.2 ∧ f.Spared owner s.2 b'.2.2 ∧
    g.Spared owner b'.2.2 a'.2.2 := by
  intro a b b' a'
  have hw := hbuilt.versioned
  -- what either feature comes to, once it and once the other one being the first
  obtain ⟨hresult, hcondition, hcontents⟩ :=
    @moved_both_alike f g owner s generation isOn hfg hw isOn' now₁ now₂ now₃ now₄
  obtain ⟨hresult', hcondition', hcontents'⟩ :=
    @moved_both_alike g f owner s generation isOn' hfg.symm hw isOn now₃ now₄ now₁ now₂
  have hconditions : ∀ type,
      (a'.2.1.condition? type).map Condition.timeless = (b.2.1.condition? type).map Condition.timeless := by
    intro type
    by_cases hf : type = f.conditionType
    · rw [hf]
      exact hcondition
    by_cases hg : type = g.conditionType
    · rw [hg]
      exact hcondition'.symm
    rw [condition?_moved_both_of_ne hg hf, condition?_moved_both_of_ne hf hg]
  refine ⟨hresult, hresult', hconditions,
    Condition.map_timeless_perm (nodup_moved (nodup_moved hnodup)) (nodup_moved (nodup_moved hnodup)) hconditions,
    fun r name => ?_, spared_moved hfg hw, spared_moved hfg.symm (versioned_moved hw), spared_moved hfg.symm hw,
    spared_moved hfg (versioned_moved hw)⟩
  by_cases hf : ∃ t, ∃ x ∈ f.resources t owner, r = x.store ∧ name = x.name
  · obtain ⟨t, x, hx, rfl, rfl⟩ := hf
    exact hcontents t x hx
  by_cases hg : ∃ t, ∃ x ∈ g.resources t owner, r = x.store ∧ name = x.name
  · obtain ⟨t, x, hx, rfl, rfl⟩ := hg
    exact (hcontents' t x hx).symm
  have hfirst : b.2.2.object? r name = s.2.object? r name := object?_moved_both_of_apart hw hf hg
  have hsecond : a'.2.2.object? r name = s.2.object? r name := object?_moved_both_of_apart hw hg hf
  exact content?_congr (hsecond.trans hfirst.symm)

/-! ### Where objects are and are not renamed -/

/-- The service accounts in a managed cluster. -/
def accounts : StoreRef := ⟨.unstructured .managedServiceAccount, some "east"⟩

def account (name : String) (data : Json) : Unstructured :=
  .new UnstructuredKind.managedServiceAccount.api name (some "east") data

/-- The status of a Search that had virtual machine actions on. -/
def actionsStatus : SearchStatus :=
  (({} : SearchStatus).upsert (virtualMachineActions.enabledCondition default 1 1)).1

/-- A hub with an account for virtual machine actions, where none can be written for global search. -/
def actionsHub : World := (sampleHub.seed accounts (account "vm-actor" .null)).failName accounts "search-global"

/-- Global search fails, virtual machine actions are switched off, and both do so in either order. -/
theorem features_commute_actionsHub :
    let s := (actionsStatus, actionsHub)
    let a := globalSearch.moved sampleOwner { seconds := 1 } 1 true s
    let b := virtualMachineActions.moved sampleOwner { seconds := 2 } 1 false a.2
    let b' := virtualMachineActions.moved sampleOwner { seconds := 3 } 1 false s
    let a' := globalSearch.moved sampleOwner { seconds := 4 } 1 true b'.2
    s.2.Built ∧ (s.1.conditionList.map (·.type)).Nodup ∧
    a.1.isOk = false ∧ a'.1 = a.1 ∧ b.1.toOption = some (some .disabled) ∧ b'.1 = b.1 ∧
    (a'.2.1.conditionList.map Condition.timeless).Perm (b.2.1.conditionList.map Condition.timeless) ∧
    (∀ r name, a'.2.2.content? r name = b.2.2.content? r name) ∧
    (s.2.object? accounts "vm-actor").isSome = true ∧ a'.2.2.content? accounts "vm-actor" = none := by
  have hbuilt : actionsHub.Built := .failName _ _ (.seed _ _ built_sampleHub)
  have hnodup : (actionsStatus.conditionList.map (·.type)).Nodup := by decide
  intro s a b b' a'
  obtain ⟨hglobal, hactions, -, hconditions, hcontents, -⟩ :=
    features_commute (f := globalSearch) (g := virtualMachineActions) (by decide) sampleOwner 1 true false
      { seconds := 1 } { seconds := 2 } { seconds := 3 } { seconds := 4 } (s := s) hbuilt hnodup
  have hnamed : ∀ f ∈ all, ∀ t ∈ f.targetsIn actionsHub, ∀ r ∈ f.resources t sampleOwner,
      actionsHub.NamedAt r.store r.name := by
    decide +kernel
  exact ⟨hbuilt, hnodup, by decide +kernel, eq_of_sameUpTo (hnamed _ (by decide)) hglobal, by decide +kernel,
    (eq_of_sameUpTo (hnamed _ (by decide)) hactions).symm, hconditions, hcontents, by decide +kernel, by
      rw [hcontents]
      decide +kernel⟩

/-- There another account was renamed by a write of its status to the one for virtual machine actions. -/
def renamedHub : World :=
  let renamed : Json := .object [("metadata", .object [("name", .string "vm-actor")])]
  (answer ((sampleHub.seed accounts (account "vm-actor" .null)).seed accounts (account "search-global" renamed))
    (.writeStatus accounts "search-global" none (.object []))).2

/-- The text of a failure to update the account of global search. -/
def refusedText (reason : String) : String :=
  "1 error(s) occurred:\n\t* [GlobalSearch/east] failed to update ManagedServiceAccount `search-global`: " ++ reason

/-- The account of global search carries the name of the one for virtual machine actions. So its update is refused as
outdated while the other one is there, and for want of an object when virtual machine actions were switched off
before. -/
theorem order_matters_to_misnamed :
    let s := (actionsStatus, renamedHub)
    let first := globalSearch.moved sampleOwner default 1 true s
    let second := globalSearch.moved sampleOwner default 1 true
      (virtualMachineActions.moved sampleOwner default 1 false s).2
    s.2.Built ∧ (s.1.conditionList.map (·.type)).Nodup ∧ first.1 ≠ second.1 ∧
    first.1.mapError (·.message) = .error (refusedText "Conflict Error: ManagedServiceAccount `vm-actor`") ∧
    second.1.mapError (·.message) = .error (refusedText "Other Error: ManagedServiceAccount `vm-actor` not found") := by
  intro s first second
  have hfirst : first.1.mapError (·.message) =
      .error (refusedText "Conflict Error: ManagedServiceAccount `vm-actor`") := by
    decide +kernel
  have hsecond : second.1.mapError (·.message) =
      .error (refusedText "Other Error: ManagedServiceAccount `vm-actor` not found") := by
    decide +kernel
  refine ⟨.answer _ (.seed _ _ (.seed _ _ built_sampleHub)), by decide, fun heq => ?_, hfirst, hsecond⟩
  rw [heq, hsecond] at hfirst
  exact absurd hfirst (by decide +kernel)

end Feature

end HubSearch
