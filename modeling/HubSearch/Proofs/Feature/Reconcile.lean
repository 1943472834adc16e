/-
Bringing a feature to where its toggle wants it: which state its condition is in afterwards, and that the
condition then tells the truth. A feature is settled when nothing is left to do for it; it is settled after a
success (`settled_of_run_reconcile_ok`), stays so while other features are brought to their places
(`Unmoved.settled`), and costs no write then (`run_reconcile_of_settled`).
-/
import HubSearch.Proofs.Feature.Removal

namespace HubSearch.Feature

open World

variable {f g : Feature} {owner : Owner} {now : Timestamp} {generation : Int64} {isOn : Bool}
  {status after : SearchStatus} {change : Option Transition} {w v : World}

/-! ## States -/

theorem conditionType_injective : ∀ {f g : Feature}, f.conditionType = g.conditionType → f = g := by
  intro f g h
  cases f <;> cases g <;> first | rfl | exact absurd h (by decide)

/-- Conditions that agree stand for the same state. -/
theorem ofCondition_eq_of_agrees {c d : Condition} (h : c.agrees d = true) :
    FeatureState.ofCondition (some c) = FeatureState.ofCondition (some d) := by
  obtain ⟨hs, hr, -, -⟩ := Condition.agrees_iff.1 h
  rw [FeatureState.ofCondition, FeatureState.ofCondition, hs, hr]

theorem state_upsert_self {c : Condition} (hc : c.type = f.conditionType) :
    f.state (status.upsert c).1 = FeatureState.ofCondition (some c) := by
  obtain ⟨d, hd, ha⟩ := status.condition?_upsert_self c
  rw [state, ← hc, hd, ofCondition_eq_of_agrees ha]

theorem state_upsert_enabled (n : Nat) :
    f.state (status.upsert (f.enabledCondition now generation n)).1 = .enabled := by
  rw [state_upsert_self rfl]
  rfl

theorem state_upsert_disabled : f.state (status.upsert (f.disabledCondition now generation)).1 = .disabled := by
  rw [state_upsert_self rfl]
  rfl

theorem state_remove : f.state (status.remove f.conditionType).1 = .unset := by
  rw [state, status.condition?_remove_self]
  rfl

/-! ## Marks in a status -/

/-- A status in which at most the condition of the feature was set or dropped. -/
inductive Marks (f : Feature) (status : SearchStatus) : SearchStatus → Prop
  | same : f.Marks status status
  | set {c : Condition} (htype : c.type = f.conditionType) : f.Marks status (status.upsert c).1
  | drop : f.Marks status (status.remove f.conditionType).1

theorem Marks.remove_eq (h : f.Marks status after) :
    Condition.remove f.conditionType after.conditionList = Condition.remove f.conditionType status.conditionList := by
  cases h with
  | same => rfl
  | @set c htype => rw [← htype, SearchStatus.conditionList_upsert, Condition.remove_upsert]
  | drop => rw [SearchStatus.conditionList_remove, Condition.remove_remove]

/-- Conditions of other types stay as they are. -/
theorem Marks.condition?_of_ne (h : f.Marks status after) {type : String} (htype : type ≠ f.conditionType) :
    after.condition? type = status.condition? type := by
  rw [SearchStatus.condition?, ← Condition.find?_remove_of_ne htype, h.remove_eq, Condition.find?_remove_of_ne htype]
  rfl

/-- Whatever answers the calls, a feature that gets to its place marks the status. -/
theorem marks_of_run_reconcile {σ : Type} {answer : Plan.Answering σ} {s t : σ}
    (h : (f.reconcile owner now generation isOn status).run.run answer s = (.ok (after, change), t)) :
    f.Marks status after := by
  unfold reconcile at h
  split at h
  · rcases Work.run_bind_cases answer s (f.enable owner) _ with ⟨n, u, -, hr⟩ | ⟨e, u, -, hr⟩ <;>
      cases h.symm.trans hr
    exact .set rfl
  · split at h
    · cases h
      exact .same
    · cases h
      exact .same
    · rcases Work.run_bind_cases answer s (f.disable owner) _ with ⟨⟨⟩, u, -, hr⟩ | ⟨e, u, -, hr⟩ <;>
        cases h.symm.trans hr
      exact .set rfl
    · cases h
      exact .drop

/-! ## Runs -/

/-- A feature that is on is enabled, and its condition says so, or nothing but its resources changed. -/
theorem run_reconcile_on (f : Feature) (owner : Owner) (now : Timestamp) (generation : Int64)
    (status : SearchStatus) (w : World) :
    (∃ n v change, w.run (f.enable owner).run = (.ok n, v) ∧
      (f.state status = .enabled → change = none) ∧
      w.run (f.reconcile owner now generation true status).run =
        (.ok ((status.upsert (f.enabledCondition now generation n)).1, change), v)) ∨
      ∃ e v, w.run (f.enable owner).run = (.error e, v) ∧
        w.run (f.reconcile owner now generation true status).run = (.error e, v) := by
  rcases run_work_bind_cases w (f.enable owner) fun n =>
      let result := status.upsert (f.enabledCondition now generation n)
      (pure (result.1, if result.2 ∧ f.state status ≠ .enabled then some Transition.enabled else none) : Work _) with
    ⟨n, v, hv, hr⟩ | ⟨e, v, hv, hr⟩
  · refine .inl ⟨n, v, _, hv, fun hs => ?_, hr⟩
    rw [hs, if_neg fun h => h.2 rfl]
  · exact .inr ⟨e, v, hv, hr⟩

/-- A feature that is off is disabled if it was enabled; otherwise nothing is done to its resources. -/
theorem run_reconcile_off (f : Feature) (owner : Owner) (now : Timestamp) (generation : Int64)
    (status : SearchStatus) (w : World) :
    ((f.state status = .unset ∨ f.state status = .disabled) ∧
      w.run (f.reconcile owner now generation false status).run = (.ok (status, none), w)) ∨
    (f.state status = .inactive ∧
      w.run (f.reconcile owner now generation false status).run =
        (.ok ((status.remove f.conditionType).1, some .cleared), w)) ∨
    (f.state status = .enabled ∧
      ((∃ v, w.run (f.disable owner).run = (.ok (), v) ∧
        w.run (f.reconcile owner now generation false status).run =
          (.ok ((status.upsert (f.disabledCondition now generation)).1, some .disabled), v)) ∨
        ∃ e v, w.run (f.disable owner).run = (.error e, v) ∧
          w.run (f.reconcile owner now generation false status).run = (.error e, v))) := by
  unfold reconcile
  rw [if_neg Bool.false_ne_true]
  cases hs : f.state status with
  | unset => exact .inl ⟨.inl rfl, rfl⟩
  | disabled => exact .inl ⟨.inr rfl, rfl⟩
  | inactive => exact .inr (.inl ⟨rfl, rfl⟩)
  | enabled =>
    refine .inr (.inr ⟨rfl, ?_⟩)
    rcases run_work_bind_cases w (f.disable owner) fun _ =>
        (pure ((status.upsert (f.disabledCondition now generation)).1, some Transition.disabled) : Work _) with
      ⟨⟨⟩, v, hv, hr⟩ | ⟨e, v, hv, hr⟩
    · exact .inl ⟨v, hv, hr⟩
    · exact .inr ⟨e, v, hv, hr⟩

theorem keeps_reconcile {P : World → Prop} (henable : (f.enable owner).run.Keeps P)
    (hdisable : (f.disable owner).run.Keeps P) : (f.reconcile owner now generation isOn status).run.Keeps P := by
  unfold reconcile
  split
  · exact henable.work_bind fun _ => Plan.keeps_pure _
  · split
    · exact Plan.keeps_pure _
    · exact Plan.keeps_pure _
    · exact hdisable.work_bind fun _ => Plan.keeps_pure _
    · exact Plan.keeps_pure _

/-- What is in the place of none of the resources stays as it is. -/
theorem object?_run_reconcile_of_apart (hw : w.Versioned) {r : StoreRef} {name : String}
    (h : ∀ t, ∀ x ∈ f.resources t owner, r ≠ x.store ∨ name ≠ x.name) :
    (w.run (f.reconcile owner now generation isOn status).run).2.object? r name = w.object? r name := by
  have hkeep : (f.reconcile owner now generation isOn status).run.Keeps fun v =>
      v.Versioned ∧ v.object? r name = w.object? r name :=
    keeps_reconcile (keeps_enable_of_apart h) fun v hv =>
      ⟨Plan.keeps_versioned _ v hv.1, keeps_disable_of_apart h v hv.2⟩
  exact (hkeep w ⟨hw, rfl⟩).2

theorem makes_reconcile (f : Feature) (owner : Owner) (now : Timestamp) (generation : Int64) (isOn : Bool)
    (status : SearchStatus) : (f.reconcile owner now generation isOn status).run.Makes IsFeatureCall := by
  unfold reconcile
  split
  · exact (f.makes_enable owner).work_bind fun _ => Plan.makes_pure _
  · split
    · exact Plan.makes_pure _
    · exact Plan.makes_pure _
    · exact (f.makes_disable owner).work_bind fun _ => Plan.makes_pure _
    · exact Plan.makes_pure _

theorem reconcile_off_of_enabled (h : f.state status = .enabled) :
    f.reconcile owner now generation false status =
      (do f.disable owner; pure ((status.upsert (f.disabledCondition now generation)).1, some .disabled) : Work _) := by
  unfold reconcile
  rw [if_neg Bool.false_ne_true, h]

theorem reconcile_off_of_inactive (h : f.state status = .inactive) :
    f.reconcile owner now generation false status = pure ((status.remove f.conditionType).1, some .cleared) := by
  unfold reconcile
  rw [if_neg Bool.false_ne_true, h]

theorem reconcile_off_of_ne (h : f.state status ≠ .enabled) :
    ∃ result, f.reconcile owner now generation false status = pure result := by
  unfold reconcile
  rw [if_neg Bool.false_ne_true]
  cases hs : f.state status with
  | enabled => exact absurd hs h
  | _ => exact ⟨_, rfl⟩

/-- Bringing a feature that is off to its place removes nothing unless the feature was on; then it removes the objects
in the places of its resources, whoever they belong to. -/
theorem run_reconcile_off_removes (f : Feature) (owner : Owner) (now : Timestamp) (generation : Int64)
    (status : SearchStatus) (faults : Faults) (s : Recorded) :
    s.world.Removal (fun r name => f.state status = .enabled ∧ f.Places owner (f.targetsIn s.world) r name)
      ((s.run faults (f.reconcile owner now generation false status).run).1.isOk = true)
      (s.run faults (f.reconcile owner now generation false status).run).2.world := by
  by_cases hs : f.state status = .enabled
  · obtain ⟨hremoved, hgone⟩ := f.run_disable_removes owner faults s
    replace hremoved := hremoved.mono fun r name hplace => And.intro hs hplace
    rw [reconcile_off_of_enabled hs]
    rcases Recorded.run_work_bind_cases faults s (f.disable owner) fun _ =>
        (pure ((status.upsert (f.disabledCondition now generation)).1, some Transition.disabled) : Work _) with
      ⟨⟨⟩, t, ht, hr⟩ | ⟨e, t, ht, hr⟩ <;> rw [ht] at hremoved hgone <;> rw [hr]
    · exact ⟨hremoved, fun _ r name hplace => hgone rfl r name hplace.2⟩
    · exact ⟨hremoved, fun h => nomatch h⟩
  · obtain ⟨result, hresult⟩ := @reconcile_off_of_ne f owner now generation status hs
    rw [hresult]
    exact ⟨.of_store rfl, fun _ _ _ h => absurd h.1 hs⟩

/-- Stores that hold no resources stay as they are. -/
theorem store_run_reconcile (f : Feature) (owner : Owner) (now : Timestamp) (generation : Int64) (isOn : Bool)
    (status : SearchStatus) (w : World) {r : StoreRef} (hr : ∀ k ∈ resourceKinds, r.kind ≠ .unstructured k) :
    (w.run (f.reconcile owner now generation isOn status).run).2.store r = w.store r := by
  have hmakes : (f.reconcile owner now generation isOn status).run.Makes fun c => c.isWrite = true → c.store ≠ r := by
    refine (f.makes_reconcile owner now generation isOn status).mono fun c hc hwrite hstore => ?_
    subst hstore
    rcases hc.1 with ⟨hread, -⟩ | ⟨k, hk, hkind⟩
    · rw [hread] at hwrite
      cases hwrite
    · exact hr k hk hkind
  exact hmakes.keeps_store w rfl

/-- Stores that the work on a feature looks at but does not write to are as they were. -/
theorem sameHub_run_reconcile (f : Feature) (owner : Owner) (now : Timestamp) (generation : Int64) (isOn : Bool)
    (status : SearchStatus) (w : World) (g : Feature) :
    (g.Validates (w.run (f.reconcile owner now generation isOn status).run).2 ↔ g.Validates w) ∧
      g.targetsIn (w.run (f.reconcile owner now generation isOn status).run).2 = g.targetsIn w := by
  refine ⟨validates_congr fun r hr => ?_, targetsIn_congr ?_⟩
  · rcases hr with rfl | rfl <;> exact store_run_reconcile _ _ _ _ _ _ w (by decide)
  · exact store_run_reconcile _ _ _ _ _ _ w (by decide)

/-! ## Without obstacles -/

/-- Nothing keeps a feature from where its toggle wants it: its prerequisites are there, no write is made to fail,
and no other object is in the place of a resource. -/
structure Unobstructed (f : Feature) (owner : Owner) (w : World) : Prop where
  versioned : w.Versioned
  unblocked : w.Unblocked
  validates : f.Validates w
  tidy : f.Tidy owner (f.targetsIn w) w

/-- What bringing a feature to where its toggle wants it comes to: one that is on holds all its resources and its
condition says so; one that is off is not said to be on, and its resources are gone if it was said to be on and
stay as they are otherwise. -/
def Outcome (f : Feature) (owner : Owner) : Bool → SearchStatus → World → SearchStatus → World → Prop
  | true, _, w, after, v =>
    f.state after = .enabled ∧ ∀ t ∈ f.targetsIn w, ∀ r ∈ f.resources t owner, v.Holds r.wanted
  | false, status, w, after, v =>
    f.state after ≠ .enabled ∧ ∀ t ∈ f.targetsIn w, ∀ r ∈ f.resources t owner,
      v.object? r.store r.name = if f.state status = .enabled then none else w.object? r.store r.name

theorem outcome_run_reconcile (h : f.Unobstructed owner w) (now : Timestamp) (generation : Int64) (isOn : Bool)
    (status : SearchStatus) :
    ∃ after change v, w.run (f.reconcile owner now generation isOn status).run = (.ok (after, change), v) ∧
      f.Outcome owner isOn status w after v := by
  cases isOn with
  | true =>
    obtain ⟨u, hu⟩ := run_enable_of_tidy h.versioned h.unblocked h.validates h.tidy
    rcases run_reconcile_on f owner now generation status w with ⟨n, v, change, hv, -, hr⟩ | ⟨e, v, hv, -⟩
    · exact ⟨_, change, v, hr, state_upsert_enabled n, (run_enable_ok h.versioned hv).2.2⟩
    · cases hu.symm.trans hv
  | false =>
    rcases run_reconcile_off f owner now generation status w with
      ⟨hs, hr⟩ | ⟨hs, hr⟩ | ⟨hs, ⟨v, hv, hr⟩ | ⟨e, v, hv, -⟩⟩
    · have hne : f.state status ≠ .enabled := by rcases hs with hs | hs <;> rw [hs] <;> decide
      exact ⟨_, _, w, hr, hne, fun t _ r _ => (if_neg hne).symm⟩
    · have hne : f.state status ≠ .enabled := by rw [hs]; decide
      exact ⟨_, _, w, hr, by rw [state_remove]; decide, fun t _ r _ => (if_neg hne).symm⟩
    · refine ⟨_, _, v, hr, by rw [state_upsert_disabled]; decide, fun t ht r hmem => ?_⟩
      rw [if_pos hs]
      exact run_disable_ok hv t ht r hmem
    · obtain ⟨u, hu⟩ : ∃ u, w.run (f.disable owner).run = (.ok (), u) := run_disable_of_unblocked h.unblocked
      cases hu.symm.trans hv

/-! ## Other features -/

/-- Whatever else has changed, the feature has its condition, its targets, its prerequisites and its resources as
before. -/
structure Unmoved (f : Feature) (owner : Owner) (status : SearchStatus) (w : World) (status' : SearchStatus)
    (w' : World) : Prop where
  condition : status'.condition? f.conditionType = status.condition? f.conditionType
  targets : f.targetsIn w' = f.targetsIn w
  validates : f.Validates w' ↔ f.Validates w
  resources : ∀ t, ∀ r ∈ f.resources t owner, w'.object? r.store r.name = w.object? r.store r.name

namespace Unmoved

variable {status' status'' : SearchStatus} {w' w'' : World}

theorem refl : f.Unmoved owner status w status w := ⟨rfl, rfl, Iff.rfl, fun _ _ _ => rfl⟩

/-- Only objects without a schema decide about a feature. -/
theorem of_unstructured (hs : ∀ k ns, w'.store ⟨.unstructured k, ns⟩ = w.store ⟨.unstructured k, ns⟩) :
    f.Unmoved owner status w status w' := by
  have hprerequisites : ∀ r, IsPrerequisiteStore r → w'.store r = w.store r := by
    rintro _ (rfl | rfl) <;> exact hs _ _
  refine ⟨rfl, targetsIn_congr (hs _ _), validates_congr hprerequisites, fun _ r _ => ?_⟩
  exact congrArg (fun s : Store r.store.kind => s.objects.get? _) (hs r.kind r.inNamespace)

theorem trans (h : f.Unmoved owner status w status' w') (h' : f.Unmoved owner status' w' status'' w'') :
    f.Unmoved owner status w status'' w'' :=
  ⟨h'.condition.trans h.condition, h'.targets.trans h.targets, h'.validates.trans h.validates,
    fun t r hr => (h'.resources t r hr).trans (h.resources t r hr)⟩

theorem state (h : f.Unmoved owner status w status' w') : f.state status' = f.state status := by
  rw [Feature.state, Feature.state, h.condition]

theorem holds (h : f.Unmoved owner status w status' w') {t : Target} {r : FeatureResource}
    (hr : r ∈ f.resources t owner) (hheld : w.Holds r.wanted) : w'.Holds r.wanted := by
  refine hheld.congr ?_
  rw [name_wanted_of_mem_resources hr]
  exact h.resources t r hr

theorem unobstructed (h : f.Unmoved owner status w status' w') (hu : f.Unobstructed owner w) (hw : w'.Versioned)
    (hblocks : w'.Unblocked) : f.Unobstructed owner w' := by
  refine ⟨hw, hblocks, h.validates.2 hu.validates, ?_⟩
  rw [h.targets]
  exact fun t ht r hr => (hu.tidy t ht r hr).imp (h.resources t r hr).trans (h.holds hr)

theorem outcome_trans (h : f.Unmoved owner status w status' w') (ho : f.Outcome owner isOn status' w' after v) :
    f.Outcome owner isOn status w after v := by
  cases isOn with
  | true => exact ⟨ho.1, h.targets ▸ ho.2⟩
  | false =>
    refine ⟨ho.1, fun t ht r hr => ?_⟩
    rw [ho.2 t (h.targets.symm ▸ ht) r hr, h.resources t r hr, h.state]

theorem trans_outcome (ho : f.Outcome owner isOn status w status' w') (h : f.Unmoved owner status' w' after v) :
    f.Outcome owner isOn status w after v := by
  cases isOn with
  | true => exact ⟨h.state.trans ho.1, fun t ht r hr => h.holds hr (ho.2 t ht r hr)⟩
  | false =>
    refine ⟨?_, fun t ht r hr => (h.resources t r hr).trans (ho.2 t ht r hr)⟩
    rw [h.state]
    exact ho.1

end Unmoved

/-- Bringing another feature to its place does not move this one, also when it fails. -/
theorem unmoved_run_reconcile (hfg : g ≠ f) (hw : w.Versioned) (owner : Owner) (now : Timestamp) (generation : Int64)
    (isOn : Bool) (status : SearchStatus) :
    g.Unmoved owner status w
      (match (w.run (f.reconcile owner now generation isOn status).run).1 with
        | .ok (after, _) => after
        | .error _ => status)
      (w.run (f.reconcile owner now generation isOn status).run).2 := by
  have hhub := sameHub_run_reconcile f owner now generation isOn status w g
  refine ⟨?_, hhub.2, hhub.1, fun t r hr => ?_⟩
  · cases hrun : w.run (f.reconcile owner now generation isOn status).run with
    | mk result v =>
      cases result with
      | ok a => exact (marks_of_run_reconcile hrun).condition?_of_ne fun h => hfg (conditionType_injective h)
      | error e => rfl
  · -- no resource of the other feature is in the place of a resource of this one
    exact object?_run_reconcile_of_apart hw fun _ _ hs => apart_of_mem_resources hfg hs hr

/-! ## Settled features -/

/-- The condition of a feature says that it is enabled in so many targets. -/
def ReportsEnabled (f : Feature) (generation : Int64) (targets : Nat) (status : SearchStatus) : Prop :=
  ∃ c, status.condition? f.conditionType = some c ∧
    ∀ now, c.agrees (f.enabledCondition now generation targets) = true

/-- Nothing is left to do for a feature. One that is on has its prerequisites and holds all its resources, and
its condition says so; one that is off was never on, or has been switched off. -/
def Settled (f : Feature) (owner : Owner) (generation : Int64) : Bool → SearchStatus → World → Prop
  | true, status, w =>
    f.Validates w ∧ (∀ t ∈ f.targetsIn w, ∀ r ∈ f.resources t owner, w.Holds r.wanted) ∧
      f.ReportsEnabled generation (f.targetsIn w).length status
  | false, status, _ => f.state status = .unset ∨ f.state status = .disabled

theorem settled_of_run_reconcile_ok (hw : w.Versioned)
    (h : w.run (f.reconcile owner now generation isOn status).run = (.ok (after, change), v)) :
    f.Settled owner generation isOn after v := by
  cases isOn with
  | true =>
    have hhub := sameHub_run_reconcile f owner now generation true status w f
    rw [h] at hhub
    rcases run_reconcile_on f owner now generation status w with ⟨n, u, c, hu, -, hr⟩ | ⟨e, u, -, hr⟩
    · cases h.symm.trans hr
      obtain ⟨hval, rfl, hholds⟩ := run_enable_ok hw hu
      refine ⟨hhub.1.2 hval, ?_, ?_⟩
      · rw [hhub.2]
        exact hholds
      · obtain ⟨d, hd, ha⟩ := status.condition?_upsert_self
          (f.enabledCondition now generation (f.targetsIn w).length)
        rw [hhub.2]
        exact ⟨d, hd, fun now' => ha⟩
    · cases h.symm.trans hr
  | false =>
    rcases run_reconcile_off f owner now generation status w with
      ⟨hs, hr⟩ | ⟨-, hr⟩ | ⟨-, ⟨u, -, hr⟩ | ⟨e, u, -, hr⟩⟩ <;> cases h.symm.trans hr
    · exact hs
    · exact .inl state_remove
    · exact .inr state_upsert_disabled

/-- A feature stays settled while something else is done. -/
theorem Unmoved.settled {status' : SearchStatus} {w' : World} (h : f.Unmoved owner status w status' w')
    (hs : f.Settled owner generation isOn status w) : f.Settled owner generation isOn status' w' := by
  cases isOn with
  | true =>
    obtain ⟨hval, hholds, c, hc, ha⟩ := hs
    rw [Settled, h.targets]
    exact ⟨h.validates.2 hval, fun t ht r hr => h.holds hr (hholds t ht r hr), c, h.condition.trans hc, ha⟩
  | false =>
    rw [Settled, h.state]
    exact hs

/-- Only objects without a schema decide whether a feature is settled. -/
theorem Settled.congr {w' : World} {isOn : Bool} (h : f.Settled owner generation isOn status w)
    (hs : ∀ k ns, w'.store ⟨.unstructured k, ns⟩ = w.store ⟨.unstructured k, ns⟩) :
    f.Settled owner generation isOn status w' :=
  (Unmoved.of_unstructured hs).settled h

/-- A settled feature costs no write and changes nothing. -/
theorem run_reconcile_of_settled (hs : f.Settled owner generation isOn status w) (now : Timestamp) :
    ∃ v, w.run (f.reconcile owner now generation isOn status).run = (.ok (status, none), v) ∧ w.OnlyRead v := by
  cases isOn with
  | true =>
    obtain ⟨hval, hholds, c, hc, ha⟩ := hs
    obtain ⟨v, hv, hread⟩ := run_enable_of_holds hval hholds
    have hstate : f.state status = .enabled := by
      rw [state, hc, ofCondition_eq_of_agrees (ha now)]
      rfl
    rcases run_reconcile_on f owner now generation status w with ⟨n, u, change, hu, hchange, hr⟩ | ⟨e, u, hu, -⟩
    · obtain ⟨hn, rfl⟩ := Prod.mk.inj (hv.symm.trans hu)
      obtain rfl := Except.ok.inj hn
      refine ⟨v, ?_, hread⟩
      rw [hr, SearchStatus.upsert_eq_self hc (ha now), hchange hstate]
    · cases (Prod.mk.inj (hv.symm.trans hu)).1
  | false =>
    rcases run_reconcile_off f owner now generation status w with ⟨-, hr⟩ | ⟨hinactive, -⟩ | ⟨henabled, -⟩
    · exact ⟨w, hr, .refl w⟩
    · rcases hs with hs | hs <;> cases hs.symm.trans hinactive
    · rcases hs with hs | hs <;> cases hs.symm.trans henabled

end HubSearch.Feature
