/-
The life of a feature as a machine with four states. Bringing a feature to its place is one step of the machine, in the
states that its first condition stands for (`reconcile_refines_machine`), or fails and leaves the status as it is.
Whatever stores successive calls find, the transitions that they report tell the state at the end
(`Life.state_eq`).
-/
import HubSearch.Proofs.Condition.History
import HubSearch.Proofs.Pass.Isolation

namespace HubSearch

/-! ## The machine -/

/-- The state that a transition leads to. -/
def Feature.Transition.state : Feature.Transition → FeatureState
  | .enabled => .enabled
  | .disabled => .disabled
  | .cleared => .unset

/-- Where a toggle takes a state, and the transition that this is. -/
def FeatureState.next (isOn : Bool) : FeatureState → FeatureState × Option Feature.Transition
  | .enabled => if isOn then (.enabled, none) else (.disabled, some .disabled)
  | .unset => if isOn then (.enabled, some .enabled) else (.unset, none)
  | .disabled => if isOn then (.enabled, some .enabled) else (.disabled, none)
  | .inactive => if isOn then (.enabled, some .enabled) else (.unset, some .cleared)

namespace FeatureState

variable (isOn : Bool) (s : FeatureState)

/-- A transition is reported exactly when the state changes. -/
theorem next_isSome_iff : (s.next isOn).2.isSome = true ↔ (s.next isOn).1 ≠ s := by
  cases isOn <;> cases s <;> decide

/-- The state after a step is that of the transition, if there is one. -/
theorem next_fst_eq : (s.next isOn).1 = ((s.next isOn).2.map (·.state)).getD s := by
  cases isOn <;> cases s <;> rfl

end FeatureState

namespace Feature

variable {σ : Type} {answer : Plan.Answering σ} {s t : σ} {f : Feature} {owner : Owner} {now : Timestamp}
  {generation : Int64} {isOn : Bool} {status after : SearchStatus} {change : Option Transition}

/-! ## One step -/

theorem isTrue_iff_state {status : SearchStatus} :
    status.isTrue f.conditionType = true ↔ f.state status = .enabled := by
  unfold SearchStatus.isTrue state FeatureState.ofCondition
  cases status.condition? f.conditionType with
  | none => simp
  | some c =>
    by_cases htrue : c.status = ConditionStatus.true.word
    · simp [htrue]
    · by_cases hfalse : c.status = ConditionStatus.false.word ∧ c.reason = reasonDisabled
      · simp [hfalse]
      · simp [htrue, hfalse]

/-- A condition that changes nothing was there before. -/
theorem state_eq_enabled_of_upsert {n : Nat}
    (h : (status.upsert (f.enabledCondition now generation n)).2 = false) : f.state status = .enabled := by
  have hsame := (SearchStatus.upsert_eq_false_iff _ _).1 h
  rw [← @state_upsert_enabled f now generation status n]
  exact congrArg (fun cs => FeatureState.ofCondition (Condition.find? f.conditionType cs)) hsame.symm

theorem reconcile_on_follows_next {n : Nat} :
    (f.state (status.upsert (f.enabledCondition now generation n)).1,
      if (status.upsert (f.enabledCondition now generation n)).2 = true ∧ f.state status ≠ .enabled then
        some Transition.enabled else none) = (f.state status).next true := by
  rw [state_upsert_enabled]
  cases hchanged : (status.upsert (f.enabledCondition now generation n)).2 with
  | false =>
    rw [state_eq_enabled_of_upsert hchanged]
    rfl
  | true => cases f.state status <;> rfl

/-- A feature that was said to be neither on nor inactive is left alone when it is off. -/
theorem reconcile_off_of_unset_or_disabled (h : f.state status = .unset ∨ f.state status = .disabled) :
    f.reconcile owner now generation false status = pure (status, none) := by
  unfold reconcile
  rw [if_neg Bool.false_ne_true]
  rcases h with h | h <;> rw [h]

/-- A success is a step of the machine. -/
theorem follows_next_of_run_reconcile
    (h : (f.reconcile owner now generation isOn status).run.run answer s = (.ok (after, change), t)) :
    (f.state after, change) = (f.state status).next isOn := by
  cases isOn with
  | true =>
    unfold reconcile at h
    rw [if_pos rfl] at h
    rcases Work.run_bind_cases answer s (f.enable owner) _ with ⟨n, u, -, hr⟩ | ⟨e, u, -, hr⟩ <;>
      cases h.symm.trans hr
    exact reconcile_on_follows_next
  | false =>
    cases hstate : f.state status with
    | unset =>
      rw [reconcile_off_of_unset_or_disabled (.inl hstate)] at h
      cases h
      rw [hstate]
      rfl
    | disabled =>
      rw [reconcile_off_of_unset_or_disabled (.inr hstate)] at h
      cases h
      rw [hstate]
      rfl
    | inactive =>
      rw [reconcile_off_of_inactive hstate] at h
      cases h
      rw [state_remove]
      rfl
    | enabled =>
      rw [reconcile_off_of_enabled hstate] at h
      rcases Work.run_bind_cases answer s (f.disable owner) _ with ⟨⟨⟩, u, -, hr⟩ | ⟨e, u, -, hr⟩ <;>
        cases h.symm.trans hr
      rw [state_upsert_disabled]
      rfl

/-- A feature that is off and was not on costs no call. -/
theorem run_reconcile_off_of_ne (h : f.state status ≠ .enabled) :
    ∃ result, (f.reconcile owner now generation false status).run.run answer s = (.ok result, s) := by
  obtain ⟨result, hresult⟩ := @reconcile_off_of_ne f owner now generation status h
  exact ⟨result, by rw [hresult]; rfl⟩

/-- Whatever answers the calls, bringing a feature to its place is a step of the machine, from the state that its first
condition stands for to that of the first one afterwards; a transition is reported exactly when the two differ, and
conditions of other types stay. A feature that is off and was not on costs no call. A failure needs calls, and a pass
goes on from it with the status that it had. -/
theorem reconcile_refines_machine (answer : Plan.Answering σ) (s : σ) (f : Feature) (owner : Owner) (now : Timestamp)
    (generation : Int64) (isOn : Bool) (status : SearchStatus) :
    (∃ after change t,
      (f.reconcile owner now generation isOn status).run.run answer s = (.ok (after, change), t) ∧
      (f.state after, change) = (f.state status).next isOn ∧
      (change.isSome = true ↔ f.state after ≠ f.state status) ∧
      Condition.remove f.conditionType after.conditionList =
        Condition.remove f.conditionType status.conditionList ∧
      (isOn = false → f.state status = .unset ∨ f.state status = .disabled → after = status) ∧
      (isOn = false → f.state status ≠ .enabled → t = s)) ∨
    ∃ e t, (f.reconcile owner now generation isOn status).run.run answer s = (.error e, t) ∧
      (isOn = true ∨ f.state status = .enabled) ∧
      ∀ p : Pass, p.owner = owner → p.now f = now → p.generation = generation → p.toggles.isEnabled f = isOn →
        (p.reconcileFeature f status).run answer s =
          ((status, { notices := [Pass.failureNotice f e], failures := [([f.name], e)] }), t) := by
  cases hrun : (f.reconcile owner now generation isOn status).run.run answer s with
  | mk result t =>
    cases result with
    | ok outcome =>
      obtain ⟨after, change⟩ := outcome
      have hnext := follows_next_of_run_reconcile hrun
      refine .inl ⟨after, change, t, rfl, hnext, ?_, (marks_of_run_reconcile hrun).remove_eq, ?_, ?_⟩
      · have hreported := FeatureState.next_isSome_iff isOn (f.state status)
        rwa [← hnext] at hreported
      · rintro rfl hs
        rw [reconcile_off_of_unset_or_disabled hs] at hrun
        cases hrun
        rfl
      · rintro rfl hs
        obtain ⟨_, hsame⟩ := @run_reconcile_off_of_ne σ answer s f owner now generation status hs
        exact (Prod.mk.inj (hrun.symm.trans hsame)).2
    | error e =>
      refine .inr ⟨e, t, rfl, ?_, ?_⟩
      · by_contra hcalls
        obtain ⟨hoff, hs⟩ := not_or.1 hcalls
        obtain rfl := Bool.eq_false_iff.2 hoff
        obtain ⟨_, hsame⟩ := @run_reconcile_off_of_ne σ answer s f owner now generation status hs
        cases hrun.symm.trans hsame
      · rintro p rfl rfl rfl rfl
        rw [Pass.reconcileFeature, Plan.run_bind, hrun]
        rfl

/-! ## A whole life -/

/-- Successive calls for a feature, each with a toggle and stores of its own, and the transitions they report. In
between the other conditions can change. -/
inductive Life (f : Feature) (first : SearchStatus) : List (Option Transition) → SearchStatus → Prop
  | start : Life f first [] first
  | settled {σ : Type} {answer : Plan.Answering σ} {s t : σ} {owner : Owner} {now : Timestamp} {generation : Int64}
      {isOn : Bool} {changes : List (Option Transition)} {change : Option Transition} {status after : SearchStatus}
      (before : Life f first changes status)
      (hrun : (f.reconcile owner now generation isOn status).run.run answer s = (.ok (after, change), t)) :
      Life f first (changes ++ [change]) after
  /-- The status stays. -/
  | failed {σ : Type} {answer : Plan.Answering σ} {s t : σ} {owner : Owner} {now : Timestamp} {generation : Int64}
      {isOn : Bool} {changes : List (Option Transition)} {status : SearchStatus} {e : OperatorError}
      (before : Life f first changes status)
      (hrun : (f.reconcile owner now generation isOn status).run.run answer s = (.error e, t)) :
      Life f first changes status
  | other {changes : List (Option Transition)} {status after : SearchStatus} (before : Life f first changes status)
      (hsame : after.condition? f.conditionType = status.condition? f.conditionType) : Life f first changes after

/-- The state at the end of a life is that of the last transition that was reported. -/
theorem Life.state_eq {first last : SearchStatus} {changes : List (Option Transition)}
    (h : f.Life first changes last) :
    f.state last = ((changes.filterMap id).getLast?.map (·.state)).getD (f.state first) := by
  induction h with
  | start => rfl
  | @settled _ _ _ _ _ _ _ isOn changes change status after _ hrun ih =>
    have hstate := FeatureState.next_fst_eq isOn (f.state status)
    rw [← follows_next_of_run_reconcile hrun] at hstate
    cases change with
    | none => simpa using hstate.trans ih
    | some change => simpa using hstate
  | failed _ _ ih => exact ih
  | other _ hsame ih => rw [state, hsame, ← state, ih]

end Feature

end HubSearch
