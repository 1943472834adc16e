/-
What is left of a feature that was switched off. A condition is written only once every target got all
resources: what a switch-on that failed on the way has left, no condition tells of, and a switch-off then finds
nothing to do. Main statement, for all attempts in any order: after a switch-off that succeeded there are
resources exactly when an earlier switch-on left some on the way and none has succeeded since
(`present_iff_leftBehind`).
-/
import HubSearch.Proofs.Feature.Reconcile

namespace HubSearch.Feature

open World

/-- Some target has some resource of the feature. -/
def Present (f : Feature) (owner : Owner) (w : World) : Prop :=
  ∃ t ∈ f.targetsIn w, ∃ r ∈ f.resources t owner, w.object? r.store r.name ≠ none

/-! ## Attempts -/

/-- An attempt to bring a feature to where its toggle wants it. -/
structure Attempt where
  isOn : Bool
  succeeded : Bool
  /-- The stores right after it. -/
  after : World

/-- What goes on between two attempts: prerequisites come and go, writes are made to fail or to succeed again,
and any object may change, but not the targets of the feature and its resources in them. -/
structure LeavesAlone (f : Feature) (owner : Owner) (w w' : World) : Prop where
  versioned : w'.Versioned
  targets : f.targetsIn w' = f.targetsIn w
  resources : ∀ t ∈ f.targetsIn w, ∀ r ∈ f.resources t owner, w'.object? r.store r.name = w.object? r.store r.name

/-- Attempts in any order, the latest first, with the status and the stores after them. In the beginning there
is no condition and no resource. An attempt that fails leaves the status as it was. -/
inductive Attempts (f : Feature) (owner : Owner) : List Attempt → SearchStatus → World → Prop
  | start {status : SearchStatus} {w : World} (hw : w.Versioned)
      (hcondition : status.condition? f.conditionType = none) (habsent : ¬f.Present owner w) :
      Attempts f owner [] status w
  | meanwhile {attempts : List Attempt} {status : SearchStatus} {w w' : World} :
      Attempts f owner attempts status w → f.LeavesAlone owner w w' → Attempts f owner attempts status w'
  | success {earlier : List Attempt} {status after : SearchStatus} {w v : World} {now : Timestamp}
      {generation : Int64} {isOn : Bool} {change : Option Transition} :
      Attempts f owner earlier status w →
      w.run (f.reconcile owner now generation isOn status).run = (.ok (after, change), v) →
      Attempts f owner (⟨isOn, true, v⟩ :: earlier) after v
  | failure {earlier : List Attempt} {status : SearchStatus} {w v : World} {now : Timestamp} {generation : Int64}
      {isOn : Bool} {e : OperatorError} :
      Attempts f owner earlier status w →
      w.run (f.reconcile owner now generation isOn status).run = (.error e, v) →
      Attempts f owner (⟨isOn, false, v⟩ :: earlier) status v

/-- The last attempt that succeeded was to switch the feature on. -/
def IsOn (attempts : List Attempt) : Prop := (attempts.find? (·.succeeded)).any (·.isOn) = true

/-- An attempt to switch the feature on, when it was not on, has failed and left resources; and none has
succeeded since. -/
def LeftBehind (f : Feature) (owner : Owner) (attempts : List Attempt) : Prop :=
  ∃ later a earlier, attempts = later ++ a :: earlier ∧ a.isOn = true ∧ a.succeeded = false ∧
    f.Present owner a.after ∧ ¬IsOn earlier ∧ ∀ b ∈ later, ¬(b.isOn = true ∧ b.succeeded = true)

variable {f : Feature} {owner : Owner} {attempts earlier : List Attempt} {a : Attempt} {status : SearchStatus}
  {w v : World}

theorem isOn_cons_of_succeeded (h : a.succeeded = true) : IsOn (a :: earlier) ↔ a.isOn = true := by
  rw [IsOn, List.find?_cons, h, Option.any_some]

theorem isOn_cons_of_failed (h : a.succeeded = false) : IsOn (a :: earlier) ↔ IsOn earlier := by
  rw [IsOn, IsOn, List.find?_cons, h]

theorem leftBehind_cons : f.LeftBehind owner (a :: earlier) ↔
    (a.isOn = true ∧ a.succeeded = false ∧ f.Present owner a.after ∧ ¬IsOn earlier) ∨
      ¬(a.isOn = true ∧ a.succeeded = true) ∧ f.LeftBehind owner earlier := by
  constructor
  · rintro ⟨later, b, before, heq, hon, hfailed, hpresent, hoff, hlater⟩
    cases later with
    | nil =>
      cases heq
      exact .inl ⟨hon, hfailed, hpresent, hoff⟩
    | cons c later =>
      cases heq
      rw [List.forall_mem_cons] at hlater
      exact .inr ⟨hlater.1, later, b, before, rfl, hon, hfailed, hpresent, hoff, hlater.2⟩
  · rintro (⟨hon, hfailed, hpresent, hoff⟩ | ⟨ha, later, b, before, rfl, hon, hfailed, hpresent, hoff, hlater⟩)
    · exact ⟨[], a, earlier, rfl, hon, hfailed, hpresent, hoff, fun _ hb => absurd hb List.not_mem_nil⟩
    · exact ⟨a :: later, b, before, rfl, hon, hfailed, hpresent, hoff, List.forall_mem_cons.2 ⟨ha, hlater⟩⟩

/-- While the feature is on, nothing counts as left behind. -/
theorem not_leftBehind_of_isOn : ∀ {attempts : List Attempt}, IsOn attempts → ¬f.LeftBehind owner attempts
  | a :: earlier, hon, hleft => by
    cases hs : a.succeeded with
    | true =>
      rw [isOn_cons_of_succeeded hs] at hon
      rcases leftBehind_cons.1 hleft with ⟨-, hfailed, -⟩ | ⟨hnot, -⟩
      · cases hs.symm.trans hfailed
      · exact hnot ⟨hon, hs⟩
    | false =>
      rw [isOn_cons_of_failed hs] at hon
      rcases leftBehind_cons.1 hleft with ⟨-, -, -, hoff⟩ | ⟨-, hleft⟩
      · exact hoff hon
      · exact not_leftBehind_of_isOn hon hleft

/-! ## What the condition tells of the attempts -/

/-- The condition says that the feature is on exactly when the last success was to switch it on; when it does
not, the resources that are there were left behind. -/
structure Traced (f : Feature) (owner : Owner) (attempts : List Attempt) (status : SearchStatus) (w : World) :
    Prop where
  versioned : w.Versioned
  enabled_iff : f.state status = .enabled ↔ IsOn attempts
  not_inactive : f.state status ≠ .inactive
  present_iff : f.state status ≠ .enabled → (f.Present owner w ↔ f.LeftBehind owner attempts)

theorem LeavesAlone.present_iff {w' : World} (h : f.LeavesAlone owner w w') :
    f.Present owner w' ↔ f.Present owner w := by
  unfold Present
  rw [h.targets]
  constructor
  · rintro ⟨t, ht, r, hr, hne⟩
    exact ⟨t, ht, r, hr, h.resources t ht r hr ▸ hne⟩
  · rintro ⟨t, ht, r, hr, hne⟩
    exact ⟨t, ht, r, hr, (h.resources t ht r hr).symm ▸ hne⟩

/-- Resources that are there stay there when the feature is switched on. -/
theorem present_of_run_reconcile_on (hw : w.Versioned) {now : Timestamp} {generation : Int64}
    {result : Except OperatorError (SearchStatus × Option Transition)}
    (h : w.run (f.reconcile owner now generation true status).run = (result, v)) (hp : f.Present owner w) :
    f.Present owner v := by
  obtain ⟨t, ht, r, hr, hne⟩ := hp
  have htargets := (sameHub_run_reconcile f owner now generation true status w f).2
  have hkeep : (f.reconcile owner now generation true status).run.Keeps fun w =>
      w.Versioned ∧ w.object? r.store r.name ≠ none := by
    unfold reconcile
    rw [if_pos rfl]
    exact (keeps_enable_ne_none r.store r.name).work_bind fun _ => Plan.keeps_pure _
  have hv := (hkeep w ⟨hw, hne⟩).2
  rw [h] at htargets hv
  exact ⟨t, htargets ▸ ht, r, hr, hv⟩

section

variable {after : SearchStatus} {now : Timestamp} {generation : Int64} {change : Option Transition}

theorem Traced.success_on (h : f.Traced owner earlier status w)
    (hr : w.run (f.reconcile owner now generation true status).run = (.ok (after, change), v)) :
    f.Traced owner (⟨true, true, v⟩ :: earlier) after v := by
  have hstate : f.state after = .enabled := by
    rcases run_reconcile_on f owner now generation status w with ⟨n, u, c, -, -, hr'⟩ | ⟨e, u, -, hr'⟩
    · cases hr.symm.trans hr'
      exact state_upsert_enabled n
    · cases hr.symm.trans hr'
  refine ⟨h.versioned.of_run hr, ?_, ?_, fun hne => absurd hstate hne⟩
  · exact iff_of_true hstate ((isOn_cons_of_succeeded rfl).2 rfl)
  · rw [hstate]
    decide

theorem Traced.success_off (h : f.Traced owner earlier status w)
    (hr : w.run (f.reconcile owner now generation false status).run = (.ok (after, change), v)) :
    f.Traced owner (⟨false, true, v⟩ :: earlier) after v := by
  have hv : v.Versioned := h.versioned.of_run hr
  have hoff : ¬IsOn (⟨false, true, v⟩ :: earlier) := fun hon => nomatch (isOn_cons_of_succeeded rfl).1 hon
  -- switching off adds nothing to what was left behind
  have hleft : f.LeftBehind owner (⟨false, true, v⟩ :: earlier) ↔ f.LeftBehind owner earlier := by
    rw [leftBehind_cons]
    simp
  rcases run_reconcile_off f owner now generation status w with
    ⟨hs, hr'⟩ | ⟨hs, -⟩ | ⟨hs, ⟨u, hu, hr'⟩ | ⟨e, u, -, hr'⟩⟩
  · -- there is nothing to delete by the condition, so nothing is looked at
    cases hr.symm.trans hr'
    have hne : f.state status ≠ .enabled := by rcases hs with hs | hs <;> rw [hs] <;> decide
    exact ⟨hv, iff_of_false hne hoff, h.not_inactive, fun _ => (h.present_iff hne).trans hleft.symm⟩
  · exact absurd hs h.not_inactive
  · -- everything is deleted
    cases hr.symm.trans hr'
    have hstate : f.state (status.upsert (f.disabledCondition now generation)).1 = .disabled := state_upsert_disabled
    refine ⟨hv, iff_of_false ?_ hoff, ?_, fun _ => iff_of_false ?_ ?_⟩
    · rw [hstate]
      decide
    · rw [hstate]
      decide
    · rintro ⟨t, ht, r, hmem, hne⟩
      have htargets := (sameHub_run_reconcile f owner now generation false status w f).2
      rw [hr] at htargets
      exact hne (run_disable_ok hu t (htargets ▸ ht) r hmem)
    · rw [hleft]
      exact not_leftBehind_of_isOn (h.enabled_iff.1 hs)
  · cases hr.symm.trans hr'

end

theorem Traced.failure {now : Timestamp} {generation : Int64} {isOn : Bool} {e : OperatorError}
    (h : f.Traced owner earlier status w)
    (hr : w.run (f.reconcile owner now generation isOn status).run = (.error e, v)) :
    f.Traced owner (⟨isOn, false, v⟩ :: earlier) status v := by
  have hv : v.Versioned := h.versioned.of_run hr
  refine ⟨hv, h.enabled_iff.trans (isOn_cons_of_failed rfl).symm, h.not_inactive, fun hne => ?_⟩
  rw [leftBehind_cons]
  cases isOn with
  | true =>
    have hoff : ¬IsOn earlier := fun hon => hne (h.enabled_iff.2 hon)
    constructor
    · exact fun hp => .inl ⟨rfl, rfl, hp, hoff⟩
    · rintro (⟨-, -, hp, -⟩ | ⟨-, hleft⟩)
      · exact hp
      · exact present_of_run_reconcile_on h.versioned hr ((h.present_iff hne).2 hleft)
  | false =>
    -- a switch-off fails only when there is something to delete
    rcases run_reconcile_off f owner now generation status w with
      ⟨-, hr'⟩ | ⟨-, hr'⟩ | ⟨hs, -⟩
    · cases hr.symm.trans hr'
    · cases hr.symm.trans hr'
    · exact absurd hs hne

theorem Attempts.traced (h : f.Attempts owner attempts status w) : f.Traced owner attempts status w := by
  induction h with
  | @start status w hw hcondition habsent =>
    have hstate : f.state status = .unset := by
      rw [state, hcondition]
      rfl
    refine ⟨hw, ?_, ?_, fun _ => ?_⟩
    · rw [hstate]
      exact iff_of_false (by decide) (by simp [IsOn])
    · rw [hstate]
      decide
    · refine iff_of_false habsent ?_
      rintro ⟨later, a, earlier, heq, -⟩
      exact absurd heq.symm (by simp)
  | meanwhile _ halone ih =>
    exact ⟨halone.versioned, ih.enabled_iff, ih.not_inactive, fun hs => halone.present_iff.trans (ih.present_iff hs)⟩
  | @success _ _ _ _ _ _ _ isOn _ _ hr ih =>
    cases isOn with
    | true => exact ih.success_on hr
    | false => exact ih.success_off hr
  | failure _ hr ih => exact ih.failure hr

/-! ## After a switch-off -/

/-- After a switch-off that succeeded some target has a resource of the feature exactly when an earlier
switch-on left some on the way, at a time when the feature was not on, and none has succeeded since. -/
theorem present_iff_leftBehind {left : World} (h : f.Attempts owner (⟨false, true, left⟩ :: earlier) status w) :
    f.Present owner w ↔ f.LeftBehind owner earlier := by
  have htraced := h.traced
  have hoff : f.state status ≠ .enabled := by
    rw [Ne, htraced.enabled_iff, isOn_cons_of_succeeded rfl]
    exact Bool.false_ne_true
  rw [htraced.present_iff hoff, leftBehind_cons]
  simp

/-- A hub on which the second resource of global search cannot be written. -/
def partialHub : World := sampleHub.failName ⟨.unstructured .clusterPermission, some "east"⟩ "search-global"

theorem attempts_partialHub : ∃ v, globalSearch.Attempts sampleOwner [⟨false, true, v⟩, ⟨true, false, v⟩] {} v ∧
    v = (partialHub.run (globalSearch.reconcile sampleOwner default 1 true {}).run).2 := by
  have hw : partialHub.Versioned := (World.Built.failName _ _ built_sampleHub).versioned
  have habsent : ¬globalSearch.Present sampleOwner partialHub := by
    unfold Present
    decide +kernel
  have hstart : globalSearch.Attempts sampleOwner [] {} partialHub := .start hw rfl habsent
  have hfails : (partialHub.run (globalSearch.reconcile sampleOwner default 1 true {}).run).1.toOption = none := by
    decide +kernel
  cases hr : partialHub.run (globalSearch.reconcile sampleOwner default 1 true {}).run with
  | mk result v =>
    rw [hr] at hfails
    cases result with
    | ok a => cases hfails
    | error e =>
      have hoff : v.run (globalSearch.reconcile sampleOwner default 1 false {}).run = (.ok ({}, none), v) := rfl
      exact ⟨v, .success (.failure hstart hr) hoff, rfl⟩

/-- Switching global search on fails half way there, and switching it off again succeeds and leaves a resource. -/
theorem present_after_switch_off : ∃ earlier status left,
    globalSearch.Attempts sampleOwner (⟨false, true, left⟩ :: earlier) status left ∧
      globalSearch.Present sampleOwner left := by
  obtain ⟨v, hv, rfl⟩ := attempts_partialHub
  refine ⟨_, _, _, hv, ?_⟩
  unfold Present
  decide +kernel

/-- What is there after switching it off was left by switching it on. -/
theorem present_iff_leftBehind_partialHub : ∃ v,
    globalSearch.Attempts sampleOwner [⟨false, true, v⟩, ⟨true, false, v⟩] {} v ∧
      (globalSearch.Present sampleOwner v ↔ globalSearch.LeftBehind sampleOwner [⟨true, false, v⟩]) := by
  obtain ⟨v, hv, -⟩ := attempts_partialHub
  exact ⟨v, hv, present_iff_leftBehind hv⟩

end HubSearch.Feature
