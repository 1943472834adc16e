/-
A pass while any call can fail. Without the live database configuration it ends at once. Otherwise every object
and every feature has its turn, whatever failed before, and what a turn comes to depends on its own calls only:
an object finds in its place what was there when the pass began. The result has exactly the failures of the turns,
and of the status, in their order. Main statements: `apply_isolates_failures`, and `ObjectTurn.outcome` and
`FeatureTurn.outcome` for what a turn can report.
-/
import HubSearch.Proofs.Pass.Converge
import HubSearch.Proofs.Sync.Attempt

namespace HubSearch

open World

/-! ## Turns -/

/-- Every item has its turn, in the state that the one before left, and reports on it. -/
inductive InTurn {α σ ρ : Type} (turn : α → σ → ρ → σ → Prop) : List α → σ → List ρ → σ → Prop
  | nil {s : σ} : InTurn turn [] s [] s
  | cons {a : α} {rest : List α} {s t u : σ} {report : ρ} {reports : List ρ} (first : turn a s report t)
      (later : InTurn turn rest t reports u) : InTurn turn (a :: rest) s (report :: reports) u

namespace Report

theorem notices_concat : ∀ rs : List Report, (concat rs).notices = rs.flatMap (·.notices)
  | [] => rfl
  | r :: rest => by
    show r.notices ++ (concat rest).notices = _
    rw [notices_concat rest, List.flatMap_cons]

theorem failures_concat : ∀ rs : List Report, (concat rs).failures = rs.flatMap (·.failures)
  | [] => rfl
  | r :: rest => by
    show r.failures ++ (concat rest).failures = _
    rw [failures_concat rest, List.flatMap_cons]

/-- The report of several series of parts has the notices and failures of all parts in a row. -/
theorem concat_append_concat_append (objects features : List Report) (last : Report) :
    concat objects ++ concat features ++ last = ⟨(objects ++ features ++ [last]).flatMap (·.notices),
      (objects ++ features ++ [last]).flatMap (·.failures)⟩ := by
  show Report.mk ((concat objects).notices ++ (concat features).notices ++ last.notices)
    ((concat objects).failures ++ (concat features).failures ++ last.failures) = _
  rw [notices_concat, notices_concat, failures_concat, failures_concat]
  simp

end Report

namespace Pass

variable {p : Pass} {faults : Faults}

/-- The turn of a wanted object in a pass that began with the stores `w`. -/
def ObjectTurn (w : World) (x : Wanted) (s : Recorded) (report : Report) (t : Recorded) : Prop :=
  s.world.object? x.store x.name = w.object? x.store x.name ∧
    ∃ outcome, x.Attempt s outcome t ∧ report = syncReport x.kindName x.name outcome

/-- The turn of a feature, from the status and the stores that the one before left. -/
inductive FeatureTurn (p : Pass) (faults : Faults) (f : Feature) :
    SearchStatus × Recorded → Report → SearchStatus × Recorded → Prop
  | settled {status after : SearchStatus} {change : Option Feature.Transition} {s t : Recorded}
      (hrun : s.run faults (f.reconcile p.owner (p.now f) p.generation (p.toggles.isEnabled f) status).run =
        (.ok (after, change), t)) :
      FeatureTurn p faults f (status, s) { notices := change.toList.map (transitionNotice f) } (after, t)
  /-- The status stays. -/
  | failed {status : SearchStatus} {e : OperatorError} {s t : Recorded}
      (hrun : s.run faults (f.reconcile p.owner (p.now f) p.generation (p.toggles.isEnabled f) status).run =
        (.error e, t)) :
      FeatureTurn p faults f (status, s) { notices := [failureNotice f e], failures := [([f.name], e)] } (status, t)

/-- The turn of the status. -/
inductive StatusTurn (p : Pass) (faults : Faults) (status : SearchStatus) (s : Recorded) : Report → Recorded → Prop
  | unchanged (hsame : p.search.status = some status) : StatusTurn p faults status s {} s
  | written {stored : Search} {t : Recorded} (hchanged : p.search.status ≠ some status)
      (hcall : Recorded.answer faults s (p.statusCall status) = (.ok stored, t)) : StatusTurn p faults status s {} t
  /-- The Search has changed since; the next pass writes the status. -/
  | outdated {what : String} {t : Recorded} (hchanged : p.search.status ≠ some status)
      (hcall : Recorded.answer faults s (p.statusCall status) = (.error (.conflict what), t)) :
      StatusTurn p faults status s {} t
  | failed {e : OperatorError} {t : Recorded} (hchanged : p.search.status ≠ some status)
      (hcall : Recorded.answer faults s (p.statusCall status) = (.error e, t)) (he : ∀ what, e ≠ .conflict what) :
      StatusTurn p faults status s (.failure ["status"] e) t

/-! ## Objects -/

theorem run_syncOne_of_answer (s : Recorded) (x : Wanted) :
    s.run faults (syncOne x) = (syncReport x.kindName x.name (s.run faults (sync x.store x.object).run).1,
      (s.run faults (sync x.store x.object).run).2) := by
  rw [syncOne, Recorded.run_bind]
  rfl

theorem inTurn_run_objects (faults : Faults) {w : World} : ∀ {xs : List Wanted} {s : Recorded}, s.world.Versioned →
    (xs.Pairwise fun x y => y.store ≠ x.store ∨ y.name ≠ x.name) →
    (∀ x ∈ xs, s.world.object? x.store x.name = w.object? x.store x.name) →
    InTurn (ObjectTurn w) xs s (s.run faults (Plan.forEach syncOne xs)).1 (s.run faults (Plan.forEach syncOne xs)).2
  | [], _, _, _, _ => .nil
  | x :: rest, s, hs, hapart, hsame => by
    rw [List.pairwise_cons] at hapart
    rw [List.forall_mem_cons] at hsame
    have hattempt := attempt_run_sync faults hs x
    have hversioned := (sync x.store x.object).run.preserves_versioned faults s hs
    rw [Recorded.run_forEach_cons, run_syncOne_of_answer]
    refine .cons ⟨hsame.1, _, hattempt, rfl⟩ (inTurn_run_objects faults hversioned hapart.2 fun y hy => ?_)
    exact (hattempt.object?_of_ne (hapart.1 y hy)).trans (hsame.2 y hy)

theorem apart_wanted (p : Pass) (live : Option ConfigMap) :
    (p.wanted (p.desired live)).Pairwise fun x y => y.store ≠ x.store ∨ y.name ≠ x.name := by
  refine (List.pairwise_map.1 (p.nodup_keys_wanted live)).imp fun {x y} hne => ?_
  by_cases hplace : y.store = x.store ∧ y.name = x.name
  · exact absurd (by rw [hplace.1, hplace.2]) hne
  · exact Decidable.not_and_iff_or_not.1 hplace

/-! ## Features -/

theorem featureTurn_run_reconcileFeature (p : Pass) (faults : Faults) (f : Feature) (status : SearchStatus)
    (s : Recorded) :
    p.FeatureTurn faults f (status, s) (s.run faults (p.reconcileFeature f status)).1.2
      ((s.run faults (p.reconcileFeature f status)).1.1, (s.run faults (p.reconcileFeature f status)).2) := by
  rw [reconcileFeature, Recorded.run_bind]
  cases hrun : s.run faults (f.reconcile p.owner (p.now f) p.generation (p.toggles.isEnabled f) status).run with
  | mk outcome t =>
    cases outcome with
    | ok a => exact .settled hrun
    | error e => exact .failed hrun

theorem inTurn_run_features (p : Pass) (faults : Faults) : ∀ (fs : List Feature) (status : SearchStatus) (s : Recorded),
    ∃ reports, (s.run faults (p.reconcileFeatures status fs)).1.2 = Report.concat reports ∧
      InTurn (p.FeatureTurn faults) fs (status, s) reports
        ((s.run faults (p.reconcileFeatures status fs)).1.1, (s.run faults (p.reconcileFeatures status fs)).2)
  | [], _, _ => ⟨[], rfl, .nil⟩
  | f :: rest, status, s => by
    obtain ⟨reports, hreports, hlater⟩ := p.inTurn_run_features faults rest
      (s.run faults (p.reconcileFeature f status)).1.1 (s.run faults (p.reconcileFeature f status)).2
    refine ⟨(s.run faults (p.reconcileFeature f status)).1.2 :: reports, ?_, ?_⟩
    · rw [reconcileFeatures, Recorded.run_bind, Recorded.run_bind]
      exact congrArg (Report.append _) hreports
    · rw [reconcileFeatures, Recorded.run_bind, Recorded.run_bind]
      exact .cons (p.featureTurn_run_reconcileFeature faults f status s) hlater

/-! ## Status -/

theorem statusTurn_run_persist (p : Pass) (faults : Faults) (status : SearchStatus) (s : Recorded) :
    p.StatusTurn faults status s (.ofResult ["status"] (s.run faults (p.persist status)).1)
      (s.run faults (p.persist status)).2 := by
  by_cases hsame : p.search.status = some status
  · rw [persist, if_pos hsame]
    exact .unchanged hsame
  · rw [persist, if_neg hsame, Recorded.run_bind]
    have hcall : s.run faults (Work.writeStatus (p.besideSearch .search) p.search.metadata.anyName
        p.search.metadata.resourceVersion (statusJson status)).run =
          Recorded.answer faults s (p.statusCall status) := rfl
    rw [hcall]
    cases hr : Recorded.answer faults s (p.statusCall status) with
    | mk reply t =>
      cases reply with
      | ok stored => exact .written hsame hr
      | error e =>
        cases e with
        | conflict what => exact .outdated hsame hr
        | _ => exact .failed hsame hr (by rintro what ⟨⟩)

/-! ## What turns report -/

/-- A turn of an object reports one of three things: nothing, when the live object agrees and was only fetched; one
notice that names the object, when one write has put it into its place; one failure with the kind and the name of
the object as its labels, when a call failed, and then no write succeeded. -/
theorem ObjectTurn.outcome {w : World} {x : Wanted} {s t : Recorded} {report : Report}
    (h : ObjectTurn w x s report t) :
    (report.notices = [] ∧ report.failures = [] ∧ t.world.store = s.world.store ∧
        t.calls = s.calls ++ [(.fetch x.store x.name, true)] ∧
        ∃ live, w.object? x.store x.name = some live ∧ x.store.kind.Matches live x.object) ∨
      (∃ word write, report.notices =
          [{ isWarning := false, reason := word, action := word,
             note := word ++ " " ++ x.kindName ++ " `" ++ x.name ++ "`" }] ∧
        report.failures = [] ∧ write.isWrite = true ∧
        t.calls = s.calls ++ [(.fetch x.store x.name, true), (write, true)] ∧
        (word = "Created" ∧ w.object? x.store x.name = none ∨
          word = "Updated" ∧ ∃ live, w.object? x.store x.name = some live ∧ ¬x.store.kind.Matches live x.object)) ∨
      ∃ e, report.notices = [] ∧ report.failures = [([x.kindName, x.name], e)] ∧
        t.world.store = s.world.store ∧
        ∃ tried, t.calls = s.calls ++ tried ∧ ∀ call ∈ tried, call.2 = true → call.1.isWrite = false := by
  obtain ⟨hplace, outcome, hattempt, rfl⟩ := h
  rw [← hplace]
  cases hattempt with
  | unchanged hlive hmatches hstore hcalls => exact .inl ⟨rfl, rfl, hstore, hcalls, _, hlive, hmatches⟩
  | created habsent hstore hcalls =>
    exact .inr (.inl ⟨_, _, rfl, rfl, rfl, hcalls, .inl ⟨rfl, habsent⟩⟩)
  | @updated live after _ hlive hamend hstore hcalls =>
    have hdiffers : ¬x.store.kind.Matches live x.object := by
      intro hmatches
      cases hamend.symm.trans (x.store.kind.amend_eq_none_iff.2 hmatches)
    exact .inr (.inl ⟨_, _, rfl, rfl, rfl, hcalls, .inr ⟨rfl, live, hlive, hdiffers⟩⟩)
  | failed hstore hcalls => exact .inr (.inr ⟨_, rfl, rfl, hstore, hcalls⟩)

/-- A turn of a feature reports no failure and at most one notice, which is no warning and has the name of the
feature; or it fails, and then the status stays, and there are one warning and one failure with the name of the
feature as its label. -/
theorem FeatureTurn.outcome {f : Feature} {report : Report} {status after : SearchStatus} {s t : Recorded}
    (h : p.FeatureTurn faults f (status, s) report (after, t)) :
    (report.failures = [] ∧ report.notices.length ≤ 1 ∧
        ∀ n ∈ report.notices, n.isWarning = false ∧ n.action = "Reconciling" ∧
          (n.reason = "FeatureEnabled" ∧ n.note = f.name ++ " is enabled" ∨
            n.reason = "FeatureDisabled" ∧ n.note = f.name ++ " is disabled" ∨
            n.reason = "FeatureCleared" ∧ n.note = f.name ++ " was never active, condition cleared")) ∨
      ∃ e, after = status ∧ report.failures = [([f.name], e)] ∧ report.notices =
        [{ isWarning := true, reason := "FeatureFailed", action := "Reconciling",
           note := f.name ++ ": " ++ e.message }] := by
  cases h with
  | @settled _ _ change =>
    refine .inl ⟨rfl, ?_⟩
    cases change with
    | none => simp
    | some change => cases change <;> simp [transitionNotice]
  | failed => exact .inr ⟨_, rfl, rfl, rfl⟩

/-! ## The pass -/

theorem run_applyDesired (p : Pass) (faults : Faults) (live : Option ConfigMap) (s : Recorded) :
    s.run faults (p.applyDesired live) =
      let objects := s.run faults (Plan.forEach syncOne (p.wanted (p.desired live)))
      let features := objects.2.run faults (p.reconcileFeatures (p.search.status.getD {}) Feature.all)
      let written := features.2.run faults (p.persist (finalStatus (p.desired live) features.1.1))
      (Report.concat objects.1 ++ features.1.2 ++ .ofResult ["status"] written.1, written.2) := by
  rw [applyDesired, Recorded.run_bind, Recorded.run_bind, Recorded.run_bind]
  rfl

/-- Once the live database configuration was read, all objects and then all features have their turns, and the
status has its own. The report has what they report, in this order. -/
theorem inTurn_run_applyDesired (p : Pass) (faults : Faults) (live : Option ConfigMap) {s : Recorded}
    (hs : s.world.Versioned) : ∃ objects u features status v last t,
      InTurn (ObjectTurn s.world) (p.wanted (p.desired live)) s objects u ∧
      InTurn (p.FeatureTurn faults) Feature.all (p.search.status.getD {}, u) features (status, v) ∧
      p.StatusTurn faults (finalStatus (p.desired live) status) v last t ∧
      s.run faults (p.applyDesired live) = (⟨(objects ++ features ++ [last]).flatMap (·.notices),
        (objects ++ features ++ [last]).flatMap (·.failures)⟩, t) := by
  let objects := s.run faults (Plan.forEach syncOne (p.wanted (p.desired live)))
  let features := objects.2.run faults (p.reconcileFeatures (p.search.status.getD {}) Feature.all)
  let written := features.2.run faults (p.persist (finalStatus (p.desired live) features.1.1))
  obtain ⟨reports, hconcat, hfeatures⟩ := p.inTurn_run_features faults Feature.all (p.search.status.getD {}) objects.2
  refine ⟨objects.1, objects.2, reports, features.1.1, features.2, .ofResult ["status"] written.1, written.2,
    inTurn_run_objects faults hs (p.apart_wanted live) fun _ _ => rfl, hfeatures, p.statusTurn_run_persist _ _ _, ?_⟩
  have hreport : features.1.2 = Report.concat reports := hconcat
  rw [p.run_applyDesired faults live s]
  show (Report.concat objects.1 ++ features.1.2 ++ .ofResult ["status"] written.1, written.2) = _
  rw [hreport, Report.concat_append_concat_append]

/-- A pass that cannot read the live database configuration ends with that failure, without a notice or a write.
Otherwise all objects, all features and the status have their turns, and the notices and the failures of the pass are
exactly those of the turns. -/
theorem apply_isolates_failures (p : Pass) (faults : Faults) {s : Recorded} (hbuilt : s.world.Built) :
    (∀ e, faults s.calls.length = some e →
      s.run faults p.apply = (([], .error e), ⟨s.world, s.calls ++ [(p.configCall, false)]⟩)) ∧
    (faults s.calls.length = none → ∃ objects u features status v last t,
      InTurn (ObjectTurn s.world) (p.wanted (p.desired (p.liveConfig s.world)))
        ⟨s.world.logged p.configCall, s.calls ++ [(p.configCall, true)]⟩ objects u ∧
      InTurn (p.FeatureTurn faults) Feature.all (p.search.status.getD {}, u) features (status, v) ∧
      p.StatusTurn faults (finalStatus (p.desired (p.liveConfig s.world)) status) v last t ∧
      s.run faults p.apply = (((objects ++ features ++ [last]).flatMap (·.notices),
        Failures.toResult ((objects ++ features ++ [last]).flatMap (·.failures))), t)) := by
  have hread : s.run faults (Work.fetch (p.besideSearch .configMap) Desired.databaseConfigName).run =
      Recorded.answer faults s p.configCall := rfl
  constructor
  · intro e he
    have hcall : Recorded.answer faults s p.configCall = (.error e, ⟨s.world, s.calls ++ [(p.configCall, false)]⟩) := by
      unfold Recorded.answer
      rw [he]
    rw [apply, Recorded.run_bind, hread, hcall]
    rfl
  · intro hnone
    have hcall : Recorded.answer faults s p.configCall =
        (.ok (p.liveConfig s.world), ⟨s.world.logged p.configCall, s.calls ++ [(p.configCall, true)]⟩) := by
      unfold Recorded.answer
      rw [hnone]
      rfl
    have hversioned : (s.world.logged p.configCall).Versioned := hbuilt.versioned.congr rfl
    obtain ⟨objects, u, features, status, v, last, t, hobjects, hfeatures, hlast, hrun⟩ :=
      @inTurn_run_applyDesired p faults (p.liveConfig s.world)
        ⟨s.world.logged p.configCall, s.calls ++ [(p.configCall, true)]⟩ hversioned
    refine ⟨objects, u, features, status, v, last, t, hobjects, hfeatures, hlast, ?_⟩
    rw [apply, Recorded.run_bind, hread, hcall]
    show Recorded.run faults _ (do
      let report ← p.applyDesired (p.liveConfig s.world)
      pure (report.notices, report.failures.toResult)) = _
    rw [Recorded.run_bind, hrun]
    rfl

/-- The third call of a run is made to fail. -/
def thirdFails : Faults := fun n => if n = 2 then some (.other "refused") else none

/-- The labels of the failures of a result. -/
def failureLabels : Except OperatorError Unit → List (List String)
  | .error (.aggregate causes) => causes.map (·.1)
  | _ => []

/-- When the service account cannot be created everything else has its turn, and that is the only failure. -/
theorem apply_isolates_failures_sampleStores :
    failureLabels ((⟨sampleStores, []⟩ : Recorded).run thirdFails samplePass.apply).1.2 =
      [["ServiceAccount", Desired.serviceAccountName]] ∧
    ∃ objects u features status v last t,
      InTurn (ObjectTurn sampleStores) (samplePass.wanted (samplePass.desired (samplePass.liveConfig sampleStores)))
        ⟨sampleStores.logged samplePass.configCall, [(samplePass.configCall, true)]⟩ objects u ∧
      InTurn (samplePass.FeatureTurn thirdFails) Feature.all ({}, u) features (status, v) ∧
      samplePass.StatusTurn thirdFails (finalStatus (samplePass.desired (samplePass.liveConfig sampleStores)) status) v
        last t ∧
      (⟨sampleStores, []⟩ : Recorded).run thirdFails samplePass.apply =
        (((objects ++ features ++ [last]).flatMap (·.notices),
          Failures.toResult ((objects ++ features ++ [last]).flatMap (·.failures))), t) := by
  have hbuilt : sampleStores.Built := .seed _ _ (.seed _ _ Feature.built_sampleHub)
  exact ⟨by decide +kernel, (@apply_isolates_failures samplePass thirdFails ⟨sampleStores, []⟩ hbuilt).2 rfl⟩

end Pass

end HubSearch
