/-
What a pass reports in the status, while any call can fail. The computed status is that of the snapshot with the
conditions of the features that got to their places (`conditions_of_inTurn`). It is written once at the end, exactly
when it differs. A live Search that still has the version of the snapshot reports it then, and is the same otherwise;
one that has changed since stays as it is. Main statement: `apply_reports_status`.
-/
import HubSearch.Proofs.Pass.Isolation
import HubSearch.Proofs.Search.Faithful
import HubSearch.Proofs.Store.History

namespace HubSearch

open World

/-! ## Conditions that features leave alone -/

theorem Condition.filter_not_mem_cons (type : String) (types : List String) (cs : List Condition) :
    cs.filter (fun c => c.type ∉ type :: types) = (remove type cs).filter fun c => c.type ∉ types := by
  rw [remove, List.filter_filter]
  refine List.filter_congr fun c _ => ?_
  simp [Bool.and_comm]

theorem Condition.find?_filter_not_mem {type : String} {types : List String} (h : type ∉ types) (cs : List Condition) :
    find? type (cs.filter fun c => c.type ∉ types) = find? type cs := by
  rw [find?, find?, List.find?_filter]
  congr 1
  funext c
  by_cases hc : c.type = type <;> simp [hc, h]

theorem Condition.remove_filter (type : String) (p : Condition → Bool) (cs : List Condition) :
    remove type (cs.filter p) = (remove type cs).filter p := by
  rw [remove, remove, List.filter_filter, List.filter_filter]
  exact List.filter_congr fun c _ => Bool.and_comm _ _

namespace Pass

variable {p : Pass} {faults : Faults} {f : Feature} {after computed : SearchStatus} {s t u v : Recorded}

/-! ## The computed status -/

/-- The types of the conditions of the features that got to their places. -/
def settledTypes (fs : List Feature) (reports : List Report) : List String :=
  ((fs.zip reports).filter fun turn => turn.2.failures.isEmpty).map fun turn => turn.1.conditionType

theorem settledTypes_cons {report : Report} (h : report.failures = []) (f : Feature) (fs : List Feature)
    (reports : List Report) :
    settledTypes (f :: fs) (report :: reports) = f.conditionType :: settledTypes fs reports := by
  rw [settledTypes, List.zip_cons_cons, List.filter_cons, h]
  rfl

theorem mem_of_mem_settledTypes {fs : List Feature} {reports : List Report}
    (h : f.conditionType ∈ settledTypes fs reports) : f ∈ fs := by
  obtain ⟨turn, hturn, htype⟩ := List.mem_map.1 h
  rw [← Feature.conditionType_injective htype]
  exact (List.of_mem_zip (List.mem_filter.1 hturn).1).1

/-- Only features that got to their places change conditions, and each of them its own. -/
theorem conditions_of_inTurn : ∀ {fs : List Feature} {reports : List Report} {status : SearchStatus} {s : Recorded},
    InTurn (p.FeatureTurn faults) fs (status, s) reports (after, t) →
    after.conditionList.filter (fun c => c.type ∉ settledTypes fs reports) =
      status.conditionList.filter fun c => c.type ∉ settledTypes fs reports
  | [], _, _, _, .nil => rfl
  | f :: rest, _, _, _, .cons first later => by
    have ih := conditions_of_inTurn later
    cases first with
    | failed => exact ih
    | settled hrun =>
      rw [settledTypes_cons rfl, Condition.filter_not_mem_cons, Condition.filter_not_mem_cons,
        ← Condition.remove_filter, ih, Condition.remove_filter, (Feature.marks_of_run_reconcile hrun).remove_eq]

theorem condition?_of_inTurn {fs : List Feature} {reports : List Report} {status : SearchStatus} (hf : f ∉ fs)
    (h : InTurn (p.FeatureTurn faults) fs (status, s) reports (after, t)) :
    after.condition? f.conditionType = status.condition? f.conditionType := by
  have htype : f.conditionType ∉ settledTypes fs reports := fun hmem => hf (mem_of_mem_settledTypes hmem)
  rw [SearchStatus.condition?, ← Condition.find?_filter_not_mem htype, conditions_of_inTurn h,
    Condition.find?_filter_not_mem htype]
  rfl

theorem cleared_of_inTurn (hoff : p.toggles.isEnabled f = false) : ∀ {fs : List Feature} {reports : List Report}
    {status : SearchStatus} {s : Recorded}, fs.Nodup → f ∈ fs → f.state status = .inactive →
    InTurn (p.FeatureTurn faults) fs (status, s) reports (after, t) → after.condition? f.conditionType = none
  | g :: rest, _, status, _, hn, hf, hstate, .cons first later => by
    rw [List.nodup_cons] at hn
    by_cases hfg : f = g
    · subst hfg
      cases first with
      | settled hrun =>
        rw [hoff, Feature.reconcile_off_of_inactive hstate] at hrun
        cases hrun
        rw [condition?_of_inTurn hn.1 later]
        exact status.condition?_remove_self _
      | failed hrun =>
        rw [hoff, Feature.reconcile_off_of_inactive hstate] at hrun
        cases hrun
    · have hrest := (List.mem_cons.1 hf).resolve_left hfg
      cases first with
      | failed => exact cleared_of_inTurn hoff hn.2 hrest hstate later
      | settled hrun =>
        refine cleared_of_inTurn hoff hn.2 hrest ?_ later
        have hmarks := Feature.marks_of_run_reconcile hrun
        rw [Feature.state, hmarks.condition?_of_ne fun htype => hfg (Feature.conditionType_injective htype)]
        exact hstate

/-- What a pass computes from the status of the snapshot. -/
structure Computes (p : Pass) (d : DesiredState) (reports : List Report) (before computed : SearchStatus) : Prop where
  db : computed.db = some Component.database.name
  storage : computed.storage = some d.storageName
  /-- Conditions change for the features that have not failed only. -/
  conditions : computed.conditionList.filter (fun c => c.type ∉ settledTypes Feature.all reports) =
    before.conditionList.filter fun c => c.type ∉ settledTypes Feature.all reports
  /-- The condition of a feature that is off and never became active is dropped. -/
  cleared : ∀ f : Feature, p.toggles.isEnabled f = false → f.state before = .inactive →
    computed.condition? f.conditionType = none

theorem computes_finalStatus (d : DesiredState) {reports : List Report} {before : SearchStatus}
    (h : InTurn (p.FeatureTurn faults) Feature.all (before, s) reports (after, t)) :
    p.Computes d reports before (finalStatus d after) := by
  have hlist : (finalStatus d after).conditionList = after.conditionList := rfl
  refine ⟨rfl, rfl, ?_, fun f hoff hstate => ?_⟩
  · rw [hlist, conditions_of_inTurn h]
  · rw [SearchStatus.condition?, hlist]
    have hnodup : Feature.all.Nodup := by decide
    have hmem : f ∈ Feature.all := by cases f <;> decide
    exact cleared_of_inTurn hoff hnodup hmem hstate h

/-! ## Before the status -/

/-- The calls from one state to another write no status, and nothing to the store of the Search. -/
structure Spares (p : Pass) (s t : Recorded) : Prop where
  store : t.world.store (p.besideSearch .search) = s.world.store (p.besideSearch .search)
  blocks : ∀ r name, t.world.blocks r name = s.world.blocks r name
  calls : ∃ made, t.calls = s.calls ++ made ∧ ∀ call ∈ made, call.1.isStatusWrite = false

theorem Spares.trans (h : p.Spares s t) (h' : p.Spares t u) : p.Spares s u := by
  obtain ⟨made, ht, hmade⟩ := h.calls
  obtain ⟨more, hu, hmore⟩ := h'.calls
  refine ⟨h'.store.trans h.store, fun r name => (h'.blocks r name).trans (h.blocks r name), made ++ more,
    by rw [hu, ht, List.append_assoc], fun call hcall => ?_⟩
  exact (List.mem_append.1 hcall).elim (hmade call) (hmore call)

theorem spares_run {α : Type} {plan : Plan α}
    (h : plan.Makes fun c => c.store ≠ p.besideSearch .search ∧ c.isStatusWrite = false) (faults : Faults)
    (s : Recorded) : p.Spares s (s.run faults plan).2 where
  store := (h.mono fun _ hc _ => hc.1).preserves_store faults s rfl
  blocks := plan.blocks_run faults s
  calls := (h.mono fun _ hc => hc.2).exists_calls faults s

theorem spares_run_objects (p : Pass) (faults : Faults) (live : Option ConfigMap) (s : Recorded) :
    p.Spares s (s.run faults (Plan.forEach syncOne (p.wanted (p.desired live)))).2 :=
  spares_run ((p.makes_objects live).mono fun _ hc => ⟨(hc.1 _).symm, hc.2.2⟩) faults s

theorem spares_run_features (p : Pass) (faults : Faults) (status : SearchStatus) (s : Recorded) :
    p.Spares s (s.run faults (p.reconcileFeatures status Feature.all)).2 :=
  spares_run ((p.makes_reconcileFeatures Feature.all status).mono fun _ hc => ⟨hc.store_ne_search _, hc.2⟩) faults s

/-! ## The status -/

/-- The live Search. -/
def liveSearch? (p : Pass) (w : World) : Option Search := w.object? (p.besideSearch .search) p.search.metadata.anyName

/-- The Search that the pass started from was live at some time. -/
def WasLive (p : Pass) (w : World) : Prop :=
  ∃ es more, w = ofHistory (es ++ more) ∧ p.liveSearch? (ofHistory es) = some p.search

/-- A live Search that still has the version of the snapshot is the snapshot. -/
theorem eq_of_wasLive {w : World} (h : p.WasLive w) {live : Search} (hlive : p.liveSearch? w = some live)
    (hversion : live.metadata.resourceVersion = p.search.metadata.resourceVersion) : live = p.search := by
  obtain ⟨es, more, rfl, hsearch⟩ := h
  exact (object?_eq_of_version hsearch hlive hversion).2

/-- What a pass does about the status that it computes. The pass began in the state `s`, and came to the status in the
state `v`. If the status was written then, `written` says whether that succeeded. -/
structure Reported (p : Pass) (faults : Faults) (computed : SearchStatus) (s v : Recorded) (written : Option Bool)
    (last : Report) (t : Recorded) : Prop where
  /-- Until then no status was written. -/
  earlier : ∃ made, v.calls = s.calls ++ made ∧ ∀ call ∈ made, call.1.isStatusWrite = false
  /-- Nothing is called afterwards. -/
  once : t.calls = v.calls ++ (written.map fun ok => (p.statusCall computed, ok)).toList
  unneeded : written = none ↔ p.search.status = some computed
  /-- A live Search of the version that the pass started from reports the status afterwards, unless the write failed.
  Where none was needed, what is live must be what the pass started from. -/
  current : ∀ live, p.liveSearch? s.world = some live →
    live.metadata.resourceVersion = p.search.metadata.resourceVersion → written ≠ some false →
    (written = none → p.WasLive s.world ∨ live.status = p.search.status) →
    ∃ after, p.liveSearch? t.world = some after ∧ live.Reports computed after ∧
      ∀ type, computed.condition? type = none → after.status.bind (·.condition? type) = none
  /-- A live Search of another version stays as it is, and that is no failure, unless the write was made to fail. -/
  outdated : ∀ live, p.liveSearch? s.world = some live →
    live.metadata.resourceVersion ≠ p.search.metadata.resourceVersion →
    p.liveSearch? t.world = some live ∧
      (faults v.calls.length = none →
        s.world.blocks (p.besideSearch .search) p.search.metadata.anyName = false → last.failures = [])

section

variable (hspares : p.Spares s v)

include hspares

theorem Spares.liveSearch? : p.liveSearch? v.world = p.liveSearch? s.world :=
  congrArg (fun stored : Store .search => stored.objects.get? p.search.metadata.anyName) hspares.store

theorem reported_of_unneeded (hsame : p.search.status = some computed) :
    p.Reported faults computed s v none {} v where
  earlier := hspares.calls
  once := (List.append_nil _).symm
  unneeded := iff_of_true rfl hsame
  current live hlive hversion _ hstill := by
    have hstatus : live.status = some computed := by
      rcases hstill rfl with hwas | hstatus
      · rw [eq_of_wasLive hwas hlive hversion, hsame]
      · rw [hstatus, hsame]
    have hreports := Search.reports_self hstatus
    exact ⟨live, hspares.liveSearch?.trans hlive, hreports, fun _ => hreports.condition?_eq_none⟩
  outdated live hlive _ := ⟨hspares.liveSearch?.trans hlive, fun _ _ => rfl⟩

theorem reported_of_written (hversion : p.search.metadata.resourceVersion ≠ none) (hdb : computed.db ≠ none)
    (hstorage : computed.storage ≠ none) (hchanged : p.search.status ≠ some computed) {stored : Search}
    (hcall : Recorded.answer faults v (p.statusCall computed) = (.ok stored, t)) :
    p.Reported faults computed s v (some true) {} t := by
  rcases Recorded.answer_cases faults v (p.statusCall computed) with ⟨reply, hreply, hr⟩ | ⟨e, w, hr, -⟩
  · obtain rfl := (Prod.mk.inj (hr.symm.trans hcall)).2
    rcases answer_writeStatus_cases v.world (p.besideSearch .search) p.search.metadata.anyName
      p.search.metadata.resourceVersion (statusJson computed) with ⟨written, merged, hl, hv, hm, hc⟩ | ⟨e, he, -⟩
    · have hsame : ∀ live, p.liveSearch? s.world = some live → live = written := fun live hlive =>
        Option.some.inj ((hspares.liveSearch?.trans hlive).symm.trans hl)
      refine ⟨hspares.calls, rfl, iff_of_false nofun hchanged, fun live hlive _ _ _ => ?_, fun live hlive hne => ?_⟩
      · obtain rfl := hsame live hlive
        have hreports := Search.reports_of_withStatus hdb hstorage hm
          ((v.world.store (p.besideSearch .search)).version + 1)
        refine ⟨_, ?_, hreports, fun _ => hreports.condition?_eq_none⟩
        dsimp only [liveSearch?]
        rw [show answer v.world (p.statusCall computed) = _ from hc]
        exact object?_put_self (v.world.logged (p.statusCall computed)) _ _ _
      · obtain rfl := hsame live hlive
        exact absurd (hv.resolve_left hversion) hne
    · cases hreply.symm.trans he
  · cases hr.symm.trans hcall

theorem reported_of_failed (hversion : p.search.metadata.resourceVersion ≠ none)
    (hchanged : p.search.status ≠ some computed) {e : OperatorError} {last : Report}
    (hcall : Recorded.answer faults v (p.statusCall computed) = (.error e, t))
    (hlast : ∀ what, e = .conflict what → last.failures = []) :
    p.Reported faults computed s v (some false) last t := by
  rcases Recorded.answer_cases faults v (p.statusCall computed) with ⟨reply, -, hr⟩ | ⟨e', w, hr, hstore⟩
  · cases hr.symm.trans hcall
  · obtain ⟨he, rfl⟩ := Prod.mk.inj (hr.symm.trans hcall)
    refine ⟨hspares.calls, rfl, iff_of_false nofun hchanged, fun _ _ _ hne => absurd rfl hne, fun live hlive hne => ?_⟩
    have hlive' := hspares.liveSearch?.trans hlive
    refine ⟨(object?_congr hstore _ _).trans hlive', fun hfaults hblocks => ?_⟩
    -- a write that is not made to fail is refused for the version
    have hrefused : (World.answer v.world (p.statusCall computed)).1 = .error (.conflict _) :=
      answer_writeStatus_conflict ((hspares.blocks _ _).trans hblocks) hlive' hversion hne
    unfold Recorded.answer at hcall
    rw [hfaults] at hcall
    exact hlast _ (Except.error.inj ((congrArg (·.1) hcall).symm.trans hrefused))

theorem exists_reported_of_statusTurn (hversion : p.search.metadata.resourceVersion ≠ none) (hdb : computed.db ≠ none)
    (hstorage : computed.storage ≠ none) {last : Report} (h : p.StatusTurn faults computed v last t) :
    ∃ written, p.Reported faults computed s v written last t := by
  cases h with
  | unchanged hsame => exact ⟨_, reported_of_unneeded hspares hsame⟩
  | written hchanged hcall => exact ⟨_, reported_of_written hspares hversion hdb hstorage hchanged hcall⟩
  | outdated hchanged hcall => exact ⟨_, reported_of_failed hspares hversion hchanged hcall fun _ _ => rfl⟩
  | failed hchanged hcall he =>
    exact ⟨_, reported_of_failed hspares hversion hchanged hcall fun what hconflict => absurd hconflict (he what)⟩

end

/-! ## The pass -/

/-- The state in which a pass has read the live database configuration. -/
def afterRead (p : Pass) (s : Recorded) : Recorded :=
  ⟨s.world.logged p.configCall, s.calls ++ [(p.configCall, true)]⟩

theorem run_apply_of_read (p : Pass) {faults : Faults} {s : Recorded} (hread : faults s.calls.length = none) :
    s.run faults p.apply =
      let rest := (p.afterRead s).run faults (p.applyDesired (p.liveConfig s.world))
      ((rest.1.notices, rest.1.failures.toResult), rest.2) := by
  have hcall : s.run faults (Work.fetch (p.besideSearch .configMap) Desired.databaseConfigName).run =
      (.ok (p.liveConfig s.world), p.afterRead s) := by
    show Recorded.answer faults s p.configCall = _
    unfold Recorded.answer
    rw [hread]
    rfl
  rw [apply, Recorded.run_bind, hcall]
  show Recorded.run faults _ (do
    let report ← p.applyDesired (p.liveConfig s.world)
    pure (report.notices, report.failures.toResult)) = _
  rw [Recorded.run_bind]
  rfl

/-- A pass that has read the live database configuration reports faithfully what it came to. All objects are applied and
all features have their turns. What they come to makes the computed status, and that is written once and only if it
differs from the status that the pass started from. -/
theorem apply_reports_status (p : Pass) (faults : Faults) {s : Recorded}
    (hversion : p.search.metadata.resourceVersion ≠ none) (hread : faults s.calls.length = none) :
    let d := p.desired (p.liveConfig s.world)
    ∃ objects u features status v written last t,
      (p.afterRead s).run faults (Plan.forEach syncOne (p.wanted d)) = (objects, u) ∧
      InTurn (p.FeatureTurn faults) Feature.all (p.search.status.getD {}, u) features (status, v) ∧
      p.Computes d features (p.search.status.getD {}) (finalStatus d status) ∧
      p.Reported faults (finalStatus d status) s v written last t ∧
      s.run faults p.apply = (((objects ++ features ++ [last]).flatMap (·.notices),
        Failures.toResult ((objects ++ features ++ [last]).flatMap (·.failures))), t) := by
  intro d
  let objects := (p.afterRead s).run faults (Plan.forEach syncOne (p.wanted d))
  let features := objects.2.run faults (p.reconcileFeatures (p.search.status.getD {}) Feature.all)
  let written := features.2.run faults (p.persist (finalStatus d features.1.1))
  obtain ⟨reports, hconcat, hturns⟩ := p.inTurn_run_features faults Feature.all (p.search.status.getD {}) objects.2
  have hbefore : p.Spares s (p.afterRead s) :=
    ⟨rfl, fun _ _ => rfl, [(p.configCall, true)], rfl, fun call hcall => by rw [List.mem_singleton.1 hcall]; rfl⟩
  have hspares : p.Spares s features.2 :=
    (hbefore.trans (p.spares_run_objects faults _ _)).trans (p.spares_run_features faults _ _)
  obtain ⟨outcome, hreported⟩ := exists_reported_of_statusTurn hspares hversion (Option.some_ne_none _)
    (Option.some_ne_none _) (p.statusTurn_run_persist faults (finalStatus d features.1.1) features.2)
  refine ⟨objects.1, objects.2, reports, features.1.1, features.2, outcome, .ofResult ["status"] written.1, written.2,
    rfl, hturns, computes_finalStatus d hturns, hreported, ?_⟩
  have hrun : (p.afterRead s).run faults (p.applyDesired (p.liveConfig s.world)) =
      (Report.concat objects.1 ++ Report.concat reports ++ .ofResult ["status"] written.1, written.2) := by
    rw [← hconcat]
    exact p.run_applyDesired faults _ _
  rw [p.run_apply_of_read hread, hrun, Report.concat_append_concat_append]

/-- When the service account cannot be created the status is written all the same, and the live Search reports it. When
the Search was edited after the pass had begun, what is live then stays, and that is no failure. -/
theorem apply_reports_status_sampleStores :
    let d := samplePass.desired (samplePass.liveConfig sampleStores)
    let edited := sampleStores.seed (samplePass.besideSearch .search) sampleSearch
    (∃ features status v last t after,
      samplePass.Computes d features {} (finalStatus d status) ∧
      samplePass.Reported thirdFails (finalStatus d status) ⟨sampleStores, []⟩ v (some true) last t ∧
      ((⟨sampleStores, []⟩ : Recorded).run thirdFails samplePass.apply).2 = t ∧
      samplePass.liveSearch? t.world = some after ∧ sampleSearch.Reports (finalStatus d status) after) ∧
    ∃ computed v written last t, samplePass.Reported (fun _ => none) computed ⟨edited, []⟩ v written last t ∧
      ((⟨edited, []⟩ : Recorded).run (fun _ => none) samplePass.apply).2 = t ∧
      samplePass.liveSearch? t.world = samplePass.liveSearch? edited ∧ last.failures = [] := by
  intro d edited
  constructor
  · obtain ⟨_, _, features, status, v, written, last, t, -, -, hcomputes, hreported, hrun⟩ :=
      @apply_reports_status samplePass thirdFails ⟨sampleStores, []⟩ (by decide) rfl
    have ht : ((⟨sampleStores, []⟩ : Recorded).run thirdFails samplePass.apply).2 = t := congrArg (·.2) hrun
    have hlast : (((⟨sampleStores, []⟩ : Recorded).run thirdFails samplePass.apply).2.calls.getLast?).map (·.2) =
        some true := by decide +kernel
    obtain rfl : written = some true := by
      cases written with
      | none => cases hreported.unneeded.1 rfl
      | some ok =>
        rw [ht, hreported.once, Option.map_some, Option.toList_some, List.getLast?_concat] at hlast
        exact hlast
    obtain ⟨after, hafter, hreports, -⟩ := hreported.current sampleSearch (by decide +kernel) rfl nofun nofun
    exact ⟨features, status, v, last, t, after, hcomputes, hreported, ht, hafter, hreports⟩
  · obtain ⟨_, _, _, status, v, written, last, t, -, -, -, hreported, hrun⟩ :=
      @apply_reports_status samplePass (fun _ => none) ⟨edited, []⟩ (by decide) rfl
    obtain ⟨live, hlive, hversion⟩ : ∃ live, samplePass.liveSearch? edited = some live ∧
        live.metadata.resourceVersion ≠ sampleSearch.metadata.resourceVersion :=
      ⟨Store.stamped (k := .search) 2 sampleSearch, by decide +kernel, by decide⟩
    obtain ⟨hsame, hfailures⟩ := hreported.outdated live hlive hversion
    have ht : ((⟨edited, []⟩ : Recorded).run (fun _ => none) samplePass.apply).2 = t := congrArg (·.2) hrun
    exact ⟨_, v, written, last, t, hreported, ht, hsame.trans hlive.symm, hfailures rfl (by decide +kernel)⟩

end Pass

end HubSearch
