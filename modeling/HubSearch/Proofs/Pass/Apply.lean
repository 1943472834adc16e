/-
The parts of a pass on the stores in memory: applying the objects, bringing the features to their places, and
writing the status. What a pass that succeeds has gone through is `run_apply_ok`; each part also has a
statement of what it costs when nothing is left to do.
-/
import HubSearch.Proofs.Desired
import HubSearch.Proofs.Feature.Reconcile
import HubSearch.Proofs.Search.Reread

namespace HubSearch

open World

/-- The state of a feature does not depend on instants. -/
theorem Feature.state_of_alike {f : Feature} {status status' : SearchStatus}
    (h : List.Forall₂ Condition.Alike status'.conditionList status.conditionList) :
    f.state status' = f.state status := by
  rw [state, state, SearchStatus.condition?, SearchStatus.condition?]
  rcases Condition.find?_of_alike f.conditionType h with ⟨hn', hn⟩ | ⟨c', c, hc', hc, ha⟩
  · rw [hn', hn]
  · rw [hc', hc, ofCondition_eq_of_agrees ha.agrees]

/-! ## Reports -/

namespace Report

theorem failures_append (a b : Report) : (a ++ b).failures = a.failures ++ b.failures := rfl

theorem failures_concat_eq_nil : ∀ {rs : List Report}, (concat rs).failures = [] ↔ ∀ r ∈ rs, r.failures = []
  | [] => by simp [concat]
  | r :: rest => by
    show (r ++ concat rest).failures = [] ↔ _
    rw [failures_append, List.append_eq_nil_iff, failures_concat_eq_nil, List.forall_mem_cons]

/-- The report of parts that had nothing to report. -/
theorem concat_map_empty {α : Type} : ∀ xs : List α, concat (xs.map fun _ => {}) = {}
  | [] => rfl
  | _ :: rest => by
    show ({} : Report) ++ concat (rest.map fun _ => {}) = {}
    rw [concat_map_empty rest]
    rfl

theorem failures_ofResult_eq_nil {α : Type} {labels : List String} {r : Except OperatorError α} :
    (ofResult labels r).failures = [] ↔ ∃ a, r = .ok a := by
  cases r <;> simp [ofResult, failure]

end Report

namespace Pass

variable {p : Pass} {w v : World}

theorem new?_eq_ok {search : Search} {config : OperatorConfig} {now : Feature → Timestamp} :
    Pass.new? search config now = .ok p ↔ ∃ owner, Owner.of? search = .ok owner ∧ p = ⟨search, owner, config, now⟩ := by
  unfold new?
  cases Owner.of? search with
  | error e => exact iff_of_false (fun h => nomatch h) fun ⟨_, h, _⟩ => nomatch h
  | ok owner =>
    constructor
    · rintro ⟨⟩
      exact ⟨owner, rfl, rfl⟩
    · rintro ⟨_, ⟨⟩, rfl⟩
      rfl

/-! ## Objects -/

theorem run_syncOne (w : World) (x : Wanted) :
    w.run (syncOne x) = (syncReport x.kindName x.name (w.run (sync x.store x.object).run).1,
      (w.run (sync x.store x.object).run).2) := by
  rw [syncOne, run_bind, run_pure]
  rfl

theorem failures_syncReport_eq_nil {kind name : String} {outcome : Except OperatorError SyncOutcome} :
    (syncReport kind name outcome).failures = [] ↔ ∃ o, outcome = .ok o := by
  cases outcome with
  | ok o => cases o <;> exact iff_of_true rfl ⟨_, rfl⟩
  | error e => simp [syncReport, Report.failure]

theorem makes_syncOne (x : Wanted) : (syncOne x).Makes fun c => c.store = x.store ∧ c.isStatusWrite = false :=
  (makes_sync x.store x.object).bind fun _ => Plan.makes_pure _

theorem keeps_syncOne {P : World → Prop} {x : Wanted} (h : (sync x.store x.object).run.Keeps P) :
    (syncOne x).Keeps P := by
  intro w hw
  rw [run_syncOne]
  exact h w hw

/-- Objects that were all applied without a failure are all held. -/
theorem holds_of_run_forEach_syncOne {xs : List Wanted} (hnames : ∀ x ∈ xs, x.store.kind.HasDistinctNames x.object)
    (hcompatible : ∀ x ∈ xs, ∀ y ∈ xs, x.Compatible y) {reports : List Report} (hw : w.Versioned)
    (h : w.run (Plan.forEach syncOne xs) = (reports, v)) (hok : ∀ r ∈ reports, r.failures = []) :
    ∀ x ∈ xs, v.Holds x := by
  refine @Plan.post_forEach _ _ World.Versioned (fun x v => v.Holds x) _ (fun r => r.failures = [])  _
    (fun _ _ => Plan.keeps_versioned _) (fun x hx u r u' hu hr hgood => ?_)
    (fun x hx y hy => keeps_syncOne (Feature.keeps_sync_holds (hcompatible x hx y hy))) _ _ _ hw h hok
  rw [run_syncOne] at hr
  obtain ⟨rfl, rfl⟩ := Prod.mk.inj hr
  obtain ⟨o, ho⟩ := failures_syncReport_eq_nil.1 hgood
  exact holds_of_run_sync_ok hu (hnames x hx) (Prod.ext ho rfl)

/-- Objects are applied without a failure, unless writes are made to fail, when what is in their places carries their
names. -/
theorem failures_run_forEach_syncOne : ∀ {xs : List Wanted} {w v : World} {reports : List Report},
    (∀ x ∈ xs, (x.store.kind.metadata x.object).name = some x.name) → w.Versioned → w.Unblocked →
    (∀ x ∈ xs, w.NamedAt x.store x.name) → w.run (Plan.forEach syncOne xs) = (reports, v) →
    ∀ r ∈ reports, r.failures = []
  | [], _, _, _, _, _, _, _, h => by
    cases h
    exact fun _ hr => absurd hr List.not_mem_nil
  | x :: rest, w, _, _, hnames, hw, hblocks, hplaces, h => by
    have hname := hnames x List.mem_cons_self
    obtain ⟨o, u, hu⟩ := run_sync_ok hblocks hname (hplaces x List.mem_cons_self)
    have hblocks' := (sync x.store x.object).run.keeps_unblocked w hblocks
    have hplaces' := fun y hy => namedAt_run_sync hw hname (hplaces y (List.mem_cons_of_mem x hy))
    rw [run_forEach_cons, run_syncOne, hu] at h
    rw [hu] at hblocks' hplaces'
    obtain ⟨rfl, rfl⟩ := Prod.mk.inj h
    rw [List.forall_mem_cons]
    refine ⟨failures_syncReport_eq_nil.2 ⟨o, rfl⟩, ?_⟩
    exact failures_run_forEach_syncOne (fun y hy => hnames y (List.mem_cons_of_mem x hy)) (hw.of_run hu) hblocks'
      hplaces' rfl

/-- Objects that are all held are applied without a write. -/
theorem run_forEach_syncOne_of_holds : ∀ {xs : List Wanted} {w : World}, (∀ x ∈ xs, w.Holds x) →
    ∃ v, w.run (Plan.forEach syncOne xs) = (xs.map fun _ => {}, v) ∧ w.OnlyRead v
  | [], w, _ => ⟨w, rfl, .refl w⟩
  | x :: rest, w, h => by
    have hsync := run_sync_of_holds (h x List.mem_cons_self)
    have hrest : ∀ y ∈ rest, (w.logged (.fetch x.store x.name)).Holds y := fun y hy =>
      (h y (List.mem_cons_of_mem x hy)).congr rfl
    obtain ⟨v, hv, hread⟩ := run_forEach_syncOne_of_holds hrest
    refine ⟨v, ?_, (World.OnlyRead.logged w rfl).trans hread⟩
    rw [run_forEach_cons, run_syncOne, hsync, hv]
    rfl

/-- Calls that are neither to stores of Searches nor to those of objects without a schema, and write no status. -/
def IsObjectCall (c : StoreCall) : Prop :=
  (∀ ns, ⟨.search, ns⟩ ≠ c.store) ∧ (∀ k ns, ⟨.unstructured k, ns⟩ ≠ c.store) ∧ c.isStatusWrite = false

theorem makes_objects (p : Pass) (live : Option ConfigMap) :
    (Plan.forEach syncOne (p.wanted (p.desired live))).Makes IsObjectCall := by
  refine Plan.makes_forEach fun x hx => (makes_syncOne x).mono fun c hc => ?_
  obtain ⟨hsearch, hkinds⟩ := kind_of_mem_wanted hx
  rw [IsObjectCall, hc.1]
  refine ⟨fun ns heq => hsearch (congrArg StoreRef.kind heq).symm, fun k ns heq => ?_, hc.2⟩
  exact hkinds k (by cases k <;> decide) (congrArg StoreRef.kind heq).symm

/-! ## Features -/

theorem run_reconcileFeature_cases (p : Pass) (f : Feature) (status : SearchStatus) (w : World) :
    (∃ after change v, w.run (f.reconcile p.owner (p.now f) p.generation (p.toggles.isEnabled f) status).run =
        (.ok (after, change), v) ∧
      w.run (p.reconcileFeature f status) = ((after, { notices := change.toList.map (transitionNotice f) }), v)) ∨
    ∃ e v, w.run (f.reconcile p.owner (p.now f) p.generation (p.toggles.isEnabled f) status).run = (.error e, v) ∧
      w.run (p.reconcileFeature f status) =
        ((status, { notices := [failureNotice f e], failures := [([f.name], e)] }), v) := by
  rw [reconcileFeature, run_bind]
  cases hr : w.run (f.reconcile p.owner (p.now f) p.generation (p.toggles.isEnabled f) status).run with
  | mk outcome v =>
    cases outcome with
    | ok a => exact .inl ⟨a.1, a.2, v, rfl, rfl⟩
    | error e => exact .inr ⟨e, v, rfl, rfl⟩

theorem run_reconcileFeatures_cons (p : Pass) (f : Feature) (rest : List Feature) (status : SearchStatus)
    (w : World) :
    w.run (p.reconcileFeatures status (f :: rest)) =
      let first := w.run (p.reconcileFeature f status)
      let later := first.2.run (p.reconcileFeatures first.1.1 rest)
      ((later.1.1, first.1.2 ++ later.1.2), later.2) := by
  rw [reconcileFeatures, run_bind, run_bind, run_pure]

/-- What bringing each feature to its place keeps is kept, whatever answers the calls. -/
theorem preserves_reconcileFeatures {σ : Type} {answer : Plan.Answering σ} {P : σ → Prop} : ∀ {fs : List Feature},
    (∀ f ∈ fs, ∀ status,
      (f.reconcile p.owner (p.now f) p.generation (p.toggles.isEnabled f) status).run.Preserves answer P) →
    ∀ status, (p.reconcileFeatures status fs).Preserves answer P
  | [], _, _ => Plan.preserves_pure _
  | f :: _, h, status => by
    refine Plan.Preserves.bind (Plan.Preserves.bind (h f List.mem_cons_self status) fun outcome => ?_) fun a =>
      (preserves_reconcileFeatures (fun g hg => h g (List.mem_cons_of_mem f hg)) a.1).bind fun _ =>
        Plan.preserves_pure _
    cases outcome <;> exact Plan.preserves_pure _

theorem makes_reconcileFeatures (p : Pass) : ∀ (fs : List Feature) (status : SearchStatus),
    (p.reconcileFeatures status fs).Makes Feature.IsFeatureCall
  | [], _ => Plan.makes_pure _
  | f :: rest, status => by
    have hfirst : (p.reconcileFeature f status).Makes Feature.IsFeatureCall := by
      refine Plan.Makes.bind (fun outcome => ?_) (f.makes_reconcile _ _ _ _ _)
      cases outcome <;> exact Plan.makes_pure _
    exact hfirst.bind fun a => (p.makes_reconcileFeatures rest a.1).bind fun _ => Plan.makes_pure _

/-- Stores that hold no resources stay as they are. -/
theorem store_run_reconcileFeatures (p : Pass) (status : SearchStatus) (fs : List Feature) (w : World) {r : StoreRef}
    (hr : ∀ k ∈ Feature.resourceKinds, r.kind ≠ .unstructured k) :
    (w.run (p.reconcileFeatures status fs)).2.store r = w.store r := by
  have hkeeps : (p.reconcileFeatures status fs).Keeps fun v => v.store r = w.store r :=
    preserves_reconcileFeatures (fun f _ status v hv => (f.store_run_reconcile _ _ _ _ _ v hr).trans hv) status
  exact hkeeps w rfl

section

variable {status after : SearchStatus} {report : Report}

/-- Whether the first feature gets to its place or fails, the other ones are not moved by it. -/
theorem run_reconcileFeatures_cons_cases {f : Feature} {rest : List Feature} (hw : w.Versioned)
    (h : w.run (p.reconcileFeatures status (f :: rest)) = ((after, report), v)) :
    ∃ next u later, u.Versioned ∧ (w.Unblocked → u.Unblocked) ∧ (∀ g, g ≠ f → g.Unmoved p.owner status w next u) ∧
      u.run (p.reconcileFeatures next rest) = ((after, later), v) := by
  have hmoved := fun g (hg : g ≠ f) =>
    Feature.unmoved_run_reconcile hg hw p.owner (p.now f) p.generation (p.toggles.isEnabled f) status
  have hblocks := (f.reconcile p.owner (p.now f) p.generation (p.toggles.isEnabled f) status).run.keeps_unblocked w
  rw [run_reconcileFeatures_cons] at h
  rcases p.run_reconcileFeature_cases f status w with ⟨next, change, u, hu, hr⟩ | ⟨e, u, hu, hr⟩
  all_goals
    rw [hu] at hmoved hblocks
    rw [hr] at h
    obtain ⟨hfst, rfl⟩ := Prod.mk.inj h
    obtain ⟨rfl, rfl⟩ := Prod.mk.inj hfst
    exact ⟨_, u, _, hw.of_run hu, hblocks, hmoved, rfl⟩

/-- A feature that is not among those brought to their places is not moved. -/
theorem unmoved_of_not_mem {g : Feature} : ∀ {fs : List Feature} {status : SearchStatus} {report : Report} {w : World},
    g ∉ fs → w.Versioned → w.run (p.reconcileFeatures status fs) = ((after, report), v) →
    g.Unmoved p.owner status w after v
  | [], _, _, _, _, _, h => by
    cases h
    exact .refl
  | f :: rest, _, _, w, hg, hw, h => by
    rw [List.mem_cons, not_or] at hg
    obtain ⟨next, u, later, hu, -, hmoved, hlater⟩ := run_reconcileFeatures_cons_cases hw h
    exact (hmoved g hg.1).trans (unmoved_of_not_mem hg.2 hu hlater)

/-- Without a failure the first feature was brought to its place, and then the others were. -/
theorem run_reconcileFeatures_cons_ok {f : Feature} {rest : List Feature}
    (h : w.run (p.reconcileFeatures status (f :: rest)) = ((after, report), v)) (hok : report.failures = []) :
    ∃ next change u later,
      w.run (f.reconcile p.owner (p.now f) p.generation (p.toggles.isEnabled f) status).run = (.ok (next, change), u) ∧
      u.run (p.reconcileFeatures next rest) = ((after, later), v) ∧ later.failures = [] := by
  rw [run_reconcileFeatures_cons] at h
  rcases p.run_reconcileFeature_cases f status w with ⟨next, change, u, hu, hr⟩ | ⟨e, u, -, hr⟩
  all_goals
    rw [hr] at h
    obtain ⟨hfst, rfl⟩ := Prod.mk.inj h
    obtain ⟨rfl, rfl⟩ := Prod.mk.inj hfst
    rw [Report.failures_append, List.append_eq_nil_iff] at hok
  · exact ⟨next, change, u, _, hu, rfl, hok.2⟩
  · cases hok.1

/-- After features were brought to their places without a failure each of them is settled. -/
theorem settled_of_run_reconcileFeatures_ok : ∀ {fs : List Feature} {status : SearchStatus} {report : Report}
    {w : World}, fs.Nodup → w.Versioned → w.run (p.reconcileFeatures status fs) = ((after, report), v) →
    report.failures = [] → ∀ f ∈ fs, f.Settled p.owner p.generation (p.toggles.isEnabled f) after v
  | [], _, _, _, _, _, _, _ => fun _ hf => absurd hf List.not_mem_nil
  | f :: rest, _, _, w, hn, hw, h, hok => by
    rw [List.nodup_cons] at hn
    obtain ⟨next, change, u, later, hu, hlater, hok'⟩ := run_reconcileFeatures_cons_ok h hok
    have hu' : u.Versioned := hw.of_run hu
    intro g hg
    rcases List.mem_cons.1 hg with rfl | hg
    · exact (unmoved_of_not_mem hn.1 hu' hlater).settled (Feature.settled_of_run_reconcile_ok hw hu)
    · exact settled_of_run_reconcileFeatures_ok hn.2 hu' hlater hok' g hg

/-- A feature among those brought to their places gets to its own, when nothing stands in its way. -/
theorem outcome_run_reconcileFeatures {f : Feature} : ∀ {fs : List Feature} {status : SearchStatus} {report : Report}
    {w : World}, fs.Nodup → f ∈ fs → f.Unobstructed p.owner w →
    w.run (p.reconcileFeatures status fs) = ((after, report), v) →
    f.Outcome p.owner (p.toggles.isEnabled f) status w after v
  | g :: rest, status, _, w, hn, hf, hfree, h => by
    rw [List.nodup_cons] at hn
    by_cases hfg : f = g
    · subst hfg
      rw [run_reconcileFeatures_cons] at h
      obtain ⟨next, change, u, hu, ho⟩ := Feature.outcome_run_reconcile hfree (p.now f) p.generation
        (p.toggles.isEnabled f) status
      rcases p.run_reconcileFeature_cases f status w with ⟨_, _, u', hu', hr⟩ | ⟨e, u', hu', -⟩
      · cases hu.symm.trans hu'
        rw [hr] at h
        obtain ⟨hfst, rfl⟩ := Prod.mk.inj h
        obtain ⟨rfl, rfl⟩ := Prod.mk.inj hfst
        exact Feature.Unmoved.trans_outcome ho (unmoved_of_not_mem hn.1 (hfree.versioned.of_run hu) rfl)
      · cases hu.symm.trans hu'
    · obtain ⟨next, u, later, hu, hblocks, hmoved, hlater⟩ := run_reconcileFeatures_cons_cases hfree.versioned h
      have hfree' := (hmoved f hfg).unobstructed hfree hu (hblocks hfree.unblocked)
      exact (hmoved f hfg).outcome_trans
        (outcome_run_reconcileFeatures hn.2 ((List.mem_cons.1 hf).resolve_left hfg) hfree' hlater)

/-- Features that are all settled cost no write and change nothing. -/
theorem run_reconcileFeatures_of_settled : ∀ {fs : List Feature} {w : World},
    (∀ f ∈ fs, f.Settled p.owner p.generation (p.toggles.isEnabled f) status w) →
    ∃ v, w.run (p.reconcileFeatures status fs) = ((status, {}), v) ∧ w.OnlyRead v
  | [], w, _ => ⟨w, rfl, .refl w⟩
  | f :: rest, w, h => by
    obtain ⟨u, hu, hread⟩ := Feature.run_reconcile_of_settled (h f List.mem_cons_self) (p.now f)
    have hrest : ∀ g ∈ rest, g.Settled p.owner p.generation (p.toggles.isEnabled g) status u := fun g hg =>
      (h g (List.mem_cons_of_mem f hg)).congr fun _ _ => congrFun hread.store _
    obtain ⟨v, hv, hread'⟩ := run_reconcileFeatures_of_settled hrest
    refine ⟨v, ?_, hread.trans hread'⟩
    rcases p.run_reconcileFeature_cases f status w with ⟨next, change, u', hu', hr⟩ | ⟨e, u', hu', -⟩
    · cases hu.symm.trans hu'
      rw [run_reconcileFeatures_cons, hr]
      dsimp only
      rw [hv]
      rfl
    · cases hu.symm.trans hu'

end

/-! ## Status -/

/-- The call that writes a status. -/
def statusCall (p : Pass) (status : SearchStatus) : StoreCall :=
  .writeStatus (p.besideSearch .search) p.search.metadata.anyName p.search.metadata.resourceVersion
    (statusJson status)

theorem run_persist_unchanged {status : SearchStatus} (h : p.search.status = some status) (w : World) :
    w.run (p.persist status) = (.ok (), w) := by
  rw [persist, if_pos h]
  rfl

theorem run_persist_changed {status : SearchStatus} (h : p.search.status ≠ some status) (w : World) :
    w.run (p.persist status) =
      (match (answer w (p.statusCall status)).1 with
        | .ok _ => .ok ()
        | .error (.conflict _) => .ok ()
        | .error e => .error e, (answer w (p.statusCall status)).2) := by
  have hrun : w.run (Work.writeStatus (p.besideSearch .search) p.search.metadata.anyName
      p.search.metadata.resourceVersion (statusJson status)).run = answer w (p.statusCall status) := rfl
  rw [persist, if_neg h, run_bind, hrun]
  rcases (answer w (p.statusCall status)).1 with ⟨⟨⟩⟩ | _ <;> rfl

/-- The only call is the one that writes the status. -/
theorem makes_persist (p : Pass) (status : SearchStatus) : (p.persist status).Makes (· = p.statusCall status) := by
  unfold persist
  split
  · exact Plan.makes_pure _
  · refine Plan.Makes.bind (fun reply => ?_) (Plan.makes_ask rfl)
    rcases reply with ⟨⟨⟩⟩ | _ <;> exact Plan.makes_pure _

theorem store_run_persist_of_ne (p : Pass) (status : SearchStatus) (w : World) {r : StoreRef}
    (h : r ≠ p.besideSearch .search) : (w.run (p.persist status)).2.store r = w.store r := by
  by_cases hs : p.search.status = some status
  · rw [run_persist_unchanged hs]
  · rw [run_persist_changed hs]
    exact store_answer_of_ne w _ h

/-- The status of a live Search that can be read with it is written, unless writes are made to fail. -/
theorem run_persist_of_unblocked {status : SearchStatus} (hblocks : w.Unblocked)
    (hlive : w.object? (p.besideSearch .search) p.search.metadata.anyName = some p.search) {merged : Search}
    (hmerged : Store.withStatus? (k := .search) p.search (statusJson status) = .ok merged) :
    (w.run (p.persist status)).1 = .ok () := by
  by_cases hs : p.search.status = some status
  · rw [run_persist_unchanged hs]
  · have hreply : (answer w (p.statusCall status)).1 = _ :=
      answer_writeStatus_ok (hblocks _ _) hlive rfl hmerged
    rw [run_persist_changed hs]
    dsimp only
    rw [hreply]

/-- After a pass over the live Search wrote the status, the live Search has it. -/
theorem hasStatus_of_run_persist_ok {status : SearchStatus} (hdb : status.db ≠ none) (hstorage : status.storage ≠ none)
    (hlive : w.object? (p.besideSearch .search) p.search.metadata.anyName = some p.search)
    (h : w.run (p.persist status) = (.ok (), v)) :
    ∃ after, v.object? (p.besideSearch .search) p.search.metadata.anyName = some after ∧
      p.search.HasStatus status after := by
  by_cases hs : p.search.status = some status
  · rw [run_persist_unchanged hs] at h
    obtain rfl := (Prod.mk.inj h).2
    exact ⟨p.search, hlive, Search.hasStatus_self hs⟩
  · rw [run_persist_changed hs] at h
    obtain ⟨hok, rfl⟩ := Prod.mk.inj h
    rcases answer_writeStatus_cases w (p.besideSearch .search) p.search.metadata.anyName
      p.search.metadata.resourceVersion (statusJson status) with ⟨live, merged, hl, -, hm, hc⟩ | ⟨e, he, -⟩
    · cases hlive.symm.trans hl
      refine ⟨Store.stamped ((w.store (p.besideSearch .search)).version + 1) merged, ?_,
        (Search.hasStatus_of_withStatus hdb hstorage hm).stamped _⟩
      rw [show answer w (p.statusCall status) = _ from hc]
      exact object?_put_self (w.logged (p.statusCall status)) _ _ _
    · -- the only failure that is passed over is a conflict, and the live Search has the version that it was read at
      replace he : (answer w (p.statusCall status)).1 = .error e := he
      rw [he] at hok
      split at hok
      · rename_i heq
        cases heq
      · rename_i what heq
        exact absurd (he.trans heq) (answer_writeStatus_ne_conflict hlive rfl what)
      · cases hok

/-! ## The pass -/

/-- The call that reads the live database configuration. -/
def configCall (p : Pass) : StoreCall := .fetch (p.besideSearch .configMap) Desired.databaseConfigName

/-- The live database configuration. -/
def liveConfig (p : Pass) (w : World) : Option ConfigMap :=
  w.object? (p.besideSearch .configMap) Desired.databaseConfigName

theorem run_apply {reports : List Report} {status : SearchStatus} {features : Report}
    {written : Except OperatorError Unit} {v₁ v₂ v₃ : World}
    (hobjects : (w.logged p.configCall).run (Plan.forEach syncOne (p.wanted (p.desired (p.liveConfig w)))) =
      (reports, v₁))
    (hfeatures : v₁.run (p.reconcileFeatures (p.search.status.getD {}) Feature.all) = ((status, features), v₂))
    (hwritten : v₂.run (p.persist (finalStatus (p.desired (p.liveConfig w)) status)) = (written, v₃)) :
    w.run p.apply =
      let report := Report.concat reports ++ features ++ .ofResult ["status"] written
      ((report.notices, report.failures.toResult), v₃) := by
  have happly : w.run p.apply = (w.logged p.configCall).run (do
      let report ← p.applyDesired (p.liveConfig w)
      pure (report.notices, report.failures.toResult)) := rfl
  rw [happly, run_bind, applyDesired, run_bind, hobjects]
  dsimp only
  rw [run_bind, hfeatures]
  dsimp only
  rw [run_bind, hwritten]
  rfl

/-- A pass that succeeded has applied all objects, brought all features to their places and written the
status. -/
theorem run_apply_ok {notices : List Notice} (h : w.run p.apply = ((notices, .ok ()), v)) :
    ∃ reports v₁ status features v₂,
      (w.logged p.configCall).run (Plan.forEach syncOne (p.wanted (p.desired (p.liveConfig w)))) = (reports, v₁) ∧
      (∀ r ∈ reports, r.failures = []) ∧
      v₁.run (p.reconcileFeatures (p.search.status.getD {}) Feature.all) = ((status, features), v₂) ∧
      features.failures = [] ∧
      v₂.run (p.persist (finalStatus (p.desired (p.liveConfig w)) status)) = (.ok (), v) := by
  cases hobjects : (w.logged p.configCall).run (Plan.forEach syncOne (p.wanted (p.desired (p.liveConfig w)))) with
  | mk reports v₁ =>
    cases hfeatures : v₁.run (p.reconcileFeatures (p.search.status.getD {}) Feature.all) with
    | mk outcome v₂ =>
      obtain ⟨status, features⟩ := outcome
      cases hwritten : v₂.run (p.persist (finalStatus (p.desired (p.liveConfig w)) status)) with
      | mk written v₃ =>
        rw [run_apply hobjects hfeatures hwritten] at h
        obtain ⟨hresult, rfl⟩ := Prod.mk.inj h
        have hnone := Failures.toResult_eq_ok.1 (Prod.mk.inj hresult).2
        rw [Report.failures_append, Report.failures_append, List.append_eq_nil_iff, List.append_eq_nil_iff,
          Report.failures_concat_eq_nil, Report.failures_ofResult_eq_nil] at hnone
        obtain ⟨⟨hreports, hnofailure⟩, ⟨⟩, rfl⟩ := hnone
        exact ⟨reports, v₁, status, features, v₂, rfl, hreports, hfeatures, hnofailure, hwritten⟩

/-- What each part of a pass keeps is kept by the pass, whatever answers the calls. -/
theorem preserves_apply {σ : Type} {answer : Plan.Answering σ} {P : σ → Prop}
    (hread : (Work.fetch (p.besideSearch .configMap) Desired.databaseConfigName).run.Preserves answer P)
    (hobjects : ∀ live, ∀ x ∈ p.wanted (p.desired live), (sync x.store x.object).run.Preserves answer P)
    (hfeatures : ∀ status, (p.reconcileFeatures status Feature.all).Preserves answer P)
    (hstatus : ∀ status, (p.persist status).Preserves answer P) : p.apply.Preserves answer P := by
  refine hread.bind fun reply => ?_
  cases reply with
  | error e => exact Plan.preserves_pure _
  | ok live =>
    refine Plan.Preserves.bind ?_ fun _ => Plan.preserves_pure _
    refine Plan.Preserves.bind (Plan.preserves_forEach fun x hx => ?_) fun _ => ?_
    · exact (hobjects live x hx).bind fun _ => Plan.preserves_pure _
    exact (hfeatures _).bind fun _ => (hstatus _).bind fun _ => Plan.preserves_pure _

/-- The calls that a pass can make. -/
theorem makes_apply {S : StoreCall → Prop} (hread : S p.configCall) (hobjects : ∀ c, IsObjectCall c → S c)
    (hfeatures : ∀ c, Feature.IsFeatureCall c → S c) (hstatus : ∀ status, S (p.statusCall status)) :
    p.apply.Makes S := by
  refine Plan.Makes.bind (fun reply => ?_) (Plan.makes_ask hread)
  cases reply with
  | error e => exact Plan.makes_pure _
  | ok live =>
    refine Plan.Makes.bind (fun _ => Plan.makes_pure _) ?_
    refine ((p.makes_objects live).mono hobjects).bind fun _ => ?_
    refine ((p.makes_reconcileFeatures _ _).mono hfeatures).bind fun outcome => ?_
    refine ((p.makes_persist _).mono ?_).bind fun _ => Plan.makes_pure _
    rintro _ rfl
    exact hstatus _

end Pass

end HubSearch
