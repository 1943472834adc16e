/-
A pass over a Search that its user edits at any moment, also while the pass is running, or that was edited since
the pass read its copy. The edits do not disturb the work on objects and features. The status is written only if
the copy is still the live Search then; otherwise it is dropped, and the pass goes on as if it were written. Main
statement: `Pass.passed_of_runsAmid`.
-/
import HubSearch.Proofs.Pass.Apply
import HubSearch.Proofs.Store.Amid

namespace HubSearch

open World

/-- The store of the Search that an owner stands for. -/
def Owner.searchStore (o : Owner) : StoreRef := ⟨.search, some o.inNamespace⟩

namespace World

/-- The live Search that an owner stands for. -/
def liveSearch (w : World) (o : Owner) : Option Search := w.object? o.searchStore o.name

/-- What the operator reported in the live Search. -/
def liveStatus (w : World) (o : Owner) : SearchStatus := ((w.liveSearch o).bind (·.status)).getD {}

/-- The user edits the live Search. Annotations and everything else may change, but not which Search it is, nor
what the operator reported. -/
inductive Edit (o : Owner) : World → World → Prop
  | edit {w : World} {live edited : Search} (hlive : w.liveSearch o = some live) (howner : Owner.of? edited = .ok o)
      (hstatus : edited.status = live.status) : Edit o w (w.seed o.searchStore edited)

/-- A copy of the Search as it was read at some time: the live one, or one of a version that has passed. -/
structure HasRead (w : World) (o : Owner) (copy : Search) : Prop where
  known : ∃ n ≤ (w.store o.searchStore).version, copy.metadata.resourceVersion = some (toString n)
  live : ∀ live, w.liveSearch o = some live → live.metadata.resourceVersion = copy.metadata.resourceVersion →
    live = copy

/-- What holds of the stores all along while a Search is edited and worked on. -/
structure Ongoing (w : World) (o : Owner) : Prop where
  versioned : w.Versioned
  unblocked : w.Unblocked
  live : ∃ search, w.liveSearch o = some search ∧ Owner.of? search = .ok o

variable {w v : World} {o : Owner} {copy : Search}

theorem hasRead_of_live (hw : w.Versioned) (h : w.liveSearch o = some copy) : w.HasRead o copy :=
  ⟨(hw o.searchStore).known o.name copy h, fun _ hlive _ => Option.some.inj (hlive.symm.trans h)⟩

/-! ## One write to the Search -/

section

variable {search : Search}

theorem liveSearch_of_put (hs : v.store = (w.set o.searchStore ((w.store o.searchStore).put o.name search).2).store) :
    v.liveSearch o = some (Store.stamped (k := .search) ((w.store o.searchStore).version + 1) search) := by
  rw [liveSearch, object?_congr hs]
  exact object?_put_self w _ _ _

/-- Whatever was read once stays outdated when the Search is written again. -/
theorem HasRead.of_put (h : w.HasRead o copy)
    (hs : v.store = (w.set o.searchStore ((w.store o.searchStore).put o.name search).2).store) : v.HasRead o copy := by
  obtain ⟨n, hn, hversion⟩ := h.known
  have hnext : (v.store o.searchStore).version = (w.store o.searchStore).version + 1 := by
    rw [hs, store_set_self]
    rfl
  refine ⟨⟨n, by omega, hversion⟩, fun live hlive heq => ?_⟩
  obtain rfl := Option.some.inj ((liveSearch_of_put hs).symm.trans hlive)
  rw [hversion] at heq
  have := toString_nat_injective (Option.some.inj heq)
  omega

theorem Ongoing.of_put (h : w.Ongoing o) (howner : Owner.of? search = .ok o) (hblocks : v.Unblocked)
    (hs : v.store = (w.set o.searchStore ((w.store o.searchStore).put o.name search).2).store) : v.Ongoing o :=
  ⟨Versioned.congr (h.versioned.set ((h.versioned _).put _ _)) hs, hblocks, _, liveSearch_of_put hs, howner⟩

end

theorem Edit.store (h : Edit o w v) : ∃ live edited : Search, w.liveSearch o = some live ∧ Owner.of? edited = .ok o ∧
    edited.status = live.status ∧
    v = w.set o.searchStore ((w.store o.searchStore).put o.name edited).2 := by
  obtain ⟨hlive, howner, hstatus⟩ := h
  rename_i live edited
  refine ⟨live, edited, hlive, howner, hstatus, ?_⟩
  have hname : edited.metadata.name = some o.name := (Owner.of?_eq_ok.1 howner).1
  show w.set o.searchStore ((w.store o.searchStore).put (edited.metadata.name.getD "") edited).2 = _
  rw [hname]
  rfl

/-- An edit touches the Search only. -/
theorem Edit.agreeOff (h : Edit o w v) : w.AgreeOff o.searchStore v := by
  obtain ⟨-, edited, -, -, -, rfl⟩ := h.store
  exact ⟨fun r hr => store_set_of_ne w _ hr, rfl⟩

theorem Edit.store_unstructured (h : Edit o w v) (k : UnstructuredKind) (ns : Option String) :
    v.store ⟨.unstructured k, ns⟩ = w.store ⟨.unstructured k, ns⟩ :=
  h.agreeOff.store _ (by rintro ⟨⟩)

theorem Edit.ongoing (h : Edit o w v) (hw : w.Ongoing o) : v.Ongoing o := by
  have hblocks : v.Unblocked := by
    obtain ⟨-, -, -⟩ := h
    exact hw.unblocked.seed _ _
  obtain ⟨-, edited, -, howner, -, rfl⟩ := h.store
  exact hw.of_put howner hblocks rfl

theorem Edit.liveStatus (h : Edit o w v) : v.liveStatus o = w.liveStatus o := by
  obtain ⟨live, edited, hlive, -, hstatus, rfl⟩ := h.store
  rw [World.liveStatus, World.liveStatus, liveSearch_of_put rfl, hlive]
  exact congrArg (·.getD {}) hstatus

theorem Edit.hasRead (h : Edit o w v) (hread : w.HasRead o copy) : v.HasRead o copy := by
  obtain ⟨-, edited, -, -, -, rfl⟩ := h.store
  exact hread.of_put rfl

/-! ## What holds until the status is written -/

/-- A pass over a copy is under way, and this is the status of the live Search. -/
structure Pending (w : World) (o : Owner) (copy : Search) (status : SearchStatus) : Prop where
  ongoing : w.Ongoing o
  hasRead : w.HasRead o copy
  status : w.liveStatus o = status

variable {status : SearchStatus}

theorem Pending.edit (h : w.Pending o copy status) (he : Edit o w v) : v.Pending o copy status :=
  ⟨he.ongoing h.ongoing, he.hasRead h.hasRead, he.liveStatus.trans h.status⟩

/-- Only the store of the Search counts. -/
theorem Pending.congr (h : w.Pending o copy status) (hv : v.Versioned) (hblocks : v.Unblocked)
    (hs : v.store o.searchStore = w.store o.searchStore) : v.Pending o copy status := by
  have hlive : v.liveSearch o = w.liveSearch o := by rw [liveSearch, liveSearch, object?, object?, hs]
  obtain ⟨⟨-, -, hsearch⟩, ⟨hknown, hcopy⟩, hstatus⟩ := h
  refine ⟨⟨hv, hblocks, ?_⟩, ⟨?_, ?_⟩, ?_⟩
  · rwa [hlive]
  · rwa [hs]
  · rwa [hlive]
  · rw [liveStatus, hlive]
    exact hstatus

theorem Pending.answer (h : w.Pending o copy status) {c : StoreCall} (hc : c.store ≠ o.searchStore) :
    (World.answer w c).2.Pending o copy status :=
  h.congr (h.ongoing.versioned.answer c) (h.ongoing.unblocked.answer c) (store_answer_of_ne w c hc.symm)

theorem Pending.edits (h : w.Pending o copy status) (he : Relation.ReflTransGen (Edit o) w v) :
    v.Pending o copy status := by
  induction he with
  | refl => exact h
  | tail _ hlast ih => exact ih.edit hlast

theorem Pending.of_runsAmid {α : Type} {plan : Plan α} {a : α} (h : w.Pending o copy status)
    (hmakes : plan.Makes fun c => c.store ≠ o.searchStore) (hr : plan.RunsAmid (Edit o) w a v) :
    v.Pending o copy status :=
  hr.keeps (P := fun u => u.Pending o copy status) (fun _ _ he hu => hu.edit he)
    (fun _ _ hc hu => hu.answer hc) hmakes h

end World

/-! ## A pass amid edits -/

namespace Pass

variable {p : Pass} {w v : World}

section

variable {E : World → World → Prop}

/-- A pass amid changes applies the objects, brings the features to their places and writes the status. -/
theorem runsAmid_apply {result : List Notice × Except OperatorError Unit} (h : p.apply.RunsAmid E w result v) :
    ∃ live u₁ reports u₂ status report u₃ written,
      (Work.fetch (p.besideSearch .configMap) Desired.databaseConfigName).run.RunsAmid E w (.ok live) u₁ ∧
      (Plan.forEach syncOne (p.wanted (p.desired live))).RunsAmid E u₁ reports u₂ ∧
      (p.reconcileFeatures (p.search.status.getD {}) Feature.all).RunsAmid E u₂ (status, report) u₃ ∧
      (p.persist (finalStatus (p.desired live) status)).RunsAmid E u₃ written v := by
  obtain ⟨reply, u₁, hfetch, h⟩ := h.bind
  have hlive : ∃ live, reply = .ok live := by
    obtain ⟨u, -, hreply, -⟩ := Plan.RunsAmid.ask hfetch
    exact ⟨_, hreply⟩
  obtain ⟨live, rfl⟩ := hlive
  obtain ⟨_, u, h, -, huv⟩ := Plan.RunsAmid.bind h
  obtain ⟨reports, u₂, hobjects, h⟩ := Plan.RunsAmid.bind h
  obtain ⟨⟨status, report⟩, u₃, hfeatures, h⟩ := Plan.RunsAmid.bind h
  obtain ⟨written, u₄, hpersist, -, hu⟩ := Plan.RunsAmid.bind h
  exact ⟨live, u₁, reports, u₂, status, report, u₃, written, hfetch, hobjects, hfeatures, hpersist.trans (hu.trans huv)⟩

end

/-- Edits and calls on objects leave the objects without a schema as they are. -/
theorem pending_of_runsAmid {α : Type} {plan : Plan α} {a : α} {o : Owner} {copy : Search} {status : SearchStatus}
    (h : w.Pending o copy status) (hmakes : plan.Makes IsObjectCall) (hr : plan.RunsAmid (World.Edit o) w a v) :
    v.Pending o copy status ∧ ∀ k ns, v.store ⟨.unstructured k, ns⟩ = w.store ⟨.unstructured k, ns⟩ := by
  refine ⟨h.of_runsAmid (hmakes.mono fun _ hc => (hc.1 _).symm) hr, ?_⟩
  refine hr.keeps (P := fun u => ∀ k ns, u.store ⟨.unstructured k, ns⟩ = w.store ⟨.unstructured k, ns⟩) ?_ ?_ hmakes
    fun _ _ => rfl
  · exact fun u u' he hu k ns => (he.store_unstructured k ns).trans (hu k ns)
  · exact fun u c hc hu k ns => (store_answer_of_ne u c (hc.2.1 k ns)).trans (hu k ns)

/-- The call that writes the status makes it that of the live Search, if the copy is the live Search; otherwise it is
refused and everything stays as it is. -/
theorem pending_answer_statusCall (howner : Owner.of? p.search = .ok p.owner) {reported status : SearchStatus}
    (hdb : status.db ≠ none) (hstorage : status.storage ≠ none) (h : w.Pending p.owner p.search reported) :
    ∃ after, (answer w (p.statusCall status)).2.Pending p.owner p.search after ∧
      (after = reported ∨ reported = p.search.status.getD {} ∧ ∀ f : Feature, f.state after = f.state status) := by
  have hname : p.search.metadata.anyName = p.owner.name := by
    rw [ObjectMeta.anyName, (Owner.of?_eq_ok.1 howner).1]
    rfl
  have hversioned := h.ongoing.versioned.answer (p.statusCall status)
  have hblocks := h.ongoing.unblocked.answer (p.statusCall status)
  rw [statusCall, hname] at *
  rcases answer_writeStatus_cases w (p.besideSearch .search) p.owner.name p.search.metadata.resourceVersion
    (statusJson status) with ⟨live, merged, hl, hv, hm, hc⟩ | ⟨e, -, hs⟩
  · -- a version was asked for, and no other Search ever had the one of the copy
    obtain ⟨n, -, hversion⟩ := h.hasRead.known
    obtain rfl := h.hasRead.live live hl (hv.resolve_left (by rw [hversion]; exact Option.some_ne_none _))
    have hstatus := Search.hasStatus_of_withStatus hdb hstorage hm
    have hput := congrArg (·.2.store) hc
    have hmerged : Owner.of? merged = .ok p.owner := by
      obtain ⟨hn, hns, huid⟩ := Owner.of?_eq_ok.1 howner
      exact Owner.of?_eq_ok.2 ⟨hstatus.metadata.name.trans hn, hstatus.metadata.inNamespace.trans hns,
        hstatus.metadata.uid.trans huid⟩
    refine ⟨_, ⟨h.ongoing.of_put hmerged hblocks hput, h.hasRead.of_put hput, rfl⟩, .inr ⟨?_, fun f => ?_⟩⟩
    · rw [← h.status, liveStatus, show w.liveSearch p.owner = some p.search from hl]
      rfl
    · obtain ⟨written, hwritten, halike⟩ := hstatus.status
      rw [liveStatus, liveSearch_of_put hput]
      show f.state (merged.status.getD {}) = _
      rw [hwritten]
      exact Feature.state_of_alike halike.conditions
  · exact ⟨reported, h.congr hversioned hblocks (congrFun hs _), .inl rfl⟩

/-- Writing the status amid edits comes to what that one call comes to. -/
theorem liveStatus_of_runsAmid_persist (howner : Owner.of? p.search = .ok p.owner) {reported status : SearchStatus}
    (hdb : status.db ≠ none) (hstorage : status.storage ≠ none) (h : w.Pending p.owner p.search reported)
    {written : Except OperatorError Unit} (hr : (p.persist status).RunsAmid (World.Edit p.owner) w written v) :
    v.Ongoing p.owner ∧ (v.liveStatus p.owner = reported ∨
      reported = p.search.status.getD {} ∧ ∀ f : Feature, f.state (v.liveStatus p.owner) = f.state status) := by
  unfold persist at hr
  split at hr
  · have hv := h.edits hr.2
    exact ⟨hv.ongoing, .inl hv.status⟩
  · obtain ⟨reply, u', hask, hrest⟩ := Plan.RunsAmid.bind hr
    obtain ⟨u, hwu, rfl, hu'⟩ := Plan.RunsAmid.ask hask
    have hedits : Relation.ReflTransGen (World.Edit p.owner) (answer u (p.statusCall status)).2 v := by
      refine hu'.trans ?_
      split at hrest <;> exact hrest.2
    obtain ⟨after, hpending, hafter⟩ := pending_answer_statusCall howner hdb hstorage (h.edits hwu)
    have hv := hpending.edits hedits
    rw [hv.status]
    exact ⟨hv.ongoing, hafter⟩

/-- What a pass over a copy of the Search comes to amid edits. Each feature that nothing stands in the way of gets to
its place, by what the copy says of it; what the live Search says of the features changes along with it only if that is
what the copy says. -/
structure Passed (p : Pass) (w v : World) (status : SearchStatus) : Prop where
  ongoing : v.Ongoing p.owner
  targets : ∀ f : Feature, f.targetsIn v = f.targetsIn w
  validates : ∀ f : Feature, f.Validates v ↔ f.Validates w
  outcome : ∀ f : Feature, f.Unobstructed p.owner w →
    f.Outcome p.owner (p.toggles.isEnabled f) (p.search.status.getD {}) w status v
  reported : v.liveStatus p.owner = w.liveStatus p.owner ∨ w.liveStatus p.owner = p.search.status.getD {} ∧
    ∀ f : Feature, f.state (v.liveStatus p.owner) = f.state status

theorem passed_of_runsAmid (howner : Owner.of? p.search = .ok p.owner) (hw : w.Ongoing p.owner)
    (hread : w.HasRead p.owner p.search) {result : List Notice × Except OperatorError Unit}
    (h : p.apply.RunsAmid (World.Edit p.owner) w result v) : ∃ status, p.Passed w v status := by
  obtain ⟨live, u₁, reports, u₂, status, report, u₃, written, hfetch, hobjects, hfeatures, hpersist⟩ := runsAmid_apply h
  -- the configuration is read, and the objects are applied
  obtain ⟨hpending₁, hsame₁⟩ := pending_of_runsAmid ⟨hw, hread, rfl⟩
    (Plan.makes_ask ⟨by rintro _ ⟨⟩, by rintro _ _ ⟨⟩, rfl⟩) hfetch
  obtain ⟨hpending₂, hsame₂⟩ := pending_of_runsAmid hpending₁ (p.makes_objects live) hobjects
  -- the features are brought to their places as if there were no edits
  have hcalls : (p.reconcileFeatures (p.search.status.getD {}) Feature.all).Makes fun c =>
      c.store ≠ p.owner.searchStore :=
    (p.makes_reconcileFeatures _ _).mono fun _ hc => hc.store_ne_search _
  obtain ⟨hvalue, hagree₃⟩ := hfeatures.run_agrees (fun _ _ he => he.agreeOff) hcalls (.refl _ u₂)
  -- the status is written
  obtain ⟨hongoing, hreported⟩ := liveStatus_of_runsAmid_persist howner (Option.some_ne_none _) (Option.some_ne_none _)
    (hpending₂.of_runsAmid hcalls hfeatures) hpersist
  have hagree := hagree₃.trans (hpersist.agreeOff (fun _ _ he => he.agreeOff)
    ((p.makes_persist _).mono fun _ hc => congrArg StoreCall.store hc))
  -- what comes before the features, and what comes after them, does not move them
  have hbefore : ∀ f : Feature, f.Unmoved p.owner (p.search.status.getD {}) w (p.search.status.getD {}) u₂ := fun f =>
    .of_unstructured fun k ns => (hsame₂ k ns).trans (hsame₁ k ns)
  have hafter : ∀ f : Feature, f.Unmoved p.owner status _ status v := fun f =>
    .of_unstructured fun k ns => hagree.store _ (by rintro ⟨⟩)
  have hhub : ∀ k, k ∉ Feature.resourceKinds → v.store (Feature.hubStore k) = w.store (Feature.hubStore k) := by
    intro k hk
    rw [hagree.store _ (by rintro ⟨⟩), p.store_run_reconcileFeatures _ _ _ (by rintro _ hk' ⟨⟩; exact hk hk')]
    exact (hsame₂ k none).trans (hsame₁ k none)
  refine ⟨status, hongoing, fun f => Feature.targetsIn_congr (hhub _ (by decide)), fun f => Feature.validates_congr ?_,
    fun f hfree => ?_, hreported⟩
  · rintro _ (rfl | rfl) <;> exact hhub _ (by decide)
  · have hrun : u₂.run (p.reconcileFeatures (p.search.status.getD {}) Feature.all) = ((status, report), _) :=
      Prod.ext hvalue rfl
    have hfree₂ := (hbefore f).unobstructed hfree hpending₂.ongoing.versioned hpending₂.ongoing.unblocked
    have houtcome := outcome_run_reconcileFeatures (by decide) (by cases f <;> decide) hfree₂ hrun
    exact (hafter f).trans_outcome ((hbefore f).outcome_trans houtcome)

end Pass

end HubSearch
