/-
Passes over a Search in any order with the edits of its user. A pass that loses its status to an edit has done
its work all the same: the resources that it made are there, but no condition tells of them, and the pass that
finds the feature off does not look for them. Main statement: after a pass over the live Search that has a
feature off some target has a resource of it exactly when the last pass that touched its resources switched it on
and was not recorded (`present_iff_unrecorded`).
-/
import HubSearch.Proofs.Feature.Leftover
import HubSearch.Proofs.Pass.Converge
import HubSearch.Proofs.Pass.Edit

namespace HubSearch

open World

/-- A pass that was made. -/
structure PassRecord where
  /-- The copy of the Search that it was made over. -/
  search : Search
  /-- The stores right after it. -/
  after : World

namespace PassRecord

variable (a : PassRecord) (f : Feature)

/-- The copy has the feature on. -/
def isOn : Bool := a.search.annotationEnabled f.toggleKey

/-- The copy says that the feature was switched on before. -/
def reportsEnabled : Bool := f.state (a.search.status.getD {}) = .enabled

/-- The pass has brought all resources of the feature into their state, or has deleted them. -/
def touches : Bool := a.isOn f || a.reportsEnabled f

variable {a f}

theorem touches_of_isOn (h : a.isOn f = true) : a.touches f = true := by
  rw [touches, h, Bool.true_or]

theorem touches_of_enabled (h : f.state (a.search.status.getD {}) = .enabled) : a.touches f = true := by
  rw [touches, reportsEnabled, decide_eq_true h, Bool.or_true]

theorem not_touches (hoff : a.isOn f = false) (h : f.state (a.search.status.getD {}) ≠ .enabled) :
    a.touches f = false := by
  rw [touches, hoff, reportsEnabled, decide_eq_false h, Bool.or_false]

end PassRecord

namespace Feature

/-- Passes and edits in any order, the latest pass first, with the stores after them. In the beginning the feature
has no condition and no resource. A pass is made over a copy of the Search that was read at some time. -/
inductive Passes (f : Feature) (o : Owner) : List PassRecord → World → Prop
  | start {w : World} (hw : w.Ongoing o) (hvalidates : f.Validates w)
      (hcondition : (w.liveStatus o).condition? f.conditionType = none) (habsent : ¬f.Present o w) : Passes f o [] w
  | edit {passes : List PassRecord} {w w' : World} : Passes f o passes w → World.Edit o w w' → Passes f o passes w'
  | pass {earlier : List PassRecord} {w v : World} {copy : Search} {config : OperatorConfig} {now : Feature → Timestamp}
      {p : Pass} {result : List Notice × Except OperatorError Unit} :
      Passes f o earlier w → w.HasRead o copy → Pass.new? copy config now = .ok p → p.owner = o →
      p.apply.RunsAmid (World.Edit o) w result v → Passes f o (⟨copy, v⟩ :: earlier) v

/-- The last pass that touched the resources of the feature. -/
def lastTouch? (f : Feature) (passes : List PassRecord) : Option PassRecord := passes.find? (·.touches f)

/-- The last pass that touched the resources of the feature has switched it on, and the Search that was live after it
does not say so. -/
def Unrecorded (f : Feature) (o : Owner) (passes : List PassRecord) : Prop :=
  ∃ a, f.lastTouch? passes = some a ∧ a.isOn f = true ∧ f.state (a.after.liveStatus o) ≠ .enabled

variable {f : Feature} {o : Owner} {passes earlier : List PassRecord} {a : PassRecord} {w v : World}

theorem lastTouch?_cons_of_touches (h : a.touches f = true) : f.lastTouch? (a :: earlier) = some a := by
  rw [lastTouch?, List.find?_cons, h]

theorem lastTouch?_cons_of_not (h : a.touches f = false) : f.lastTouch? (a :: earlier) = f.lastTouch? earlier := by
  rw [lastTouch?, lastTouch?, List.find?_cons, h]

/-! ## What the passes tell of the resources -/

/-- All resources are held if the last pass that touched them has switched the feature on, and the live Search says so
as long as it did after that pass; otherwise there are none. -/
structure Tracked (f : Feature) (o : Owner) (passes : List PassRecord) (w : World) : Prop where
  ongoing : w.Ongoing o
  validates : f.Validates w
  held : ∀ a, f.lastTouch? passes = some a → a.isOn f = true →
    (∀ t ∈ f.targetsIn w, ∀ r ∈ f.resources t o, w.Holds r.wanted) ∧
      (f.state (w.liveStatus o) = .enabled ↔ f.state (a.after.liveStatus o) = .enabled)
  absent : (∀ a, f.lastTouch? passes = some a → a.isOn f = false) → ¬f.Present o w

theorem not_present_iff :
    ¬f.Present o w ↔ ∀ t ∈ f.targetsIn w, ∀ r ∈ f.resources t o, w.object? r.store r.name = none := by
  simp only [Present, not_exists, not_and, Decidable.not_not]

/-- While the resources of the feature stay as they are, so does what the passes tell of them. -/
theorem Tracked.of_leavesAlone (h : f.Tracked o passes w) (hv : v.Ongoing o) (hvalidates : f.Validates v)
    (halone : f.LeavesAlone o w v)
    (hstate : f.state (v.liveStatus o) = .enabled ↔ f.state (w.liveStatus o) = .enabled) : f.Tracked o passes v := by
  refine ⟨hv, hvalidates, fun a ha hon => ?_, fun hoff => ?_⟩
  · obtain ⟨hholds, hrecorded⟩ := h.held a ha hon
    refine ⟨fun t ht r hr => ?_, hstate.trans hrecorded⟩
    rw [halone.targets] at ht
    refine (hholds t ht r hr).congr ?_
    rw [name_wanted_of_mem_resources hr]
    exact halone.resources t ht r hr
  · rw [halone.present_iff]
    exact h.absent hoff

/-- Nothing but the resources of the feature is ever in their places. -/
theorem Tracked.unobstructed (h : f.Tracked o passes w) : f.Unobstructed o w := by
  refine ⟨h.ongoing.versioned, h.ongoing.unblocked, h.validates, fun t ht r hr => ?_⟩
  by_cases hoff : ∀ a, f.lastTouch? passes = some a → a.isOn f = false
  · exact .inl (not_present_iff.1 (h.absent hoff) t ht r hr)
  · simp only [not_forall, Bool.not_eq_false] at hoff
    obtain ⟨a, ha, hon⟩ := hoff
    exact .inr ((h.held a ha hon).1 t ht r hr)

theorem Tracked.edit (h : f.Tracked o passes w) (he : World.Edit o w v) : f.Tracked o passes v := by
  have hsame : f.Unmoved o {} w {} v := .of_unstructured he.store_unstructured
  have hv := he.ongoing h.ongoing
  have halone : f.LeavesAlone o w v := ⟨hv.versioned, hsame.targets, fun t _ => hsame.resources t⟩
  refine h.of_leavesAlone hv (hsame.validates.2 h.validates) halone ?_
  rw [he.liveStatus]

section

variable {p : Pass} {status : SearchStatus} (h : f.Tracked p.owner earlier w) (hp : p.Passed w v status)

include h hp

theorem Tracked.pass_on (hon : p.toggles.isEnabled f = true) : f.Tracked p.owner (⟨p.search, v⟩ :: earlier) v := by
  have hlast : f.lastTouch? (⟨p.search, v⟩ :: earlier) = some ⟨p.search, v⟩ :=
    lastTouch?_cons_of_touches (PassRecord.touches_of_isOn hon)
  have houtcome := hp.outcome f h.unobstructed
  rw [hon] at houtcome
  refine ⟨hp.ongoing, (hp.validates f).2 h.validates, fun a ha _ => ?_, fun hoff => ?_⟩
  · obtain rfl := Option.some.inj (hlast.symm.trans ha)
    rw [hp.targets]
    exact ⟨houtcome.2, Iff.rfl⟩
  · cases hon.symm.trans (hoff _ hlast)

/-- The pass deletes the resources, as its copy says that the feature was switched on before. -/
theorem Tracked.pass_off_of_enabled (hoff : p.toggles.isEnabled f = false)
    (hs : f.state (p.search.status.getD {}) = .enabled) : f.Tracked p.owner (⟨p.search, v⟩ :: earlier) v := by
  have hlast : f.lastTouch? (⟨p.search, v⟩ :: earlier) = some ⟨p.search, v⟩ :=
    lastTouch?_cons_of_touches (PassRecord.touches_of_enabled hs)
  have houtcome := hp.outcome f h.unobstructed
  rw [hoff] at houtcome
  refine ⟨hp.ongoing, (hp.validates f).2 h.validates, fun a ha hon => ?_,
    fun _ => not_present_iff.2 fun t ht r hr => ?_⟩
  · obtain rfl := Option.some.inj (hlast.symm.trans ha)
    cases hoff.symm.trans hon
  · rw [houtcome.2 t (hp.targets f ▸ ht) r hr, if_pos hs]

/-- The pass leaves the resources as they are, as its copy does not say that the feature was switched on before. -/
theorem Tracked.pass_off_of_not (hoff : p.toggles.isEnabled f = false)
    (hs : f.state (p.search.status.getD {}) ≠ .enabled) : f.Tracked p.owner (⟨p.search, v⟩ :: earlier) v := by
  have hlast : f.lastTouch? (⟨p.search, v⟩ :: earlier) = f.lastTouch? earlier :=
    lastTouch?_cons_of_not (PassRecord.not_touches hoff hs)
  have houtcome := hp.outcome f h.unobstructed
  rw [hoff] at houtcome
  have halone : f.LeavesAlone p.owner w v := by
    refine ⟨hp.ongoing.versioned, hp.targets f, fun t ht r hr => ?_⟩
    rw [houtcome.2 t ht r hr, if_neg hs]
  have hv : f.Tracked p.owner earlier v := by
    refine h.of_leavesAlone hp.ongoing ((hp.validates f).2 h.validates) halone ?_
    rcases hp.reported with heq | ⟨hcopy, hafter⟩
    · rw [heq]
    · -- the status was written, to the version that the copy was read at
      rw [hafter, hcopy]
      exact iff_of_false houtcome.1 hs
  refine ⟨hv.ongoing, hv.validates, fun a ha => hv.held a (hlast.symm.trans ha), fun habsent => ?_⟩
  exact hv.absent fun a ha => habsent a (hlast.trans ha)

theorem Tracked.pass : f.Tracked p.owner (⟨p.search, v⟩ :: earlier) v := by
  cases hon : p.toggles.isEnabled f with
  | true => exact h.pass_on hp hon
  | false =>
    by_cases hs : f.state (p.search.status.getD {}) = .enabled
    · exact h.pass_off_of_enabled hp hon hs
    · exact h.pass_off_of_not hp hon hs

end

theorem Passes.tracked (h : f.Passes o passes w) : f.Tracked o passes w := by
  -- on how the passes and the edits came about
  induction h with
  | start hw hvalidates _ habsent =>
    exact ⟨hw, hvalidates, fun _ ha => (nomatch ha), fun _ => habsent⟩
  | edit _ he ih => exact ih.edit he
  | pass _ hread hp howner hr ih =>
    subst howner
    obtain ⟨owner, ho, rfl⟩ := Pass.new?_eq_ok.1 hp
    obtain ⟨status, hpassed⟩ := Pass.passed_of_runsAmid ho ih.ongoing hread hr
    exact ih.pass hpassed

/-! ## After a pass that has the feature off -/

/-- A target has some resource. -/
theorem resources_ne_nil {t : Target} (ht : t ∈ f.targetsIn w) : f.resources t o ≠ [] := by
  cases f with
  | fineGrainedRbac => exact List.cons_ne_nil _ _
  | _ =>
    obtain ⟨c, -, rfl⟩ := List.mem_map.1 ht
    exact List.cons_ne_nil _ _

theorem present_iff_of_holds (h : ∀ t ∈ f.targetsIn w, ∀ r ∈ f.resources t o, w.Holds r.wanted) :
    f.Present o w ↔ f.targetsIn w ≠ [] := by
  constructor
  · rintro ⟨t, ht, -⟩
    exact List.ne_nil_of_mem ht
  · intro hne
    obtain ⟨t, ht⟩ := List.exists_mem_of_ne_nil _ hne
    obtain ⟨r, hr⟩ := List.exists_mem_of_ne_nil _ (resources_ne_nil (o := o) ht)
    obtain ⟨live, hlive, -⟩ := h t ht r hr
    rw [name_wanted_of_mem_resources hr] at hlive
    exact ⟨t, ht, r, hr, by rw [show w.object? r.store r.name = some live from hlive]; exact Option.some_ne_none _⟩

/-- After a pass over the live Search that has the feature off some target has a resource of it exactly when the last
pass that touched its resources has switched it on and was not recorded. -/
theorem present_iff_unrecorded (h : f.Passes o passes w) {search : Search} (hlive : w.liveSearch o = some search)
    (hoff : search.annotationEnabled f.toggleKey = false) {config : OperatorConfig} {now : Feature → Timestamp}
    {p : Pass} (hp : Pass.new? search config now = .ok p) {result : List Notice × Except OperatorError Unit}
    (hr : p.apply.RunsAmid (World.Edit o) w result v) :
    f.Present o v ↔ f.targetsIn v ≠ [] ∧ f.Unrecorded o passes := by
  have htracked := h.tracked
  have howner : p.owner = o := by
    obtain ⟨live, hlive', ho⟩ := htracked.ongoing.live
    cases hlive.symm.trans hlive'
    obtain ⟨owner, ho', rfl⟩ := Pass.new?_eq_ok.1 hp
    exact Except.ok.inj (ho'.symm.trans ho)
  have hafter := (h.pass (hasRead_of_live htracked.ongoing.versioned hlive) hp howner hr).tracked
  have hstatus : w.liveStatus o = search.status.getD {} := by
    rw [World.liveStatus, hlive]
    rfl
  by_cases hs : f.state (w.liveStatus o) = .enabled
  · -- the pass deletes the resources, and what it goes by was recorded
    have hlast : f.lastTouch? (⟨search, v⟩ :: passes) = some ⟨search, v⟩ :=
      lastTouch?_cons_of_touches (PassRecord.touches_of_enabled (hstatus ▸ hs))
    refine iff_of_false (hafter.absent fun a ha => ?_) ?_
    · obtain rfl := Option.some.inj (hlast.symm.trans ha)
      exact hoff
    · rintro ⟨-, a, ha, hon, hne⟩
      exact hne ((htracked.held a ha hon).2.1 hs)
  · -- the pass finds nothing to delete
    have hlast : f.lastTouch? (⟨search, v⟩ :: passes) = f.lastTouch? passes :=
      lastTouch?_cons_of_not (PassRecord.not_touches hoff (hstatus ▸ hs))
    by_cases hany : ∃ a, f.lastTouch? passes = some a ∧ a.isOn f = true
    · obtain ⟨a, ha, hon⟩ := hany
      have hne : f.state (a.after.liveStatus o) ≠ .enabled := fun heq => hs ((htracked.held a ha hon).2.2 heq)
      rw [present_iff_of_holds (hafter.held a (hlast.trans ha) hon).1]
      exact (and_iff_left ⟨a, ha, hon, hne⟩).symm
    · refine iff_of_false (hafter.absent fun a ha => ?_) ?_
      · exact Bool.eq_false_iff.2 fun hon => hany ⟨a, hlast.symm.trans ha, hon⟩
      · rintro ⟨-, a, ha, hon, -⟩
        exact hany ⟨a, ha, hon⟩

/-! ### A feature that is switched off while a pass is running -/

/-- A hub with a Search that has global search on. -/
def searchHub : World := sampleHub.seed sampleOwner.searchStore Pass.sampleSearch

/-- The Search without the annotation. -/
def quietSearch : Search :=
  { Pass.sampleSearch with metadata := { Pass.sampleSearch.metadata with annotations := none } }

/-- The hub after the user has taken the annotation away. -/
def quietHub : World := searchHub.seed sampleOwner.searchStore quietSearch

/-- The hub after a pass that read the Search before that. -/
def lostHub : World := (quietHub.run Pass.samplePass.apply).2

/-- The pass over the Search that is live then. -/
def quietPass : Pass := ⟨Store.stamped (k := .search) 2 quietSearch, sampleOwner, {}, default⟩

theorem passes_lostHub : globalSearch.Passes sampleOwner [⟨Pass.sampleSearch, lostHub⟩] lostHub := by
  have hversioned : searchHub.Versioned := built_sampleHub.versioned.seed _ _
  have hblocks : searchHub.Unblocked := .seed (.seed (.seed (.seed unblocked_empty _ _) _ _) _ _) _ _
  have hlive : searchHub.liveSearch sampleOwner = some Pass.sampleSearch := by decide +kernel
  have hvalidates : globalSearch.Validates searchHub := by
    obtain ⟨⟨⟩, hok⟩ := exists_ok_of_isOk (r := (searchHub.run globalSearch.validate.run).1) (by decide +kernel)
    exact hok
  have habsent : ¬globalSearch.Present sampleOwner searchHub := by
    unfold Present
    decide +kernel
  have hstart : globalSearch.Passes sampleOwner [] searchHub := by
    refine .start ⟨hversioned, hblocks, _, hlive, rfl⟩ hvalidates ?_ habsent
    rw [World.liveStatus, hlive]
    rfl
  have hedit : World.Edit sampleOwner searchHub quietHub := .edit hlive rfl rfl
  have hrun : quietHub.run Pass.samplePass.apply = (_, lostHub) := Prod.ext rfl rfl
  have hnew : Pass.new? Pass.sampleSearch {} default = .ok Pass.samplePass := rfl
  exact hstart.pass (hasRead_of_live hversioned hlive) hnew rfl (Plan.runsAmid_of_run (.single hedit) hrun)

theorem liveSearch_lostHub : lostHub.liveSearch sampleOwner = some quietPass.search := by decide +kernel

/-- The pass over the live Search succeeds. -/
theorem run_quietPass : ∃ notices v, lostHub.run quietPass.apply = ((notices, .ok ()), v) := by
  have hongoing := passes_lostHub.tracked.ongoing
  have hplaces : ∀ place ∈ (quietPass.wanted (quietPass.desired none)).map fun x => (x.store, x.name),
      (lostHub.object? place.1 place.2).all (fun o => (place.1.kind.metadata o).name = some place.2) = true := by
    decide +kernel
  obtain ⟨merged, hmerged⟩ := exists_ok_of_isOk (r := Store.withStatus? (k := .search) quietPass.search
    (Pass.statusJson (Pass.finalStatus (quietPass.desired none) {}))) (by decide +kernel)
  rw [← quietPass.finalStatus_desired (quietPass.liveConfig lostHub)] at hmerged
  refine Pass.run_apply_of_settled hongoing.versioned hongoing.unblocked (fun x hx live hlive => ?_)
    (fun f _ => ?_) liveSearch_lostHub hmerged
  · have hplace := hplaces (x.store, x.name) (quietPass.places_wanted _ ▸ List.mem_map.2 ⟨x, hx, rfl⟩)
    rw [hlive] at hplace
    exact of_decide_eq_true hplace
  · cases f <;> exact .inl rfl

/-- A pass over the live Search that has global search off has succeeded, and there still are resources of it: the pass
before it has switched global search on while the user switched it off. -/
theorem present_after_quietPass : ∃ w search p notices v, globalSearch.Passes sampleOwner [⟨Pass.sampleSearch, w⟩] w ∧
    w.liveSearch sampleOwner = some search ∧ search.annotationEnabled globalSearch.toggleKey = false ∧
    Pass.new? search {} default = .ok p ∧ p.apply.RunsAmid (World.Edit sampleOwner) w (notices, .ok ()) v ∧
    globalSearch.Present sampleOwner v := by
  obtain ⟨notices, v, hrun⟩ := run_quietPass
  have hnew : Pass.new? quietPass.search {} default = .ok quietPass := rfl
  have hr : quietPass.apply.RunsAmid (World.Edit sampleOwner) lostHub (notices, .ok ()) v :=
    Plan.runsAmid_of_run .refl hrun
  refine ⟨lostHub, _, _, notices, v, passes_lostHub, liveSearch_lostHub, by decide +kernel, hnew, hr, ?_⟩
  obtain ⟨status, hpassed⟩ := Pass.passed_of_runsAmid (p := quietPass) rfl passes_lostHub.tracked.ongoing
    (hasRead_of_live passes_lostHub.tracked.ongoing.versioned liveSearch_lostHub) hr
  -- the last pass that touched the resources is the one that was lost
  have hlast : globalSearch.lastTouch? [⟨quietPass.search, v⟩, ⟨Pass.sampleSearch, lostHub⟩] =
      some ⟨Pass.sampleSearch, lostHub⟩ := by
    have hnot : (quietPass.search.annotationEnabled globalSearch.toggleKey ||
      decide (globalSearch.state (quietPass.search.status.getD {}) = .enabled)) = false := by decide +kernel
    rw [lastTouch?_cons_of_not (show PassRecord.touches ⟨quietPass.search, v⟩ globalSearch = false from hnot)]
    exact lastTouch?_cons_of_touches (by decide +kernel)
  have hholds := ((passes_lostHub.tracked.pass hpassed).held _ hlast (by decide +kernel)).1
  refine (present_iff_of_holds (o := sampleOwner) hholds).2 ?_
  rw [hpassed.targets]
  decide +kernel

/-- What is there after that pass was made by the pass before it, which was not recorded. -/
theorem present_iff_unrecorded_lostHub : ∃ notices v,
    quietPass.apply.RunsAmid (World.Edit sampleOwner) lostHub (notices, .ok ()) v ∧
      (globalSearch.Present sampleOwner v ↔
        globalSearch.targetsIn v ≠ [] ∧ globalSearch.Unrecorded sampleOwner [⟨Pass.sampleSearch, lostHub⟩]) := by
  obtain ⟨notices, v, hrun⟩ := run_quietPass
  have hnew : Pass.new? quietPass.search {} default = .ok quietPass := rfl
  have hr : quietPass.apply.RunsAmid (World.Edit sampleOwner) lostHub (notices, .ok ()) v :=
    Plan.runsAmid_of_run .refl hrun
  exact ⟨notices, v, hr, present_iff_unrecorded passes_lostHub liveSearch_lostHub (by decide +kernel) hnew hr⟩

end Feature

end HubSearch
