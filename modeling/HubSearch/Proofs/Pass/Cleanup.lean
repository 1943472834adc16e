/-
The cleanup after a Search, and the switching off of a feature, while any call can fail: what they remove, exactly.
The cluster role and its binding go only if they carry the labels of the owner. In the places of the resources of the
features the labels are not looked at, so that an object of another owner goes as well. Main statements:
`run_cleanup_removes` and `removes_in_place_or_owned`.
-/
import HubSearch.Proofs.Feature.Removal
import HubSearch.Proofs.Pass.Converge

namespace HubSearch

open World

/-- The places of the objects of the whole cluster that are not resources of features. -/
def IsClusterPlace (r : StoreRef) (name : String) : Prop :=
  (r = ⟨.clusterRoleBinding, none⟩ ∨ r = ⟨.clusterRole, none⟩) ∧ name = Desired.clusterRoleName

/-- An object that stands in a place carries the labels of an owner. -/
def World.Owned (w : World) (owner : Owner) (r : StoreRef) (name : String) : Prop :=
  ∃ o, w.object? r name = some o ∧ owner.owns (r.kind.metadata o) = true

/-- What the cleanup for an owner removes. -/
def World.Doomed (w : World) (owner : Owner) (r : StoreRef) (name : String) : Prop :=
  (∃ f : Feature, f.Places owner (f.targetsIn w) r name) ∨ IsClusterPlace r name ∧ w.Owned owner r name

namespace World.RemovedIn

variable {places : StoreRef → String → Prop} {w v : World}

theorem owned (h : w.RemovedIn places v) {owner : Owner} {r : StoreRef} {name : String} (ho : v.Owned owner r name) :
    w.Owned owner r name := by
  obtain ⟨o, ho, hlabels⟩ := ho
  exact ⟨o, h.object?_eq_some ho, hlabels⟩

theorem owned_or_gone (h : w.RemovedIn places v) {owner : Owner} {r : StoreRef} {name : String}
    (ho : w.Owned owner r name) : v.Owned owner r name ∨ v.object? r name = none := by
  obtain ⟨o, ho, hlabels⟩ := ho
  rcases h r name with h | h
  · exact .inl ⟨o, h.trans ho, hlabels⟩
  · exact .inr h.1

end World.RemovedIn

namespace Pass

/-! ## Objects with the labels of the owner -/

/-- An object is deleted if it carries the labels of the owner, and nothing else is. -/
theorem run_deleteOwned_removes (owner : Owner) (r : StoreRef) (name : String) (faults : Faults) (s : Recorded) :
    s.world.Removal (fun r' name' => (r' = r ∧ name' = name) ∧ s.world.Owned owner r' name')
      (∃ b, (s.run faults (deleteOwned owner r name).run).1 = .ok b)
      (s.run faults (deleteOwned owner r name).run).2.world := by
  have hget : s.run faults (Work.fetch r name).run = Recorded.answer faults s (.fetch r name) := rfl
  rcases Recorded.answer_fetch_cases faults s r name with hf | ⟨e, u, hf, hu⟩ <;> rw [hf] at hget
  · have hrun : s.run faults (deleteOwned owner r name).run = _ := Work.run_bind_of_ok hget _
    rw [hrun]
    cases hlive : s.world.object? r name with
    | none =>
      refine ⟨.of_store rfl, ?_⟩
      rintro - _ _ ⟨⟨rfl, rfl⟩, o, ho, -⟩
      cases hlive.symm.trans ho
    | some live =>
      dsimp only
      by_cases howns : owner.owns (r.kind.metadata live) = true
      · rw [if_pos howns]
        have hmakes : (ensureDeleted r (r.kind.objectKindName live) name).run.Makes (·.RemovesIn fun r' name' =>
            (r' = r ∧ name' = name) ∧ s.world.Owned owner r' name') :=
          removesIn_ensureDeleted _ ⟨⟨rfl, rfl⟩, live, hlive, howns⟩
        refine ⟨(World.RemovedIn.of_store rfl).trans (hmakes.removedIn faults _), ?_⟩
        rintro ⟨b, hb⟩ _ _ ⟨⟨rfl, rfl⟩, -⟩
        exact object?_run_ensureDeleted_eq_none (Prod.ext hb rfl)
      · rw [if_neg howns]
        refine ⟨.of_store rfl, ?_⟩
        rintro - _ _ ⟨⟨rfl, rfl⟩, o, ho, hlabels⟩
        cases hlive.symm.trans ho
        exact absurd hlabels howns
  · have hrun : s.run faults (deleteOwned owner r name).run = _ := Work.run_bind_of_error hget _
    rw [hrun]
    exact ⟨.of_store hu, fun h => nomatch h.choose_spec⟩

/-! ## The cleanup -/

/-- The cleanup removes what it is meant to remove for its owner, and nothing else; when it succeeds all of that is
gone. -/
theorem run_cleanup_removes (p : Pass) (faults : Faults) (s : Recorded) :
    s.world.Removal (s.world.Doomed p.owner) ((s.run faults p.cleanup).1 = .ok ())
      (s.run faults p.cleanup).2.world := by
  let swept := s.run faults (Feature.sweepAll p.owner).run
  let binding := swept.2.run faults (deleteOwned p.owner ⟨.clusterRoleBinding, none⟩ Desired.clusterRoleName).run
  let role := binding.2.run faults (deleteOwned p.owner ⟨.clusterRole, none⟩ Desired.clusterRoleName).run
  have hrun : s.run faults p.cleanup = ((Report.ofResult ["features"] swept.1 ++
      .ofResult ["ClusterRoleBinding"] binding.1 ++ .ofResult ["ClusterRole"] role.1).failures.toResult, role.2) := by
    rw [cleanup, Recorded.run_bind, Recorded.run_bind, Recorded.run_bind]
    rfl
  obtain ⟨hswept, hgone₁⟩ := Feature.run_sweepAll_removes p.owner faults s
  obtain ⟨hbinding, hgone₂⟩ := run_deleteOwned_removes p.owner ⟨.clusterRoleBinding, none⟩ Desired.clusterRoleName
    faults swept.2
  obtain ⟨hrole, hgone₃⟩ := run_deleteOwned_removes p.owner ⟨.clusterRole, none⟩ Desired.clusterRoleName
    faults binding.2
  -- what carries the labels later on carried them at first
  have h₁ : s.world.RemovedIn (s.world.Doomed p.owner) swept.2.world := hswept.mono fun _ _ h => .inl h
  have h₂ : s.world.RemovedIn (s.world.Doomed p.owner) binding.2.world := by
    refine h₁.trans (hbinding.mono ?_)
    rintro r name ⟨⟨rfl, rfl⟩, howned⟩
    exact .inr ⟨⟨.inl rfl, rfl⟩, h₁.owned howned⟩
  have h₃ : s.world.RemovedIn (s.world.Doomed p.owner) role.2.world := by
    refine h₂.trans (hrole.mono ?_)
    rintro r name ⟨⟨rfl, rfl⟩, howned⟩
    exact .inr ⟨⟨.inr rfl, rfl⟩, h₂.owned howned⟩
  rw [hrun]
  refine ⟨h₃, fun hok => ?_⟩
  have hnone := Failures.toResult_eq_ok.1 hok
  rw [Report.failures_append, Report.failures_append, List.append_eq_nil_iff, List.append_eq_nil_iff,
    Report.failures_ofResult_eq_nil, Report.failures_ofResult_eq_nil, Report.failures_ofResult_eq_nil] at hnone
  obtain ⟨⟨⟨⟨⟩, hok₁⟩, hok₂⟩, hok₃⟩ := hnone
  rintro r name (⟨f, hplace⟩ | ⟨⟨rfl | rfl, rfl⟩, howned⟩)
  · exact hrole.object?_eq_none (hbinding.object?_eq_none (hgone₁ hok₁ r name ⟨f, hplace⟩))
  · refine hrole.object?_eq_none ?_
    rcases h₁.owned_or_gone howned with howned | hgone
    · exact hgone₂ hok₂ _ _ ⟨⟨rfl, rfl⟩, howned⟩
    · exact hbinding.object?_eq_none hgone
  · rcases h₂.owned_or_gone howned with howned | hgone
    · exact hgone₃ hok₃ _ _ ⟨⟨rfl, rfl⟩, howned⟩
    · exact hrole.object?_eq_none hgone

/-! ## What is removed -/

/-- The cleanup removes the cluster role and its binding if they carry the labels of the owner, and whatever stands in
the places of the resources of the features; switching off a feature that was on removes whatever stands in the places
of its resources. Nothing else is removed, and after a success all of that is gone. -/
theorem removes_in_place_or_owned (p : Pass) (f : Feature) (status : SearchStatus) (faults : Faults) (s : Recorded) :
    s.world.Removal
        (fun r name => (∃ g : Feature, g.Places p.owner (g.targetsIn s.world) r name) ∨
          IsClusterPlace r name ∧ s.world.Owned p.owner r name)
        ((s.run faults p.cleanup).1 = .ok ()) (s.run faults p.cleanup).2.world ∧
      s.world.Removal (fun r name => f.state status = .enabled ∧ f.Places p.owner (f.targetsIn s.world) r name)
        ((s.run faults (f.reconcile p.owner (p.now f) p.generation false status).run).1.isOk = true)
        (s.run faults (f.reconcile p.owner (p.now f) p.generation false status).run).2.world :=
  ⟨p.run_cleanup_removes faults s, f.run_reconcile_off_removes p.owner (p.now f) p.generation status faults s⟩

/-- The owner of another Search. -/
def otherOwner : Owner := ⟨"other", "apps", "2"⟩

/-- What global search of the other owner has in a managed cluster. -/
def otherAccount : FeatureResource := Feature.managedServiceAccount otherOwner "east" "search-global"

/-- A hub on which the other owner has switched global search on. -/
def otherHub : Recorded := ⟨Feature.sampleHub.seed otherAccount.store otherAccount.object, []⟩

/-- The status of a Search that has switched global search on as well. -/
def switchedOn : SearchStatus := (({} : SearchStatus).upsert (Feature.globalSearch.enabledCondition default 1 1)).1

/-- An object with the labels of the other owner is removed by the cleanup, and by switching global search off. -/
theorem removes_other_account :
    (∃ o, otherHub.world.object? otherAccount.store otherAccount.name = some o ∧
      samplePass.owner.owns (otherAccount.store.kind.metadata o) = false) ∧
    (otherHub.run (fun _ => none) samplePass.cleanup).2.world.object? otherAccount.store otherAccount.name = none ∧
    (otherHub.run (fun _ => none)
      (Feature.globalSearch.reconcile samplePass.owner default 1 false switchedOn).run).2.world.object?
        otherAccount.store otherAccount.name = none := by
  have hthere : (otherHub.world.object? otherAccount.store otherAccount.name).any
      (fun o => !samplePass.owner.owns (otherAccount.store.kind.metadata o)) = true := by
    decide +kernel
  obtain ⟨o, ho, hlabels⟩ := (Option.any_eq_true _ _).1 hthere
  exact ⟨⟨o, ho, Bool.not_eq_eq_eq_not.1 hlabels⟩, by decide +kernel, by decide +kernel⟩

end Pass

end HubSearch
