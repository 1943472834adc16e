/-
The resources of the features as wanted objects. They stand in stores that hold nothing else of a pass, and no
two of them share a place, so that none disturbs another one: `compatible_of_mem_resources`.
-/
import HubSearch.Proofs.Owner
import HubSearch.Proofs.Sync

namespace HubSearch

namespace FeatureResource

/-- A resource as a wanted object. -/
def wanted (r : FeatureResource) : Wanted := ⟨r.store, r.object⟩

@[simp]
theorem store_new (owner : Owner) (kind : UnstructuredKind) (name : String) (ns : Option String) (data : Json) :
    (new owner kind name ns data).store = ⟨.unstructured kind, ns⟩ := by
  show (⟨.unstructured kind, (owner.adopt _).inNamespace⟩ : StoreRef) = _
  rw [Owner.adopt_inNamespace]
  rfl

@[simp]
theorem name_new (owner : Owner) (kind : UnstructuredKind) (name : String) (ns : Option String) (data : Json) :
    (new owner kind name ns data).name = name := by
  show ((owner.adopt _).name.or _).getD "" = _
  rw [Owner.adopt_name]
  rfl

@[simp]
theorem name_wanted_new (owner : Owner) (kind : UnstructuredKind) (name : String) (ns : Option String)
    (data : Json) : (new owner kind name ns data).wanted.name = name := by
  show (owner.adopt _).name.getD "" = _
  rw [Owner.adopt_name]
  rfl

@[simp]
theorem data_new (owner : Owner) (kind : UnstructuredKind) (name : String) (ns : Option String) (data : Json) :
    (new owner kind name ns data).object.data = data := rfl

theorem place_new_inj {owner : Owner} {k k' : UnstructuredKind} {n n' : String} {ns ns' : Option String}
    {d d' : Json} (hstore : (new owner k' n' ns' d').store = (new owner k n ns d).store)
    (hname : (new owner k' n' ns' d').name = (new owner k n ns d).name) : k' = k ∧ n' = n ∧ ns' = ns := by
  rw [store_new, store_new] at hstore
  rw [name_new, name_new] at hname
  cases hstore
  exact ⟨rfl, hname, rfl⟩

end FeatureResource

namespace Feature

variable {f g : Feature} {t u : Target} {owner : Owner} {r s : FeatureResource}

/-- The resources of all features, in all targets. -/
theorem mem_resources (h : r ∈ f.resources t owner) :
    (f = .globalSearch ∧ ∃ cluster, r ∈ globalSearchResources owner cluster) ∨
      (f = .virtualMachineActions ∧ ∃ cluster, r ∈ virtualMachineResources owner cluster) ∨
      (f = .fineGrainedRbac ∧ r ∈ fineGrainedRbacResources owner) := by
  cases f with
  | globalSearch =>
    cases t with
    | hub => cases h
    | managedCluster cluster => exact .inl ⟨rfl, cluster, h⟩
  | virtualMachineActions =>
    cases t with
    | hub => cases h
    | managedCluster cluster => exact .inr (.inl ⟨rfl, cluster, h⟩)
  | fineGrainedRbac => exact .inr (.inr ⟨rfl, h⟩)

/-- A resource is determined by its place, and so is its feature. -/
theorem eq_of_same_place (hr : r ∈ f.resources t owner) (hs : s ∈ g.resources u owner) (hstore : s.store = r.store)
    (hname : s.name = r.name) : g = f ∧ s = r := by
  -- two resources of different features, or two of one feature, differ in their kinds or their names
  rcases mem_resources hr with ⟨rfl, c, hm⟩ | ⟨rfl, c, hm⟩ | ⟨rfl, hm⟩ <;>
    rcases mem_resources hs with ⟨rfl, d, hm'⟩ | ⟨rfl, d, hm'⟩ | ⟨rfl, hm'⟩ <;>
    simp only [globalSearchResources, virtualMachineResources, fineGrainedRbacResources, List.mem_cons,
      List.not_mem_nil, or_false] at hm hm'
  all_goals
    try rcases hm with rfl | rfl
    all_goals
      try rcases hm' with rfl | rfl
      all_goals
        obtain ⟨hk, hn, hns⟩ := FeatureResource.place_new_inj hstore hname
        simp_all

/-- The kinds of resources. -/
def resourceKinds : List UnstructuredKind := [.managedServiceAccount, .clusterPermission, .clusterRole]

/-- What all resources have in common: their kinds, that they are made for an owner under a name, and that
their data has a single field. -/
theorem eq_new_of_mem_resources (hr : r ∈ f.resources t owner) :
    ∃ k ∈ resourceKinds, ∃ name ns key value, r = .new owner k name ns (.object [(key, value)]) := by
  rcases mem_resources hr with ⟨rfl, c, hm⟩ | ⟨rfl, c, hm⟩ | ⟨rfl, hm⟩ <;>
    simp only [globalSearchResources, virtualMachineResources, fineGrainedRbacResources, List.mem_cons,
      List.not_mem_nil, or_false] at hm
  all_goals
    try rcases hm with rfl | rfl
    all_goals exact ⟨_, by decide, _, _, _, _, rfl⟩

theorem kind_of_mem_resources (hr : r ∈ f.resources t owner) : r.kind ∈ resourceKinds := by
  obtain ⟨k, hk, _, _, _, _, rfl⟩ := eq_new_of_mem_resources hr
  exact hk

theorem name_wanted_of_mem_resources (hr : r ∈ f.resources t owner) : r.wanted.name = r.name := by
  obtain ⟨_, _, _, _, _, _, rfl⟩ := eq_new_of_mem_resources hr
  exact (FeatureResource.name_wanted_new ..).trans (FeatureResource.name_new ..).symm

theorem metadata_name_of_mem_resources (hr : r ∈ f.resources t owner) :
    r.object.metadata.name = some r.wanted.name := by
  obtain ⟨_, _, _, _, _, _, rfl⟩ := eq_new_of_mem_resources hr
  rw [FeatureResource.name_wanted_new]
  exact Owner.adopt_name _ _

/-- The fields of the data of a resource can be told apart. -/
theorem hasDistinctKeys_of_mem_resources (hr : r ∈ f.resources t owner) : r.object.HasDistinctKeys := by
  obtain ⟨_, _, _, _, _, _, rfl⟩ := eq_new_of_mem_resources hr
  exact List.pairwise_singleton _ _

/-- No two resources get in each other's way. -/
theorem compatible_of_mem_resources (hr : r ∈ f.resources t owner) (hs : s ∈ g.resources u owner) :
    r.wanted.Compatible s.wanted := by
  by_cases hplace : s.store = r.store ∧ s.name = r.name
  · rw [(eq_of_same_place hr hs hplace.1 hplace.2).2]
    exact .inl rfl
  · rw [Wanted.Compatible, name_wanted_of_mem_resources hr, name_wanted_of_mem_resources hs]
    exact .inr (Decidable.not_and_iff_or_not.1 hplace)

/-- Resources of different features have different places. -/
theorem apart_of_mem_resources (hfg : g ≠ f) (hr : r ∈ f.resources t owner) (hs : s ∈ g.resources u owner) :
    s.store ≠ r.store ∨ s.name ≠ r.name := by
  by_cases hstore : s.store = r.store
  · exact .inr fun hname => hfg (eq_of_same_place hr hs hstore hname).1
  · exact .inl hstore

/-! ## Other owners -/

variable {other : Owner} {w : World}

/-- Apart from the labels the resources of a feature are the same for all owners. -/
theorem map_resources (f : Feature) (t : Target) (owner other : Owner) :
    (f.resources t owner).map (fun r => (r.store, r.name, r.object.data)) =
      (f.resources t other).map fun r => (r.store, r.name, r.object.data) := by
  cases f <;> cases t <;>
    simp [resources, globalSearchResources, virtualMachineResources, fineGrainedRbacResources, managedServiceAccount,
      clusterPermission]

theorem exists_resource_of_owner (other : Owner) (hr : r ∈ f.resources t owner) :
    ∃ s ∈ f.resources t other, s.store = r.store ∧ s.name = r.name ∧ s.object.data = r.object.data := by
  have hmem : (r.store, r.name, r.object.data) ∈ (f.resources t owner).map fun r => (r.store, r.name, r.object.data) :=
    List.mem_map.2 ⟨r, hr, rfl⟩
  rw [f.map_resources t owner other] at hmem
  obtain ⟨s, hs, heq⟩ := List.mem_map.1 hmem
  simp only [Prod.mk.injEq] at heq
  exact ⟨s, hs, heq⟩

/-- A resource that is held for one owner is held for all. -/
theorem holds_of_owner (hr : r ∈ f.resources t owner) (h : ∀ s ∈ f.resources t other, w.Holds s.wanted) :
    w.Holds r.wanted := by
  obtain ⟨s, hs, hstore, hname, hdata⟩ := exists_resource_of_owner other hr
  have hheld := h s hs
  have hwanted : s.wanted = ⟨⟨.unstructured r.kind, r.inNamespace⟩, s.object⟩ := by
    obtain ⟨hkind, hns⟩ := StoreRef.mk.inj hstore
    obtain ⟨kind, object⟩ := s
    obtain rfl := Kind.unstructured.inj hkind
    exact congrArg (fun ns => (⟨⟨.unstructured r.kind, ns⟩, object⟩ : Wanted)) hns
  have hlabel : (⟨⟨.unstructured r.kind, r.inNamespace⟩, s.object⟩ : Wanted).name = r.wanted.name := by
    rw [← hwanted, name_wanted_of_mem_resources hs, name_wanted_of_mem_resources hr, hname]
  rw [hwanted] at hheld
  obtain ⟨live, hlive, hmatches⟩ := hheld
  rw [hlabel] at hlive
  refine ⟨live, hlive, ?_⟩
  show Unstructured.Matches live r.object
  rw [Unstructured.Matches, ← hdata]
  exact hmatches

/-- Resources of different features have different places, whoever they are made for. -/
theorem apart_of_ne (hfg : g ≠ f) (hr : r ∈ f.resources t owner) (hs : s ∈ g.resources u other) :
    s.store ≠ r.store ∨ s.name ≠ r.name := by
  obtain ⟨x, hx, hstore, hname, -⟩ := exists_resource_of_owner other hr
  rw [← hstore, ← hname]
  exact apart_of_mem_resources hfg hx hs

end Feature

end HubSearch
