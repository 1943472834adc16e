/-
The objects that a Search asks for as wanted objects. Their kinds and names are known whatever the Search and
the live database configuration say (`keys_wanted`), so that none gets in another one's way, nor in the way of
the Search itself or of a feature.
-/
import HubSearch.Proofs.DatabaseConfig
import HubSearch.Proofs.Feature.Resource
import Mathlib.Data.List.Nodup

namespace HubSearch

/-! ## Names that can be told apart -/

namespace Desired

theorem names_mountedVolumes (search : Search) (c : Component) :
    (mountedVolumes search c).map (·.1.name) =
      (if c.port?.isSome then ["tls"] else []) ++ (if c = .database then ["postgresql-cfg", "postgresdb"] else []) := by
  unfold mountedVolumes
  cases c <;> cases search.spec.dbStorage <;> rfl

theorem hasDistinctNames_deployment (search : Search) (owner : Owner) (config : OperatorConfig)
    (toggles : FeatureToggles) (c : Component) : (deployment search owner config toggles c).HasDistinctNames := by
  rintro _ ⟨⟩ _ ⟨⟩
  refine ⟨List.pairwise_singleton _ _, ?_⟩
  show (((mountedVolumes search c).map (·.1)).map (·.name)).Nodup
  rw [List.map_map]
  have hnames := names_mountedVolumes search c
  rw [show (mountedVolumes search c).map ((fun v : Volume => v.name) ∘ (·.1)) = _ from hnames]
  cases c <;> decide

end Desired

namespace Pass

variable (p : Pass) (live : Option ConfigMap) {x y : Wanted}

/-! ## Kinds and names -/

theorem desired_eq : p.desired live =
    { DesiredState.build p.search p.owner p.config p.toggles with
      databaseConfig := (p.desired live).databaseConfig } := by
  cases live <;> rfl

theorem databaseConfig_desired : (p.desired live).databaseConfig =
    { Desired.databaseConfig p.owner with
      data := DatabaseConfig.mergeData (live.bind (·.data)) (some (DatabaseConfig.freshData DatabaseConfig.template))
        DatabaseConfig.priorTemplates } := by
  cases live with
  | none =>
    rw [Option.bind_none, DatabaseConfig.mergeData_none]
    rfl
  | some c => rfl

theorem name_databaseConfig : (p.desired live).databaseConfig.metadata.name = some Desired.databaseConfigName := by
  rw [databaseConfig_desired]
  exact Owner.adopt_name _ _

/-- The kinds and names of the objects that are wanted. -/
theorem keys_wanted : (p.wanted (p.desired live)).map (fun x => (x.store.kind, x.name)) =
    [(.serviceAccount, Desired.serviceAccountName), (.clusterRole, Desired.clusterRoleName),
      (.clusterRoleBinding, Desired.clusterRoleName), (.configMap, Desired.databaseConfigName)] ++
    (if p.search.spec.dbStorage.isSome then [(.persistentVolumeClaim, Desired.storageClaimName)] else []) ++
    [Component.database, .indexer, .api].map (fun c => (.service, c.name)) ++
    Component.all.map fun c => (.deployment, c.name) := by
  have hconfig := p.name_databaseConfig live
  have howned : ∀ name namespaced, (Desired.ownedMeta p.owner name namespaced).name = some name :=
    fun _ _ => Owner.adopt_name _ _
  rw [desired_eq]
  cases hs : p.search.spec.dbStorage <;>
    simp [wanted, DesiredState.build, besideSearch, Wanted.name, hconfig, Kind.objectName, Kind.metadata, howned,
      Desired.serviceAccount, Desired.clusterRole, Desired.clusterRoleBinding, Desired.service, Desired.deployment,
      Desired.storageClaim, Owner.label, ObjectMeta.withLabels, Component.all, hs]

/-- The places of the objects do not depend on the live database configuration. -/
theorem places_wanted : (p.wanted (p.desired live)).map (fun x => (x.store, x.name)) =
    (p.wanted (p.desired none)).map fun x => (x.store, x.name) := by
  have hname : Wanted.name ⟨p.besideSearch .configMap, (p.desired live).databaseConfig⟩ =
      Wanted.name ⟨p.besideSearch .configMap, (p.desired none).databaseConfig⟩ :=
    congrArg (·.getD "") ((p.name_databaseConfig live).trans (p.name_databaseConfig none).symm)
  rw [p.desired_eq live, p.desired_eq none]
  simp only [wanted, List.map_append, List.map_cons, hname]

/-- Nor does the status. -/
theorem finalStatus_desired (status : SearchStatus) :
    finalStatus (p.desired live) status = finalStatus (p.desired none) status := by
  rw [p.desired_eq live, p.desired_eq none]
  rfl

theorem nodup_keys_wanted : ((p.wanted (p.desired live)).map fun x => (x.store.kind, x.name)).Nodup := by
  rw [keys_wanted]
  cases p.search.spec.dbStorage.isSome <;> decide

variable {p live}

/-- The objects that are wanted are the cluster role, its binding, and others beside the Search. -/
theorem mem_wanted_cases {d : DesiredState} (hx : x ∈ p.wanted d) :
    x = ⟨⟨.clusterRole, none⟩, d.clusterRole⟩ ∨ x = ⟨⟨.clusterRoleBinding, none⟩, d.clusterRoleBinding⟩ ∨
      x.store.inNamespace = some p.owner.inNamespace := by
  simp only [wanted, List.mem_append, List.mem_map, List.mem_cons, List.not_mem_nil, or_false] at hx
  rcases hx with (((rfl | rfl | rfl | rfl) | ⟨_, -, rfl⟩) | ⟨_, -, rfl⟩) | ⟨_, -, rfl⟩
  case inl.inl.inl.inr.inl => exact .inl rfl
  case inl.inl.inl.inr.inr.inl => exact .inr (.inl rfl)
  all_goals exact .inr (.inr rfl)

/-- Every object that is wanted is of a kind with a schema, and none is a Search. -/
theorem kind_of_mem_wanted (hx : x ∈ p.wanted (p.desired live)) :
    x.store.kind ≠ .search ∧ ∀ k ∈ UnstructuredKind.all, x.store.kind ≠ .unstructured k := by
  have hkey : (x.store.kind, x.name) ∈ (p.wanted (p.desired live)).map fun x => (x.store.kind, x.name) :=
    List.mem_map.2 ⟨x, hx, rfl⟩
  rw [keys_wanted] at hkey
  refine (?_ : ∀ key ∈ _, key.1 ≠ Kind.search ∧ ∀ k ∈ UnstructuredKind.all, key.1 ≠ .unstructured k) _ hkey
  cases p.search.spec.dbStorage.isSome <;> decide

/-- No two objects that are wanted get in each other's way. -/
theorem compatible_of_mem_wanted (hx : x ∈ p.wanted (p.desired live)) (hy : y ∈ p.wanted (p.desired live)) :
    x.Compatible y := by
  by_cases hplace : y.store = x.store ∧ y.name = x.name
  · refine .inl (List.inj_on_of_nodup_map (p.nodup_keys_wanted live) hy hx ?_)
    rw [hplace.1, hplace.2]
  · exact .inr (Decidable.not_and_iff_or_not.1 hplace)

theorem hasDistinctNames_of_mem_wanted (hx : x ∈ p.wanted (p.desired live)) :
    x.store.kind.HasDistinctNames x.object := by
  rw [desired_eq] at hx
  simp only [wanted, DesiredState.build, List.mem_append, List.mem_map, List.mem_cons, List.not_mem_nil, or_false] at hx
  rcases hx with (((rfl | rfl | rfl | rfl) | ⟨_, -, rfl⟩) | ⟨_, -, rfl⟩) | ⟨_, ⟨c, -, rfl⟩, rfl⟩
  case inr => exact Desired.hasDistinctNames_deployment _ _ _ _ c
  all_goals trivial

/-- Every object that is wanted carries its name. -/
theorem metadata_name_of_mem_wanted (hx : x ∈ p.wanted (p.desired live)) :
    (x.store.kind.metadata x.object).name = some x.name := by
  have howned : ∀ name namespaced, (Desired.ownedMeta p.owner name namespaced).name = some name :=
    fun _ _ => Owner.adopt_name _ _
  have hnamed : ∃ name, (x.store.kind.metadata x.object).name = some name := by
    have hconfig := p.name_databaseConfig live
    rw [desired_eq] at hx
    simp only [wanted, DesiredState.build, List.mem_append, List.mem_map, List.mem_cons, List.not_mem_nil,
      or_false] at hx
    rcases hx with (((rfl | rfl | rfl | rfl) | ⟨claim, hclaim, rfl⟩) | ⟨_, ⟨c, -, rfl⟩, rfl⟩) | ⟨_, ⟨c, -, rfl⟩, rfl⟩
    · exact ⟨_, howned _ _⟩
    · exact ⟨_, howned Desired.clusterRoleName false⟩
    · exact ⟨_, howned Desired.clusterRoleName false⟩
    · exact ⟨_, hconfig⟩
    · obtain ⟨storage, -, rfl⟩ := Option.map_eq_some_iff.1 (Option.mem_toList.1 hclaim)
      exact ⟨_, rfl⟩
    · exact ⟨_, howned _ _⟩
    · exact ⟨_, howned _ _⟩
  obtain ⟨name, hname⟩ := hnamed
  rw [Wanted.name, Kind.objectName, hname]
  rfl

/-- The database configuration as a wanted object. -/
def wantedConfig (p : Pass) (live : Option ConfigMap) : Wanted :=
  ⟨p.besideSearch .configMap, (p.desired live).databaseConfig⟩

theorem wantedConfig_mem_wanted : p.wantedConfig live ∈ p.wanted (p.desired live) := by
  simp [wanted, wantedConfig]

theorem name_wantedConfig : (p.wantedConfig live).name = Desired.databaseConfigName :=
  congrArg (·.getD "") (p.name_databaseConfig live)

end Pass

end HubSearch
