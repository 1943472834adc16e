/-
Agreement for every kind: comparing a live object with the desired one and changing it are two sides of one
relation, so that nothing that is compared stays unwritten and nothing that is written goes uncompared. Main
statement: `Kind.amend_fixpoint`.
-/
import HubSearch.Proofs.Amend.Deployment

namespace HubSearch.Kind

/-- The live object agrees with the desired one on what the operator owns. -/
def Matches : (k : Kind) → k.Object → k.Object → Prop
  | .search, _, _ => True
  | .configMap, live, desired => ConfigMap.Matches live desired
  | .serviceAccount, live, desired => ServiceAccount.Matches live desired
  | .clusterRole, live, desired => ClusterRole.Matches live desired
  | .clusterRoleBinding, live, desired => ClusterRoleBinding.Matches live desired
  | .service, live, desired => Service.Matches live desired
  | .deployment, live, desired => Deployment.Matches live desired
  | .persistentVolumeClaim, _, _ => True
  | .unstructured _, live, desired => Unstructured.Matches live desired

/-- What is looked up by name in a desired object can be told apart: containers and volumes of a deployment,
and the fields of an object without a schema. -/
def HasDistinctNames : (k : Kind) → k.Object → Prop
  | .deployment, desired => Deployment.HasDistinctNames desired
  | .unstructured _, desired => Unstructured.HasDistinctKeys desired
  | _, _ => True

theorem amend_eq_none_iff : ∀ (k : Kind) {live desired : k.Object},
    k.amend live desired = none ↔ k.Matches live desired
  | .search, _, _ => iff_of_true rfl trivial
  | .configMap, _, _ => ConfigMap.amend_eq_none_iff
  | .serviceAccount, _, _ => ServiceAccount.amend_eq_none_iff
  | .clusterRole, _, _ => ClusterRole.amend_eq_none_iff
  | .clusterRoleBinding, _, _ => ClusterRoleBinding.amend_eq_none_iff
  | .service, _, _ => Service.amend_eq_none_iff
  | .deployment, _, _ => Deployment.amend_eq_none_iff
  | .persistentVolumeClaim, _, _ => iff_of_true rfl trivial
  | .unstructured _, _, _ => Unstructured.amend_eq_none_iff

theorem matches_of_amend : ∀ (k : Kind) {live desired after : k.Object}, k.HasDistinctNames desired →
    k.amend live desired = some after → k.Matches after desired
  | .search, _, _, _, _, h => nomatch h
  | .configMap, _, _, _, _, h => ConfigMap.matches_of_amend h
  | .serviceAccount, _, _, _, _, h => ServiceAccount.matches_of_amend h
  | .clusterRole, _, _, _, _, h => ClusterRole.matches_of_amend h
  | .clusterRoleBinding, _, _, _, _, h => ClusterRoleBinding.matches_of_amend h
  | .service, _, _, _, _, h => Service.matches_of_amend h
  | .deployment, _, _, _, hn, h => Deployment.matches_of_amend hn h
  | .persistentVolumeClaim, _, _, _, _, h => nomatch h
  | .unstructured _, _, _, _, hn, h => Unstructured.matches_of_amend hn h

theorem metadata_amend : ∀ (k : Kind) {live desired after : k.Object}, k.amend live desired = some after →
    k.metadata after = k.metadata live
  | .search, _, _, _, h => nomatch h
  | .configMap, _, _, _, h => ConfigMap.metadata_amend h
  | .serviceAccount, _, _, _, h => ServiceAccount.metadata_amend h
  | .clusterRole, _, _, _, h => ClusterRole.metadata_amend h
  | .clusterRoleBinding, _, _, _, h => ClusterRoleBinding.metadata_amend h
  | .service, _, _, _, h => Service.metadata_amend h
  | .deployment, _, _, _, h => Deployment.metadata_amend h
  | .persistentVolumeClaim, _, _, _, h => nomatch h
  | .unstructured _, _, _, _, h => Unstructured.metadata_amend h

theorem matches_self : ∀ (k : Kind) {o : k.Object}, k.HasDistinctNames o → k.Matches o o
  | .search, _, _ => trivial
  | .configMap, _, _ => fun _ _ h => h
  | .serviceAccount, _, _ => ⟨fun _ h => h, fun _ h => h⟩
  | .clusterRole, _, _ => .refl _
  | .clusterRoleBinding, _, _ => ⟨rfl, .refl _⟩
  | .service, o, _ => fun want h => by
    rw [show o.spec = some want from h]
    exact ⟨rfl, .refl _⟩
  | .deployment, _, hn => Deployment.matches_self hn
  | .persistentVolumeClaim, _, _ => trivial
  | .unstructured _, _, hn => fun _ want _ h => ⟨want, Entries.lookup_of_mem hn h, by simp [Json.agrees]⟩

/-- Agreement does not look at metadata. -/
theorem matches_withMetadata (k : Kind) {live desired : k.Object} (m : ObjectMeta) :
    k.Matches (k.withMetadata live m) desired ↔ k.Matches live desired := by
  cases k <;> exact Iff.rfl

/-- There is nothing to amend exactly when the live object agrees with the desired one; an amended object
agrees, and is not amended again. -/
theorem amend_fixpoint (k : Kind) (live desired : k.Object) (hn : k.HasDistinctNames desired) :
    (k.amend live desired = none ↔ k.Matches live desired) ∧
      ∀ after, k.amend live desired = some after →
        k.Matches after desired ∧ k.amend after desired = none := by
  refine ⟨k.amend_eq_none_iff, fun after h => ?_⟩
  have hm : k.Matches after desired := k.matches_of_amend hn h
  exact ⟨hm, k.amend_eq_none_iff.2 hm⟩

/-- A deployment with two containers and a volume, brought into a cluster in which it has no spec. -/
theorem amend_fixpoint_two_containers :
    let pod : PodSpec :=
      { containers := [{ name := "server" }, { name := "sidecar" }], volumes := some [{ name := "data" }] }
    let desired : Deployment := { spec := some { template := { spec := some pod } } }
    amend .deployment {} desired ≠ none ∧
      ∀ after, amend .deployment {} desired = some after →
        Matches .deployment after desired ∧ amend .deployment after desired = none := by
  intro pod desired
  have hn : HasDistinctNames .deployment desired := by
    rintro _ ⟨⟩ _ ⟨⟩
    exact ⟨by decide, by decide⟩
  exact ⟨by decide, (amend_fixpoint .deployment {} desired hn).2⟩

end HubSearch.Kind
