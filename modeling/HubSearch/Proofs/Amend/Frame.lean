/-
What amending leaves alone. Whatever the live and the desired object are, an amended object is the live one but for the
fields that the operator owns: the metadata, every field that is not owned, the items of a collection that are not
desired, and the places of containers and volumes in their lists. A spec, a pod or data that is missing counts as an
empty one. Main statement: `Kind.amend_spares`.
-/
import HubSearch.Proofs.Amend.Kind

namespace HubSearch

/-! ## ConfigMaps and service accounts -/

namespace ConfigMap

/-- The keys that are not desired, and everything but the data, are as they were. -/
structure Spares (live desired after : ConfigMap) : Prop where
  rest : after = { live with data := after.data }
  keys : ∀ key, desired.data.bind (·.get? key) = none →
    after.data.bind (·.get? key) = live.data.bind (·.get? key)

theorem spares_of_amend {live desired after : ConfigMap} (h : live.amend desired = some after) :
    live.Spares desired after := by
  constructor
  · unfold amend at h
    split at h
    · cases h
    · cases h
      rfl
  · intro key hkey
    exact get?_amend_of_none h hkey

end ConfigMap

namespace ServiceAccount

/-- The pull secrets stay in front in their order, and the secrets and the metadata are as they were; so is the token
setting when none is desired. -/
structure Spares (live desired after : ServiceAccount) : Prop where
  rest : after = { live with
    automountServiceAccountToken := after.automountServiceAccountToken, imagePullSecrets := after.imagePullSecrets }
  automount : desired.automountServiceAccountToken = none →
    after.automountServiceAccountToken = live.automountServiceAccountToken
  pullSecrets : live.imagePullSecrets.getD [] <+: after.imagePullSecrets.getD []

theorem spares_of_amend {live desired after : ServiceAccount} (h : live.amend desired = some after) :
    live.Spares desired after := by
  simp only [amend] at h
  split at h
  · cases h
  · cases h
    refine ⟨rfl, ?_, ?_⟩
    · intro hnone
      simp [hnone]
    · show live.imagePullSecrets.getD [] <+: Option.getD (if _ then _ else _) []
      split
      · exact List.prefix_rfl
      · exact List.prefix_append _ _

end ServiceAccount

/-! ## Roles, bindings and services -/

theorem ClusterRole.rest_of_amend {live desired after : ClusterRole} (h : live.amend desired = some after) :
    after = { live with rules := after.rules } := by
  unfold amend at h
  split at h
  · cases h
  · cases h
    rfl

theorem ClusterRoleBinding.rest_of_amend {live desired after : ClusterRoleBinding}
    (h : live.amend desired = some after) :
    after = { live with roleRef := after.roleRef, subjects := after.subjects } := by
  unfold amend at h
  split at h
  · cases h
  · cases h
    rfl

/-- Everything but selector and ports is as it was. -/
def Service.Spares (live after : Service) : Prop :=
  ∃ selector ports, after = { live with spec := some { live.spec.getD {} with selector, ports } }

theorem Service.spares_of_amend {live desired after : Service} (h : live.amend desired = some after) :
    live.Spares after := by
  unfold amend at h
  split at h
  · cases h
  · rename_i want hwant
    split at h
    · cases h
    · cases h
      exact ⟨want.selector, want.ports, rfl⟩

/-! ## Lists into which items are placed by name -/

/-- The list after items of some names were placed into the live one. Each item has kept its place and its name, and
was changed at most if it was the first one of one of these names; what was added comes after them. -/
structure Placed {α : Type} (nameOf : α → String) (fits : α → α → Prop) (names : List String) (live after : List α) :
    Prop where
  kept : ∀ (i : Nat) a, live[i]? = some a → ∃ b, after[i]? = some b ∧ nameOf b = nameOf a ∧ fits a b
  foreign : ∀ (i : Nat) a, live[i]? = some a →
    (nameOf a ∉ names ∨ ∃ (j : Nat) (b : α), j < i ∧ live[j]? = some b ∧ nameOf b = nameOf a) → after[i]? = some a
  added : ∀ (i : Nat) b, live.length ≤ i → after[i]? = some b → nameOf b ∈ names

section

variable {α : Type} {nameOf : α → String} {fits : α → α → Prop} {names names' : List String} {live mid after : List α}

theorem placed_refl (hrefl : ∀ a, fits a a) (names : List String) (live : List α) :
    Placed nameOf fits names live live where
  kept i a ha := ⟨a, ha, rfl, hrefl a⟩
  foreign i a ha _ := ha
  added i b hi hb := by
    rw [List.getElem?_eq_none hi] at hb
    cases hb

theorem Placed.trans (htrans : ∀ a b c, fits a b → fits b c → fits a c) (h : Placed nameOf fits names live mid)
    (h' : Placed nameOf fits names' mid after) : Placed nameOf fits (names ++ names') live after := by
  constructor
  · intro i a ha
    obtain ⟨b, hb, hname, hfits⟩ := h.kept i a ha
    obtain ⟨c, hc, hname', hfits'⟩ := h'.kept i b hb
    exact ⟨c, hc, hname'.trans hname, htrans a b c hfits hfits'⟩
  · intro i a ha hforeign
    rw [List.mem_append, not_or] at hforeign
    rcases hforeign with ⟨hnot, hnot'⟩ | ⟨j, b, hj, hb, hname⟩
    · exact h'.foreign i a (h.foreign i a ha (.inl hnot)) (.inl hnot')
    · -- an earlier one of the same name is still in front
      obtain ⟨c, hc, hname', -⟩ := h.kept j b hb
      have hmid := h.foreign i a ha (.inr ⟨j, b, hj, hb, hname⟩)
      exact h'.foreign i a hmid (.inr ⟨j, c, hj, hc, hname'.trans hname⟩)
  · intro i c hi hc
    rw [List.mem_append]
    by_cases hmid : mid.length ≤ i
    · exact .inr (h'.added i c hmid hc)
    · have hb := List.getElem?_eq_getElem (Nat.lt_of_not_le hmid)
      obtain ⟨c', hc', hname, -⟩ := h'.kept i _ hb
      obtain rfl := Option.some.inj (hc'.symm.trans hc)
      rw [hname]
      exact .inl (h.added i _ hi hb)

/-- An item in front of both lists that has another name than what is placed. -/
theorem Placed.cons {w : String} {a : α} (hrefl : fits a a) (ha : nameOf a ≠ w)
    (h : Placed nameOf fits [w] live after) : Placed nameOf fits [w] (a :: live) (a :: after) := by
  constructor
  · intro i b hb
    cases i with
    | zero =>
      obtain rfl : a = b := by simpa using hb
      exact ⟨a, rfl, rfl, hrefl⟩
    | succ i => exact h.kept i b hb
  · intro i b hb hforeign
    cases i with
    | zero => exact hb
    | succ i =>
      refine h.foreign i b hb ?_
      rcases hforeign with hnot | ⟨j, c, hj, hc, hname⟩
      · exact .inl hnot
      · cases j with
        | zero =>
          obtain rfl : a = c := by simpa using hc
          refine .inl fun hmem => ha ?_
          rw [hname, List.mem_singleton.1 hmem]
        | succ j => exact .inr ⟨j, c, by omega, hc, hname⟩
  · intro i b hi hb
    cases i with
    | zero => simp at hi
    | succ i => exact h.added i b (by simpa using hi) hb

/-- Placing changes the first item of the name, or adds one at the end. -/
theorem placed_place {place : α → List α → List α} (change : α → α → α) (hrefl : ∀ a, fits a a)
    (hchange : ∀ a w, nameOf a = nameOf w → nameOf (change a w) = nameOf a ∧ fits a (change a w))
    (hnil : ∀ w, place w [] = [w])
    (hcons : ∀ w a rest, place w (a :: rest) =
      if nameOf a = nameOf w then change a w :: rest else a :: place w rest) (w : α) :
    ∀ live, Placed nameOf fits [nameOf w] live (place w live) := by
  intro live
  induction live with
  | nil =>
    rw [hnil]
    refine ⟨fun i a ha => ?_, fun i a ha => ?_, fun i b _ hb => ?_⟩
    · simp at ha
    · simp at ha
    · obtain ⟨-, rfl⟩ : i = 0 ∧ w = b := by simpa [List.getElem?_singleton] using hb
      exact List.mem_singleton_self _
  | cons a rest ih =>
    rw [hcons]
    by_cases hname : nameOf a = nameOf w
    · rw [if_pos hname]
      obtain ⟨hnamed, hfits⟩ := hchange a w hname
      constructor
      · intro i b hb
        cases i with
        | zero =>
          obtain rfl : a = b := by simpa using hb
          exact ⟨change a w, rfl, hnamed, hfits⟩
        | succ i => exact ⟨b, hb, rfl, hrefl b⟩
      · intro i b hb hforeign
        cases i with
        | zero =>
          obtain rfl : a = b := by simpa using hb
          rcases hforeign with hnot | ⟨j, c, hj, -⟩
          · exact absurd (by simp [hname]) hnot
          · omega
        | succ i => exact hb
      · intro i b hi hb
        have hlength : (change a w :: rest).length ≤ i := by simpa using hi
        rw [List.getElem?_eq_none hlength] at hb
        cases hb
    · rw [if_neg hname]
      exact ih.cons (hrefl a) hname

theorem placed_foldl {place : α → List α → List α} (hrefl : ∀ a, fits a a)
    (htrans : ∀ a b c, fits a b → fits b c → fits a c)
    (hplace : ∀ w live, Placed nameOf fits [nameOf w] live (place w live)) :
    ∀ (ws live : List α), Placed nameOf fits (ws.map nameOf) live (ws.foldl (fun xs w => place w xs) live) := by
  intro ws
  induction ws with
  | nil => exact fun live => placed_refl hrefl _ live
  | cons w ws ih =>
    intro live
    exact (hplace w live).trans htrans (ih (place w live))

end

/-! ## Deployments -/

/-- Everything but image, pull policy, command, arguments, environment, resources and mounts is as it was. -/
def Container.Spares (live after : Container) : Prop :=
  after = { live with
    image := after.image, imagePullPolicy := after.imagePullPolicy, command := after.command, args := after.args,
    env := after.env, resources := after.resources, volumeMounts := after.volumeMounts }

theorem Container.Spares.refl (c : Container) : c.Spares c :=
  rfl

theorem Container.Spares.trans {a b c : Container} (h : a.Spares b) (h' : b.Spares c) : a.Spares c := by
  unfold Spares at *
  rw [h'] at *
  rw [h]

theorem Container.placed_containers (ws live : List Container) :
    Placed (·.name) Container.Spares (ws.map (·.name)) live (ws.foldl (fun cs w => w.place cs) live) := by
  refine placed_foldl Spares.refl (fun _ _ _ => Spares.trans) ?_ ws live
  refine placed_place Container.amended Spares.refl ?_ ?_ ?_
  · intro a w _
    exact ⟨rfl, rfl⟩
  · intro w
    rfl
  · intro w a rest
    rfl

theorem Volume.placed_volumes (ws live : List Volume) :
    Placed (·.name) (fun _ _ => True) (ws.map (·.name)) live (ws.foldl (fun vs w => w.place vs) live) := by
  refine placed_foldl (fun _ => trivial) (fun _ _ _ _ _ => trivial) ?_ ws live
  refine placed_place (fun _ w => w) (fun _ => trivial) ?_ ?_ ?_
  · intro a w hname
    exact ⟨hname.symm, trivial⟩
  · intro w
    rfl
  · intro w a rest
    rfl

/-- Containers and volumes that are not desired keep their places and are as they were. So are the other fields of a
desired container, and the fields of the pod that are not owned, the service account among them when none is
desired. -/
structure PodSpec.Spares (live want after : PodSpec) : Prop where
  rest : after = { live with
    containers := after.containers, nodeSelector := after.nodeSelector, tolerations := after.tolerations,
    imagePullSecrets := after.imagePullSecrets, serviceAccountName := after.serviceAccountName,
    volumes := after.volumes }
  serviceAccountName : want.serviceAccountName = none → after.serviceAccountName = live.serviceAccountName
  containers : Placed (·.name) Container.Spares (want.containers.map (·.name)) live.containers after.containers
  volumes : Placed (·.name) (fun _ _ => True) ((want.volumes.getD []).map (·.name)) (live.volumes.getD [])
    (after.volumes.getD [])

theorem PodSpec.spares_refl (live want : PodSpec) : live.Spares want live :=
  ⟨rfl, fun _ => rfl, placed_refl Container.Spares.refl _ _, placed_refl (fun _ => trivial) _ _⟩

theorem PodSpec.spares_amended (live want : PodSpec) : live.Spares want (live.amended want) := by
  refine ⟨rfl, ?_, Container.placed_containers _ _, ?_⟩
  · intro hnone
    simp [amended, hnone]
  · have hvolumes : (live.amended want).volumes.getD [] =
        (want.volumes.getD []).foldl (fun vs w => w.place vs) (live.volumes.getD []) := by
      unfold amended
      dsimp only
      split
      · rename_i hnil
        rw [hnil]
        rfl
      · rename_i ws hws
        rfl
    rw [hvolumes]
    exact Volume.placed_volumes _ _

/-- Everything but replicas and pod is as it was, and each of them when it is not desired. -/
structure DeploymentSpec.Spares (live want after : DeploymentSpec) : Prop where
  rest : after = { live with
    replicas := after.replicas, template := { live.template with spec := after.template.spec } }
  replicas : want.replicas = none → after.replicas = live.replicas
  noPod : want.template.spec = none → after.template.spec = live.template.spec
  pod : ∀ pod, want.template.spec = some pod →
    (live.template.spec.getD {}).Spares pod (after.template.spec.getD {})

/-- Everything but the spec is as it was, and the spec is spared. -/
def Deployment.Spares (live desired after : Deployment) : Prop :=
  ∃ want spec, desired.spec = some want ∧ after = { live with spec := some spec } ∧
    (live.spec.getD {}).Spares want spec

theorem Deployment.spares_of_amend {live desired after : Deployment} (h : live.amend desired = some after) :
    live.Spares desired after := by
  unfold amend at h
  split at h
  · cases h
  · rename_i want hwant
    simp only at h
    split at h
    · cases h
    · cases h
      refine ⟨want, _, hwant, rfl, ?_⟩
      have hreplicas : want.replicas = none → want.changedReplicas live.spec = none := by
        intro hnone
        rw [DeploymentSpec.changedReplicas, hnone]
        rfl
      have hpod : want.changedPod live.spec = none ∨ want.changedPod live.spec = want.template.spec :=
        filter_eq_none_or_self _ _
      refine ⟨?_, ?_, ?_, ?_⟩
      · cases want.changedPod live.spec <;> rfl
      · intro hnone
        simp [hreplicas hnone]
      · intro hnone
        rw [hnone, or_self] at hpod
        simp only [hpod]
      · -- the live pod is left alone when it agrees
        intro pod hwanted
        rcases hpod with hnone | hsome
        · simp only [hnone]
          exact PodSpec.spares_refl _ _
        · rw [hwanted] at hsome
          simp only [hsome]
          exact PodSpec.spares_amended _ _

/-! ## Objects without a schema -/

namespace Unstructured

/-- The status, the fields that are not desired, the type and the metadata are as they were. -/
structure Spares (live desired after : Unstructured) : Prop where
  rest : after = { live with data := after.data }
  fields : ∀ key, key = "status" ∨ key ∉ (desired.data.object?.getD []).map (·.1) →
    (after.data.object?.getD []).lookup key = (live.data.object?.getD []).lookup key

theorem spares_of_amend {live desired after : Unstructured} (h : live.amend desired = some after) :
    live.Spares desired after := by
  rw [amend_eq] at h
  split at h
  · cases h
  · cases h
    refine ⟨rfl, ?_⟩
    intro key hkey
    refine Entries.lookup_insertAll_of_not_mem _ fun hmem => ?_
    -- a field that changes is desired, and not the status
    obtain ⟨⟨_, value⟩, hfield, rfl⟩ := List.mem_map.1 hmem
    obtain ⟨hwanted, hchanged⟩ := List.mem_filter.1 hfield
    rcases hkey with rfl | hnot
    · simp at hchanged
    · exact hnot (List.mem_map_of_mem hwanted)

end Unstructured

/-! ## Every kind -/

namespace Kind

/-- All that is not owned is in the amended object as it was in the live one. -/
def Spares : (k : Kind) → k.Object → k.Object → k.Object → Prop
  | .search, live, _, after => after = live
  | .configMap, live, desired, after => ConfigMap.Spares live desired after
  | .serviceAccount, live, desired, after => ServiceAccount.Spares live desired after
  | .clusterRole, live, _, after => after = { live with rules := ClusterRole.rules after }
  | .clusterRoleBinding, live, _, after =>
    after = { live with roleRef := ClusterRoleBinding.roleRef after, subjects := ClusterRoleBinding.subjects after }
  | .service, live, _, after => Service.Spares live after
  | .deployment, live, desired, after => Deployment.Spares live desired after
  | .persistentVolumeClaim, live, _, after => after = live
  | .unstructured _, live, desired, after => Unstructured.Spares live desired after

/-- An amended object is the live one in its metadata and in all that is not owned. -/
theorem amend_spares (k : Kind) {live desired after : k.Object} (h : k.amend live desired = some after) :
    k.metadata after = k.metadata live ∧ k.Spares live desired after := by
  refine ⟨k.metadata_amend h, ?_⟩
  cases k with
  | search => cases h
  | configMap => exact ConfigMap.spares_of_amend h
  | serviceAccount => exact ServiceAccount.spares_of_amend h
  | clusterRole => exact ClusterRole.rest_of_amend h
  | clusterRoleBinding => exact ClusterRoleBinding.rest_of_amend h
  | service => exact Service.spares_of_amend h
  | deployment => exact Deployment.spares_of_amend h
  | persistentVolumeClaim => cases h
  | unstructured => exact Unstructured.spares_of_amend h

/-- A live deployment with a label, an injected container on either side of the one that gets a new image, and a second
container of its name. -/
def sampleDeployment : Deployment where
  metadata := { name := some "search-api", labels := some (.ofList [("team", "search")]), resourceVersion := some "7" }
  spec := some {
    replicas := some 5
    paused := some true
    template := { spec := some {
      containers := [
        { name := "proxy", image := some "proxy:1" },
        { name := "server", image := some "server:1", workingDir := some "/srv" },
        { name := "server", image := some "other" },
        { name := "logs" }]
      restartPolicy := some "Always"
      volumes := some [{ name := "proxy-tls" }] } } }

theorem amend_spares_sampleDeployment :
    let desired : Deployment :=
      { spec := some { template := { spec := some {
          containers := [{ name := "server", image := some "server:2" }], volumes := some [{ name := "data" }] } } } }
    amend .deployment sampleDeployment desired ≠ none ∧
      ∀ after, amend .deployment sampleDeployment desired = some after →
        metadata .deployment after = metadata .deployment sampleDeployment ∧
          Spares .deployment sampleDeployment desired after := by
  intro desired
  exact ⟨by decide, fun after h => amend_spares .deployment h⟩

end Kind

end HubSearch
