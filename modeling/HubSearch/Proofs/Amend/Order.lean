/-
Order never counts as a change. An object is `Reordered` when the collections in it that are compared as sets are in
another order, and containers and volumes are, which are found by their names. Both the live and the desired object
can be reordered without changing whether they agree. Main statement: `order_never_counts`.
-/
import HubSearch.Proofs.Amend.Kind
import Mathlib.Data.List.Forall2

namespace HubSearch

variable {α : Type}

/-! ## Lists in other orders -/

/-- The same items, each as often, in any order; an absent collection is empty. -/
def SameItems (a b : Option (List α)) : Prop := (a.getD []).Perm (b.getD [])

/-- Collections of this type are compared as sets of items that can be repeated. -/
def ComparedAsSets (α : Type) [Encode α] [DecidableEq α] : Prop :=
  ∀ a b : Option (List α), sameSet a b = true ↔ SameItems a b

theorem comparedAsSets [Encode α] [DecidableEq α] [LawfulEncode α] : ComparedAsSets α := sameSet_iff_perm

/-- Collections with the same items are permutations of the same collections. -/
theorem SameItems.perm_iff {live live' want want' : Option (List α)} (hl : SameItems live live')
    (hw : SameItems want want') : (live.getD []).Perm (want.getD []) ↔ (live'.getD []).Perm (want'.getD []) :=
  (List.Perm.congr_left hl _).trans (List.Perm.congr_right hw _)

/-- The same items in the same order, or in another one if their names differ. -/
def ReorderedByName (nameOf : α → String) (xs ys : List α) : Prop := xs = ys ∨ (xs.map nameOf).Nodup ∧ xs.Perm ys

section

variable {nameOf : α → String} {xs ys : List α}

theorem ReorderedByName.mem_iff (h : ReorderedByName nameOf xs ys) {x : α} : x ∈ xs ↔ x ∈ ys := by
  rcases h with rfl | ⟨-, hperm⟩
  · exact Iff.rfl
  · exact hperm.mem_iff

/-- What is found under a name does not depend on the order. -/
theorem ReorderedByName.find?_eq (h : ReorderedByName nameOf xs ys) (n : String) :
    xs.find? (nameOf · = n) = ys.find? (nameOf · = n) := by
  rcases h with rfl | ⟨hn, hperm⟩
  · rfl
  cases hfound : ys.find? (nameOf · = n) with
  | none =>
    rw [List.find?_eq_none] at hfound ⊢
    exact fun x hx => hfound x (hperm.mem_iff.1 hx)
  | some y =>
    have hname : nameOf y = n := by simpa using List.find?_some hfound
    rw [← hname]
    exact find?_of_mem hn (hperm.mem_iff.2 (List.mem_of_find?_eq_some hfound))

/-- Of lists that are related item by item, related items are found under a name, if related items have one name. -/
theorem find?_rel_of_forall₂ {R : α → α → Prop} (hname : ∀ a b, R a b → nameOf a = nameOf b) (n : String)
    (h : List.Forall₂ R xs ys) : Option.Rel R (xs.find? (nameOf · = n)) (ys.find? (nameOf · = n)) := by
  induction h with
  | nil => exact .none
  | @cons a b as bs hab _ ih =>
    rw [List.find?_cons, List.find?_cons, hname a b hab]
    cases decide (nameOf b = n) with
    | true => exact .some hab
    | false => exact ih

theorem option_rel_refl {R : α → α → Prop} (hrefl : ∀ a, R a a) : ∀ o : Option α, Option.Rel R o o
  | none => .none
  | some a => .some (hrefl a)

theorem exists_some_iff_of_rel {R : α → α → Prop} {P Q : α → Prop} (hpq : ∀ a b, R a b → (P a ↔ Q b)) {o o' : Option α}
    (h : Option.Rel R o o') : (∃ a, o = some a ∧ P a) ↔ ∃ b, o' = some b ∧ Q b := by
  cases h with
  | none => simp
  | some hab => simpa using hpq _ _ hab

theorem forall_some_iff_of_rel {R : α → α → Prop} {P Q : α → Prop} (hpq : ∀ a b, R a b → (P a ↔ Q b)) {o o' : Option α}
    (h : Option.Rel R o o') : (∀ a, o = some a → P a) ↔ ∀ b, o' = some b → Q b := by
  cases h with
  | none => simp
  | some hab => simpa using hpq _ _ hab

/-- What holds of related items alike holds of all items of both lists, or of neither. -/
theorem forall_mem_iff_of_forall₂ {R : α → α → Prop} {P Q : α → Prop} (hpq : ∀ a b, R a b → (P a ↔ Q b))
    (h : List.Forall₂ R xs ys) : (∀ a ∈ xs, P a) ↔ ∀ b ∈ ys, Q b := by
  induction h with
  | nil => exact iff_of_true (fun _ h => nomatch h) fun _ h => nomatch h
  | @cons a b as bs hab _ ih => rw [List.forall_mem_cons, List.forall_mem_cons, hpq a b hab, ih]

end

/-! ## Containers and pods -/

/-- The mounts are in another order. -/
structure Container.Reordered (c d : Container) : Prop where
  rest : d = { c with volumeMounts := d.volumeMounts }
  volumeMounts : SameItems c.volumeMounts d.volumeMounts

namespace Container

theorem Reordered.refl (c : Container) : c.Reordered c := ⟨rfl, .refl _⟩

theorem Reordered.name_eq {c d : Container} (h : c.Reordered d) : c.name = d.name := by rw [h.rest]

theorem Reordered.symm {c d : Container} (h : c.Reordered d) : d.Reordered c :=
  ⟨by rw [h.rest], h.volumeMounts.symm⟩

theorem Matches.reordered {live live' want want' : Container} (hl : live.Reordered live') (hw : want.Reordered want')
    (h : live.Matches want) : live'.Matches want' := by
  rw [hl.rest, hw.rest]
  exact ⟨h.image, h.imagePullPolicy, h.command, h.args, h.env, h.resources,
    (hl.volumeMounts.perm_iff hw.volumeMounts).1 h.volumeMounts⟩

theorem Reordered.matches_iff {live live' want want' : Container} (hl : live.Reordered live')
    (hw : want.Reordered want') : live.Matches want ↔ live'.Matches want' :=
  ⟨.reordered hl hw, .reordered hl.symm hw.symm⟩

/-- Containers in another order, if their names differ, each with its mounts in another order. -/
def ReorderedLists (cs ds : List Container) : Prop :=
  ∃ es, List.Forall₂ Reordered cs es ∧ ReorderedByName (·.name) es ds

theorem ReorderedLists.refl (cs : List Container) : ReorderedLists cs cs :=
  ⟨cs, List.forall₂_same.2 fun c _ => .refl c, .inl rfl⟩

theorem ReorderedLists.find?_rel {cs ds : List Container} (h : ReorderedLists cs ds) (n : String) :
    Option.Rel Reordered (cs.find? (·.name = n)) (ds.find? (·.name = n)) := by
  obtain ⟨es, hes, hds⟩ := h
  rw [← hds.find?_eq n]
  exact find?_rel_of_forall₂ (fun _ _ hcd => hcd.name_eq) n hes

theorem ReorderedLists.forall_mem_iff {cs ds : List Container} (h : ReorderedLists cs ds) {P Q : Container → Prop}
    (hpq : ∀ c d, c.Reordered d → (P c ↔ Q d)) : (∀ c ∈ cs, P c) ↔ ∀ d ∈ ds, Q d := by
  obtain ⟨es, hes, hds⟩ := h
  rw [forall_mem_iff_of_forall₂ hpq hes]
  simp only [hds.mem_iff]

end Container

/-- Containers, volumes, tolerations and pull secrets are in another order, and the mounts of any container are. -/
structure PodSpec.Reordered (p q : PodSpec) : Prop where
  rest : q = { p with
    containers := q.containers, initContainers := q.initContainers, tolerations := q.tolerations,
    imagePullSecrets := q.imagePullSecrets, volumes := q.volumes }
  containers : Container.ReorderedLists p.containers q.containers
  initContainers : Container.ReorderedLists (p.initContainers.getD []) (q.initContainers.getD [])
  tolerations : SameItems p.tolerations q.tolerations
  imagePullSecrets : SameItems p.imagePullSecrets q.imagePullSecrets
  volumes : ReorderedByName (·.name) (p.volumes.getD []) (q.volumes.getD [])

namespace PodSpec

variable {live live' want want' : PodSpec}

theorem Reordered.refl (p : PodSpec) : p.Reordered p :=
  ⟨rfl, .refl _, .refl _, .refl _, .refl _, .inl rfl⟩

/-- The first live containers of the desired names agree with the desired ones, in whatever order both are listed. -/
theorem Reordered.containers_iff (hl : live.Reordered live') (hw : want.Reordered want') :
    (∀ w ∈ want.containers, ∃ c, live.containers.find? (·.name = w.name) = some c ∧ c.Matches w) ↔
      ∀ w ∈ want'.containers, ∃ c, live'.containers.find? (·.name = w.name) = some c ∧ c.Matches w := by
  refine hw.containers.forall_mem_iff fun w w' hww => ?_
  rw [hww.name_eq]
  exact exists_some_iff_of_rel (fun _ _ hcc => hcc.matches_iff hww) (hl.containers.find?_rel w'.name)

theorem Reordered.volumes_iff (hl : live.Reordered live') (hw : want.Reordered want') :
    (∀ w ∈ want.volumes.getD [], (live.volumes.getD []).find? (·.name = w.name) = some w) ↔
      ∀ w ∈ want'.volumes.getD [], (live'.volumes.getD []).find? (·.name = w.name) = some w := by
  simp only [hw.volumes.mem_iff, hl.volumes.find?_eq]

theorem Reordered.matches_iff (hl : live.Reordered live') (hw : want.Reordered want') :
    live.Matches want ↔ live'.Matches want' := by
  have hcontainers := hl.containers_iff hw
  have hvolumes := hl.volumes_iff hw
  have htolerations := hl.tolerations.perm_iff hw.tolerations
  have hsecrets := hl.imagePullSecrets.perm_iff hw.imagePullSecrets
  have haccount : live'.serviceAccountName = live.serviceAccountName := by rw [hl.rest]
  have haccount' : want'.serviceAccountName = want.serviceAccountName := by rw [hw.rest]
  have hselector : live'.nodeSelector = live.nodeSelector := by rw [hl.rest]
  have hselector' : want'.nodeSelector = want.nodeSelector := by rw [hw.rest]
  constructor
  · intro h
    refine ⟨hcontainers.1 h.containers, ?_, ?_, htolerations.1 h.tolerations, hsecrets.1 h.imagePullSecrets,
      hvolumes.1 h.volumes⟩
    · rw [haccount, haccount']
      exact h.serviceAccountName
    · rw [hselector, hselector']
      exact h.nodeSelector
  · intro h
    refine ⟨hcontainers.2 h.containers, ?_, ?_, htolerations.2 h.tolerations, hsecrets.2 h.imagePullSecrets,
      hvolumes.2 h.volumes⟩
    · rw [← haccount, ← haccount']
      exact h.serviceAccountName
    · rw [← hselector, ← hselector']
      exact h.nodeSelector

end PodSpec

/-! ## Deployments -/

/-- The pod is in another order. -/
structure DeploymentSpec.Reordered (s t : DeploymentSpec) : Prop where
  rest : t = { s with template := { s.template with spec := t.template.spec } }
  pod : Option.Rel PodSpec.Reordered s.template.spec t.template.spec

theorem DeploymentSpec.Reordered.refl (s : DeploymentSpec) : s.Reordered s :=
  ⟨rfl, option_rel_refl PodSpec.Reordered.refl _⟩

theorem DeploymentSpec.Reordered.matches_iff {live live' : Option DeploymentSpec} {want want' : DeploymentSpec}
    (hl : Option.Rel DeploymentSpec.Reordered live live') (hw : want.Reordered want') :
    DeploymentSpec.Matches live want ↔ DeploymentSpec.Matches live' want' := by
  have hreplicas : live'.bind (·.replicas) = live.bind (·.replicas) := by
    cases hl with
    | none => rfl
    | some h => rw [h.rest]; rfl
  have hwanted : want'.replicas = want.replicas := by rw [hw.rest]
  have hpod : Option.Rel PodSpec.Reordered (live.bind (·.template.spec)) (live'.bind (·.template.spec)) := by
    cases hl with
    | none => exact .none
    | some h => exact h.pod
  have hpods : (∀ w, want.template.spec = some w → ∃ p, live.bind (·.template.spec) = some p ∧ p.Matches w) ↔
      ∀ w, want'.template.spec = some w → ∃ p, live'.bind (·.template.spec) = some p ∧ p.Matches w :=
    forall_some_iff_of_rel (fun _ _ hww => exists_some_iff_of_rel (fun _ _ hpp => hpp.matches_iff hww) hpod) hw.pod
  constructor
  · intro h
    refine ⟨?_, hpods.1 h.pod⟩
    rw [hreplicas, hwanted]
    exact h.replicas
  · intro h
    refine ⟨?_, hpods.2 h.pod⟩
    rw [← hreplicas, ← hwanted]
    exact h.replicas

/-- The pod is in another order. -/
structure Deployment.Reordered (d e : Deployment) : Prop where
  rest : e = { d with spec := e.spec }
  spec : Option.Rel DeploymentSpec.Reordered d.spec e.spec

theorem Deployment.Reordered.matches_iff {live live' desired desired' : Deployment} (hl : live.Reordered live')
    (hd : desired.Reordered desired') : live.Matches desired ↔ live'.Matches desired' :=
  forall_some_iff_of_rel (fun _ _ hww => DeploymentSpec.Reordered.matches_iff hl.spec hww) hd.spec

/-! ## Services -/

/-- The ports are in another order. -/
structure ServiceSpec.Reordered (s t : ServiceSpec) : Prop where
  rest : t = { s with ports := t.ports }
  ports : SameItems s.ports t.ports

namespace ServiceSpec

variable {live live' : Option ServiceSpec}

theorem Reordered.selector_eq (h : Option.Rel Reordered live live') :
    live'.bind (·.selector) = live.bind (·.selector) := by
  cases h with
  | none => rfl
  | some h => rw [h.rest]; rfl

theorem Reordered.sameItems (h : Option.Rel Reordered live live') :
    SameItems (live.bind (·.ports)) (live'.bind (·.ports)) := by
  cases h with
  | none => exact .refl _
  | some h => exact h.ports

end ServiceSpec

/-- The ports are in another order. -/
structure Service.Reordered (s t : Service) : Prop where
  rest : t = { s with spec := t.spec }
  spec : Option.Rel ServiceSpec.Reordered s.spec t.spec

theorem Service.Reordered.matches_iff {live live' desired desired' : Service} (hl : live.Reordered live')
    (hd : desired.Reordered desired') : live.Matches desired ↔ live'.Matches desired' := by
  have hports := ServiceSpec.Reordered.sameItems hl.spec
  refine forall_some_iff_of_rel (fun want want' hww => ?_) hd.spec
  have hselector : want'.selector = want.selector := by rw [hww.rest]
  rw [ServiceSpec.Reordered.selector_eq hl.spec, hselector]
  exact and_congr_right fun _ => hports.perm_iff hww.ports

/-! ## Accounts, roles and bindings -/

/-- The pull secrets are in another order. -/
structure ServiceAccount.Reordered (a b : ServiceAccount) : Prop where
  rest : b = { a with imagePullSecrets := b.imagePullSecrets }
  imagePullSecrets : SameItems a.imagePullSecrets b.imagePullSecrets

theorem ServiceAccount.Reordered.matches_iff {live live' desired desired' : ServiceAccount}
    (hl : live.Reordered live') (hd : desired.Reordered desired') : live.Matches desired ↔ live'.Matches desired' := by
  have hlive : live'.automountServiceAccountToken = live.automountServiceAccountToken := by rw [hl.rest]
  have hdesired : desired'.automountServiceAccountToken = desired.automountServiceAccountToken := by rw [hd.rest]
  unfold Matches
  rw [hlive, hdesired]
  simp only [hl.imagePullSecrets.mem_iff, hd.imagePullSecrets.mem_iff]

/-- The rules are in another order. -/
structure ClusterRole.Reordered (a b : ClusterRole) : Prop where
  rest : b = { a with rules := b.rules }
  rules : SameItems a.rules b.rules

/-- The subjects are in another order. -/
structure ClusterRoleBinding.Reordered (a b : ClusterRoleBinding) : Prop where
  rest : b = { a with subjects := b.subjects }
  subjects : SameItems a.subjects b.subjects

theorem ClusterRoleBinding.Reordered.matches_iff {live live' desired desired' : ClusterRoleBinding}
    (hl : live.Reordered live') (hd : desired.Reordered desired') : live.Matches desired ↔ live'.Matches desired' := by
  have hlive : live'.roleRef = live.roleRef := by rw [hl.rest]
  have hdesired : desired'.roleRef = desired.roleRef := by rw [hd.rest]
  unfold Matches
  rw [hlive, hdesired]
  exact and_congr_right fun _ => hl.subjects.perm_iff hd.subjects

/-! ## Every kind -/

namespace Kind

/-- The object with its collections in another order: rules, subjects, ports, pull secrets, tolerations and mounts as
they are compared as sets, and containers and volumes as long as their names differ. -/
def Reordered : (k : Kind) → k.Object → k.Object → Prop
  | .serviceAccount, a, b => ServiceAccount.Reordered a b
  | .clusterRole, a, b => ClusterRole.Reordered a b
  | .clusterRoleBinding, a, b => ClusterRoleBinding.Reordered a b
  | .service, a, b => Service.Reordered a b
  | .deployment, a, b => Deployment.Reordered a b
  | _, a, b => a = b

/-- An object that is not reordered. -/
theorem Reordered.refl : ∀ (k : Kind) (o : k.Object), k.Reordered o o
  | .search, _ => rfl
  | .configMap, _ => rfl
  | .serviceAccount, _ => ⟨rfl, .refl _⟩
  | .clusterRole, _ => ⟨rfl, .refl _⟩
  | .clusterRoleBinding, _ => ⟨rfl, .refl _⟩
  | .service, _ => ⟨rfl, option_rel_refl (fun _ => ⟨rfl, .refl _⟩) _⟩
  | .deployment, _ => ⟨rfl, option_rel_refl .refl _⟩
  | .persistentVolumeClaim, _ => rfl
  | .unstructured _, _ => rfl

theorem Reordered.matches_iff : ∀ (k : Kind) {live live' desired desired' : k.Object}, k.Reordered live live' →
    k.Reordered desired desired' → (k.Matches live desired ↔ k.Matches live' desired')
  | .search, _, _, _, _, _, _ => Iff.rfl
  | .configMap, _, _, _, _, rfl, rfl => Iff.rfl
  | .serviceAccount, _, _, _, _, hl, hd => ServiceAccount.Reordered.matches_iff hl hd
  | .clusterRole, _, _, _, _, hl, hd => (ClusterRole.Reordered.rules hl).perm_iff (ClusterRole.Reordered.rules hd)
  | .clusterRoleBinding, _, _, _, _, hl, hd => ClusterRoleBinding.Reordered.matches_iff hl hd
  | .service, _, _, _, _, hl, hd => Service.Reordered.matches_iff hl hd
  | .deployment, _, _, _, _, hl, hd => Deployment.Reordered.matches_iff hl hd
  | .persistentVolumeClaim, _, _, _, _, _, _ => Iff.rfl
  | .unstructured _, _, _, _, _, rfl, rfl => Iff.rfl

end Kind

/-- Collections of subjects, rules, tolerations, ports, mounts and references to secrets are the same set exactly when
they are permutations of each other, absent ones being empty. So whether there is something to amend does not change
when such collections are reordered in the live object, in the desired one or in both, or containers and volumes whose
names differ are. -/
theorem order_never_counts :
    (ComparedAsSets Subject ∧ ComparedAsSets PolicyRule ∧ ComparedAsSets Toleration ∧ ComparedAsSets ServicePort ∧
      ComparedAsSets VolumeMount ∧ ComparedAsSets LocalObjectReference) ∧
    ∀ (k : Kind) (live live' desired desired' : k.Object), k.Reordered live live' → k.Reordered desired desired' →
      (k.amend live desired = none ↔ k.amend live' desired' = none) := by
  refine ⟨⟨comparedAsSets, comparedAsSets, comparedAsSets, comparedAsSets, comparedAsSets, comparedAsSets⟩,
    fun k live live' desired desired' hl hd => ?_⟩
  rw [k.amend_eq_none_iff, k.amend_eq_none_iff]
  exact Kind.Reordered.matches_iff k hl hd

/-- Two containers that mount the same two volumes. -/
def serverAndProxy : Deployment where
  spec := some { template := { spec := some {
    containers := [
      { name := "server", volumeMounts := some [{ name := "certs" }, { name := "data" }] },
      { name := "proxy", volumeMounts := some [{ name := "certs" }, { name := "data" }] }]
    volumes := some [{ name := "certs" }, { name := "data" }] } } }

/-- The same two containers, the proxy first and with its mounts the other way round, as its volumes. -/
def proxyAndServer : Deployment where
  spec := some { template := { spec := some {
    containers := [
      { name := "proxy", volumeMounts := some [{ name := "data" }, { name := "certs" }] },
      { name := "server", volumeMounts := some [{ name := "certs" }, { name := "data" }] }]
    volumes := some [{ name := "data" }, { name := "certs" }] } } }

theorem reordered_proxyAndServer : Kind.deployment.Reordered serverAndProxy proxyAndServer :=
  have hproxy : Container.Reordered { name := "proxy", volumeMounts := some [{ name := "certs" }, { name := "data" }] }
      { name := "proxy", volumeMounts := some [{ name := "data" }, { name := "certs" }] } := ⟨rfl, .swap _ _ _⟩
  ⟨rfl, .some ⟨rfl, .some {
    rest := rfl
    containers := ⟨_, .cons (.refl _) (.cons hproxy .nil), .inr ⟨by decide, .swap _ _ _⟩⟩
    initContainers := .refl _
    tolerations := .refl _
    imagePullSecrets := .refl _
    volumes := .inr ⟨by decide, .swap _ _ _⟩ }⟩⟩

/-- What is deployed agrees with what is desired, whichever container is listed first. -/
theorem order_never_counts_proxyAndServer :
    serverAndProxy ≠ proxyAndServer ∧ Kind.deployment.amend proxyAndServer serverAndProxy = none := by
  have hnames : Kind.deployment.HasDistinctNames serverAndProxy := by
    rintro _ ⟨⟩ _ ⟨⟩
    exact ⟨by decide, by decide⟩
  have hself : Kind.deployment.amend serverAndProxy serverAndProxy = none :=
    (Kind.amend_eq_none_iff _).2 (Kind.matches_self _ hnames)
  exact ⟨by decide, (order_never_counts.2 .deployment _ _ _ _ reordered_proxyAndServer (.refl _ _)).1 hself⟩

end HubSearch
