/-
Agreement of deployments. Containers and volumes are found by name, so the desired ones are placed one
after the other into lists in which they can be found afterwards, provided that their names differ:
`find?_foldl_place`. Main statements: there is nothing to amend in a deployment exactly when it agrees with
the desired one, and an amended one agrees.
-/
import HubSearch.Proofs.Amend.Match

namespace HubSearch

/-! ## Placing by name -/

section

variable {α : Type} {nameOf : α → String} {place : α → List α → List α} {fits : α → α → Prop}

theorem find?_foldl_place_of_not_mem
    (hother : ∀ w xs n, n ≠ nameOf w → (place w xs).find? (nameOf · = n) = xs.find? (nameOf · = n)) {n : String} :
    ∀ {ws : List α} (xs : List α), n ∉ ws.map nameOf →
      (ws.foldl (fun xs w => place w xs) xs).find? (nameOf · = n) = xs.find? (nameOf · = n)
  | [], _, _ => rfl
  | w :: ws, xs, h => by
    rw [List.map_cons, List.mem_cons, not_or] at h
    rw [List.foldl_cons, find?_foldl_place_of_not_mem hother _ h.2, hother w xs n h.1]

/-- When each item can be found once it is placed, and is not disturbed by items of other names, all of a
list with different names can be found after they were placed. -/
theorem find?_foldl_place
    (hself : ∀ w xs, ∃ a, (place w xs).find? (nameOf · = nameOf w) = some a ∧ fits a w)
    (hother : ∀ w xs n, n ≠ nameOf w → (place w xs).find? (nameOf · = n) = xs.find? (nameOf · = n)) :
    ∀ {ws : List α} (xs : List α), (ws.map nameOf).Nodup →
      ∀ w ∈ ws, ∃ a, (ws.foldl (fun xs w => place w xs) xs).find? (nameOf · = nameOf w) = some a ∧ fits a w
  | v :: ws, xs, hn, w, hw => by
    rw [List.map_cons, List.nodup_cons] at hn
    rw [List.foldl_cons]
    rcases List.mem_cons.1 hw with rfl | hw
    · rw [find?_foldl_place_of_not_mem hother _ hn.1]
      exact hself w xs
    · exact find?_foldl_place hself hother _ hn.2 w hw

theorem find?_of_mem : ∀ {xs : List α} {x : α}, (xs.map nameOf).Nodup → x ∈ xs →
    xs.find? (nameOf · = nameOf x) = some x
  | y :: ys, x, hn, hx => by
    rw [List.map_cons, List.nodup_cons] at hn
    rcases List.mem_cons.1 hx with rfl | hx
    · simp
    · have hne : nameOf y ≠ nameOf x := fun h => hn.1 (h ▸ List.mem_map_of_mem hx)
      rw [List.find?_cons, decide_eq_false hne]
      exact find?_of_mem hn.2 hx

end

/-! ## Containers -/

namespace Container

/-- The container agrees with the desired one of its name: command, arguments, environment and mounts that are
absent are empty, and the pull policy counts when it is desired. -/
structure Matches (live want : Container) : Prop where
  image : live.image = want.image
  imagePullPolicy : ∀ p, want.imagePullPolicy = some p → live.imagePullPolicy = some p
  command : live.command.getD [] = want.command.getD []
  args : live.args.getD [] = want.args.getD []
  env : live.env.getD [] = want.env.getD []
  resources : live.resources = want.resources
  volumeMounts : (live.volumeMounts.getD []).Perm (want.volumeMounts.getD [])

theorem agrees_iff {live want : Container} : live.agrees want = true ↔ live.Matches want := by
  simp only [agrees, Bool.and_eq_true, decide_eq_true_eq, Option.all_eq_true, sameSet_iff_perm]
  constructor
  · rintro ⟨⟨⟨⟨⟨⟨himage, hpolicy⟩, hcommand⟩, hargs⟩, henv⟩, hresources⟩, hmounts⟩
    exact ⟨himage, hpolicy, hcommand, hargs, henv, hresources, hmounts⟩
  · rintro ⟨himage, hpolicy, hcommand, hargs, henv, hresources, hmounts⟩
    exact ⟨⟨⟨⟨⟨⟨himage, hpolicy⟩, hcommand⟩, hargs⟩, henv⟩, hresources⟩, hmounts⟩

theorem matches_self (want : Container) : want.Matches want :=
  ⟨rfl, fun _ h => h, rfl, rfl, rfl, rfl, .refl _⟩

theorem matches_amended (live want : Container) : (live.amended want).Matches want :=
  ⟨rfl, fun p h => by simp [amended, h], rfl, rfl, rfl, rfl, .refl _⟩

theorem find?_place_self (want : Container) :
    ∀ cs, ∃ c, (want.place cs).find? (·.name = want.name) = some c ∧ c.Matches want
  | [] => ⟨want, by simp [place], matches_self want⟩
  | c :: rest => by
    by_cases hc : c.name = want.name
    · exact ⟨c.amended want, by simp [place, hc, amended], matches_amended c want⟩
    · obtain ⟨d, hd, hm⟩ := find?_place_self want rest
      exact ⟨d, by simp [place, hc, hd], hm⟩

theorem find?_place_of_ne (want : Container) :
    ∀ cs n, n ≠ want.name → (want.place cs).find? (·.name = n) = cs.find? (·.name = n)
  | [], n, hn => by simp [place, hn.symm]
  | c :: rest, n, hn => by
    by_cases hc : c.name = want.name
    · simp [place, hc, amended, hn.symm]
    · simp [place, hc, List.find?_cons, find?_place_of_ne want rest n hn]

end Container

/-! ## Volumes -/

namespace Volume

theorem find?_place_self (want : Volume) :
    ∀ vs, ∃ v, (want.place vs).find? (·.name = want.name) = some v ∧ v = want
  | [] => ⟨want, by simp [place], rfl⟩
  | v :: rest => by
    by_cases hv : v.name = want.name
    · exact ⟨want, by simp [place, hv], rfl⟩
    · obtain ⟨u, hu, rfl⟩ := find?_place_self want rest
      exact ⟨u, by simp [place, hv, hu], rfl⟩

theorem find?_place_of_ne (want : Volume) :
    ∀ vs n, n ≠ want.name → (want.place vs).find? (·.name = n) = vs.find? (·.name = n)
  | [], n, hn => by simp [place, hn.symm]
  | v :: rest, n, hn => by
    by_cases hv : v.name = want.name
    · simp [place, hv, hn.symm]
    · simp [place, hv, List.find?_cons, find?_place_of_ne want rest n hn]

end Volume

/-! ## Pods -/

namespace PodSpec

/-- The first live container and volume of each desired name agree with the desired ones, and so does what
is owned of the pod as a whole. -/
structure Matches (live want : PodSpec) : Prop where
  containers : ∀ w ∈ want.containers, ∃ c, live.containers.find? (·.name = w.name) = some c ∧ c.Matches w
  serviceAccountName : ∀ n, want.serviceAccountName = some n → live.serviceAccountName = some n
  nodeSelector : live.nodeSelector.getD .empty = want.nodeSelector.getD .empty
  tolerations : (live.tolerations.getD []).Perm (want.tolerations.getD [])
  imagePullSecrets : (live.imagePullSecrets.getD []).Perm (want.imagePullSecrets.getD [])
  volumes : ∀ w ∈ want.volumes.getD [], (live.volumes.getD []).find? (·.name = w.name) = some w

/-- Container names differ, and volume names differ. -/
structure HasDistinctNames (p : PodSpec) : Prop where
  containers : (p.containers.map (·.name)).Nodup
  volumes : ((p.volumes.getD []).map (·.name)).Nodup

theorem agrees_iff {live want : PodSpec} : live.agrees want = true ↔ live.Matches want := by
  simp only [agrees, Bool.and_eq_true, List.all_eq_true, decide_eq_true_eq, Option.all_eq_true, Option.any_eq_true,
    Container.agrees_iff, nonEmpty_eq_iff, sameSet_iff_perm]
  constructor
  · rintro ⟨⟨⟨⟨⟨hcontainers, haccount⟩, hselector⟩, htolerations⟩, hsecrets⟩, hvolumes⟩
    exact ⟨hcontainers, haccount, hselector, htolerations, hsecrets, hvolumes⟩
  · rintro ⟨hcontainers, haccount, hselector, htolerations, hsecrets, hvolumes⟩
    exact ⟨⟨⟨⟨⟨hcontainers, haccount⟩, hselector⟩, htolerations⟩, hsecrets⟩, hvolumes⟩

theorem matches_amended (live : PodSpec) {want : PodSpec} (hn : want.HasDistinctNames) :
    (live.amended want).Matches want where
  containers := find?_foldl_place Container.find?_place_self Container.find?_place_of_ne _ hn.containers
  serviceAccountName n h := by simp [amended, h]
  nodeSelector := rfl
  tolerations := .refl _
  imagePullSecrets := .refl _
  volumes w hw := by
    obtain ⟨v, hv, rfl⟩ := find?_foldl_place Volume.find?_place_self Volume.find?_place_of_ne
      (live.volumes.getD []) hn.volumes w hw
    unfold amended
    split
    · rename_i h
      rw [h] at hw
      cases hw
    · exact hv

theorem matches_self {p : PodSpec} (hn : p.HasDistinctNames) : p.Matches p where
  containers w hw := ⟨w, find?_of_mem hn.containers hw, Container.matches_self w⟩
  serviceAccountName _ h := h
  nodeSelector := rfl
  tolerations := .refl _
  imagePullSecrets := .refl _
  volumes _ hw := find?_of_mem hn.volumes hw

end PodSpec

/-! ## Deployments -/

theorem filter_eq_none_or_self {α : Type} (o : Option α) (p : α → Bool) : o.filter p = none ∨ o.filter p = o := by
  cases o with
  | none => exact .inl rfl
  | some a => by_cases h : p a = true <;> simp [h]

namespace DeploymentSpec

/-- Replicas count when they are desired, and the pod does when one is desired. -/
structure Matches (live : Option DeploymentSpec) (want : DeploymentSpec) : Prop where
  replicas : ∀ r, want.replicas = some r → live.bind (·.replicas) = some r
  pod : ∀ w, want.template.spec = some w → ∃ p, live.bind (·.template.spec) = some p ∧ p.Matches w

theorem changedReplicas_eq_none_iff {live : Option DeploymentSpec} {want : DeploymentSpec} :
    want.changedReplicas live = none ↔ ∀ r, want.replicas = some r → live.bind (·.replicas) = some r := by
  simp [changedReplicas, Option.filter_eq_none_iff]

theorem changedPod_eq_none_iff {live : Option DeploymentSpec} {want : DeploymentSpec} :
    want.changedPod live = none ↔
      ∀ w, want.template.spec = some w → ∃ p, live.bind (·.template.spec) = some p ∧ p.Matches w := by
  simp only [changedPod, Option.filter_eq_none_iff, Bool.not_eq_true, Bool.not_eq_false', Option.any_eq_true,
    PodSpec.agrees_iff]

end DeploymentSpec

namespace Deployment

/-- When a spec is desired, replicas and pod agree with it. -/
def Matches (live desired : Deployment) : Prop :=
  ∀ want, desired.spec = some want → DeploymentSpec.Matches live.spec want

/-- Names of containers differ in the pod, and so do names of volumes. -/
def HasDistinctNames (d : Deployment) : Prop :=
  ∀ want, d.spec = some want → ∀ pod, want.template.spec = some pod → pod.HasDistinctNames

theorem amend_eq_none_iff {live desired : Deployment} : live.amend desired = none ↔ live.Matches desired := by
  unfold amend Matches
  cases desired.spec with
  | none => simp
  | some want =>
    simp only [ite_eq_left_iff, reduceCtorEq, imp_false, Decidable.not_not]
    rw [DeploymentSpec.changedReplicas_eq_none_iff, DeploymentSpec.changedPod_eq_none_iff]
    constructor
    · rintro ⟨hr, hp⟩ _ ⟨⟩
      exact ⟨hr, hp⟩
    · intro h
      exact ⟨(h want rfl).replicas, (h want rfl).pod⟩

theorem matches_of_amend {live desired after : Deployment} (hn : desired.HasDistinctNames)
    (h : live.amend desired = some after) : after.Matches desired := by
  intro want hw
  simp only [amend, hw] at h
  split at h
  · cases h
  cases h
  -- a part that differed was taken over as a whole, and one that was left alone had agreed
  constructor
  · intro r hr
    rcases filter_eq_none_or_self want.replicas _ with hc | hc
    · obtain ⟨spec, hs, hl⟩ := Option.bind_eq_some_iff.1 (DeploymentSpec.changedReplicas_eq_none_iff.1 hc r hr)
      show Option.or (want.replicas.filter _) _ = some r
      rw [hc, hs]
      exact hl
    · show Option.or (want.replicas.filter _) _ = some r
      rw [hc, hr]
      rfl
  · intro w hp
    have hpod : want.changedPod live.spec = none ∨ want.changedPod live.spec = want.template.spec :=
      filter_eq_none_or_self _ _
    rcases hpod with hc | hc
    · obtain ⟨p, hlp, hm⟩ := DeploymentSpec.changedPod_eq_none_iff.1 hc w hp
      obtain ⟨spec, hs, hlp⟩ := Option.bind_eq_some_iff.1 hlp
      refine ⟨p, ?_, hm⟩
      rw [hs] at hc
      simp only [hs, hc]
      exact hlp
    · refine ⟨_, ?_, PodSpec.matches_amended ((live.spec.getD {}).template.spec.getD {}) (hn want hw w hp)⟩
      simp only [hc, hp]
      rfl

theorem matches_self {d : Deployment} (hn : d.HasDistinctNames) : d.Matches d := by
  intro want hw
  rw [hw]
  exact ⟨fun _ h => h, fun p hp => ⟨p, hp, PodSpec.matches_self (hn want hw p hp)⟩⟩

theorem metadata_amend {live desired after : Deployment} (h : live.amend desired = some after) :
    after.metadata = live.metadata := by
  unfold amend at h
  split at h
  · cases h
  · simp only at h
    split at h
    · cases h
    · cases h
      rfl

end Deployment

end HubSearch
