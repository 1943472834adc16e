/-
What it means that a live object agrees with the desired one on the fields that the operator owns, said
for each kind: collections agree as multisets, absent ones are empty, and a field that is not desired does
not count. For the kinds with a schema this is said without the code; for objects without one it is said
with the comparison of their data, and `Unstructured.matches_iff_reordered` says it without. Main
statements, for each kind: there is nothing to amend exactly when the objects agree, and an amended object
agrees.
-/
import HubSearch.Amend.Kind
import HubSearch.Proofs.Amend.SameSet
import HubSearch.Proofs.Dict

namespace HubSearch

/-! ## ConfigMaps -/

namespace ConfigMap

/-- Every desired key has its desired value. -/
def Matches (live desired : ConfigMap) : Prop :=
  ∀ key value, desired.data.bind (·.get? key) = some value → live.data.bind (·.get? key) = some value

theorem changedPairs_eq_nil_iff {live desired : ConfigMap} :
    changedPairs live.data desired.data = [] ↔ live.Matches desired := by
  rw [changedPairs, List.filter_eq_nil_iff]
  cases hd : desired.data with
  | none => simp [Matches, hd, Dict.toList, Dict.empty]
  | some d =>
    constructor
    · intro h key value hv
      rw [hd] at hv
      simpa using h (key, value) (Dict.mem_toList_iff.2 hv)
    · rintro h ⟨key, value⟩ hm
      simpa using h key value (by rw [hd]; exact Dict.mem_toList_iff.1 hm)

theorem amend_eq_none_iff {live desired : ConfigMap} : live.amend desired = none ↔ live.Matches desired := by
  rw [← changedPairs_eq_nil_iff, amend]
  cases changedPairs live.data desired.data <;> simp

theorem get?_insertAll_changedPairs {live desired : Option (Dict String)} {key value : String}
    (hv : desired.bind (·.get? key) = some value) :
    ((live.getD .empty).insertAll (changedPairs live desired)).get? key = some value := by
  obtain ⟨d, rfl, hv⟩ := Option.bind_eq_some_iff.1 hv
  have hg := Entries.lookup_insertAll_filter (live.getD .empty).entries d.ascending.nodup_keys
    (fun e => decide ((live.bind (·.get? e.1)) ≠ some e.2)) (Dict.mem_toList_iff.2 hv)
  refine hg.trans ?_
  split
  · rfl
  · rename_i h
    have hl : live.bind (·.get? key) = some value := by simpa using h
    obtain ⟨l, rfl, hl⟩ := Option.bind_eq_some_iff.1 hl
    exact hl

theorem matches_of_amend {live desired after : ConfigMap} (h : live.amend desired = some after) :
    after.Matches desired := by
  unfold amend at h
  split at h
  · cases h
  · cases h
    exact fun key value hv => get?_insertAll_changedPairs hv

/-- Keys that are not desired stay as they are. -/
theorem get?_amend_of_none {live desired after : ConfigMap} (h : live.amend desired = some after) {key : String}
    (hk : desired.data.bind (·.get? key) = none) : after.data.bind (·.get? key) = live.data.bind (·.get? key) := by
  have hkey : key ∉ (changedPairs live.data desired.data).map (·.1) := by
    intro hm
    obtain ⟨⟨_, value⟩, hpair, rfl⟩ := List.mem_map.1 hm
    cases hd : desired.data with
    | none =>
      rw [hd] at hpair
      cases hpair
    | some d =>
      rw [hd] at hpair hk
      cases hk.symm.trans (Dict.mem_toList_iff.1 (List.mem_filter.1 hpair).1)
  unfold amend at h
  split at h
  · cases h
  · rename_i changed hc
    cases h
    refine (Entries.lookup_insertAll_of_not_mem _ hkey).trans ?_
    cases live.data <;> rfl

theorem metadata_amend {live desired after : ConfigMap} (h : live.amend desired = some after) :
    after.metadata = live.metadata := by
  unfold amend at h
  split at h
  · cases h
  · cases h
    rfl

end ConfigMap

/-! ## Service accounts -/

namespace ServiceAccount

/-- The token setting is as desired, if it is desired, and every desired pull secret is there. -/
def Matches (live desired : ServiceAccount) : Prop :=
  (∀ want, desired.automountServiceAccountToken = some want → live.automountServiceAccountToken = some want) ∧
    ∀ s ∈ desired.imagePullSecrets.getD [], s ∈ live.imagePullSecrets.getD []

theorem amend_eq_none_iff {live desired : ServiceAccount} :
    live.amend desired = none ↔ live.Matches desired := by
  simp only [amend, ite_eq_left_iff, reduceCtorEq, imp_false, Decidable.not_not, Matches]
  refine and_congr ?_ ?_
  · simp [Option.filter_eq_none_iff]
  · simp [List.filter_eq_nil_iff]

theorem matches_of_amend {live desired after : ServiceAccount} (h : live.amend desired = some after) :
    after.Matches desired := by
  simp only [amend] at h
  split at h
  · cases h
  cases h
  constructor
  · intro want hw
    by_cases hl : live.automountServiceAccountToken = some want <;> simp [hw, hl, Option.filter]
  · intro s hs
    by_cases hl : s ∈ live.imagePullSecrets.getD []
    · show s ∈ Option.getD (if _ then _ else _) []
      split
      · exact hl
      · exact List.mem_append_left _ hl
    · have hm : s ∈ (desired.imagePullSecrets.getD []).filter fun s => s ∉ live.imagePullSecrets.getD [] :=
        List.mem_filter.2 ⟨hs, by simpa using hl⟩
      show s ∈ Option.getD (if _ then _ else _) []
      rw [if_neg (List.ne_nil_of_mem hm)]
      exact List.mem_append_right _ hm

theorem metadata_amend {live desired after : ServiceAccount} (h : live.amend desired = some after) :
    after.metadata = live.metadata := by
  simp only [amend] at h
  split at h
  · cases h
  · cases h
    rfl

end ServiceAccount

/-! ## Cluster roles and bindings -/

namespace ClusterRole

/-- The rules are the desired ones, each as often. -/
def Matches (live desired : ClusterRole) : Prop := (live.rules.getD []).Perm (desired.rules.getD [])

theorem amend_eq_none_iff {live desired : ClusterRole} : live.amend desired = none ↔ live.Matches desired := by
  rw [amend, Matches, ← sameSet_iff_perm]
  split <;> simp_all

theorem matches_of_amend {live desired after : ClusterRole} (h : live.amend desired = some after) :
    after.Matches desired := by
  unfold amend at h
  split at h
  · cases h
  · cases h
    exact .refl _

theorem metadata_amend {live desired after : ClusterRole} (h : live.amend desired = some after) :
    after.metadata = live.metadata := by
  unfold amend at h
  split at h
  · cases h
  · cases h
    rfl

end ClusterRole

namespace ClusterRoleBinding

/-- The role is the desired one, and the subjects are, each as often. -/
def Matches (live desired : ClusterRoleBinding) : Prop :=
  live.roleRef = desired.roleRef ∧ (live.subjects.getD []).Perm (desired.subjects.getD [])

theorem amend_eq_none_iff {live desired : ClusterRoleBinding} :
    live.amend desired = none ↔ live.Matches desired := by
  rw [amend, Matches, ← sameSet_iff_perm]
  split <;> simp_all

theorem matches_of_amend {live desired after : ClusterRoleBinding} (h : live.amend desired = some after) :
    after.Matches desired := by
  unfold amend at h
  split at h
  · cases h
  · cases h
    exact ⟨rfl, .refl _⟩

theorem metadata_amend {live desired after : ClusterRoleBinding} (h : live.amend desired = some after) :
    after.metadata = live.metadata := by
  unfold amend at h
  split at h
  · cases h
  · cases h
    rfl

end ClusterRoleBinding

/-! ## Services -/

theorem nonEmpty_getD {α : Type} : ∀ a : Option (Dict α), (nonEmpty a).getD .empty = a.getD .empty
  | none => rfl
  | some ⟨[], _⟩ => rfl
  | some ⟨_ :: _, _⟩ => rfl

theorem nonEmpty_some_getD {α : Type} : ∀ a : Option (Dict α), nonEmpty (some (a.getD .empty)) = nonEmpty a
  | none => rfl
  | some _ => rfl

theorem nonEmpty_eq_iff {α : Type} {a b : Option (Dict α)} :
    nonEmpty a = nonEmpty b ↔ a.getD .empty = b.getD .empty := by
  constructor
  · intro h
    rw [← nonEmpty_getD a, h, nonEmpty_getD]
  · intro h
    rw [← nonEmpty_some_getD a, h, nonEmpty_some_getD]

namespace Service

/-- When a spec is desired, selector and ports are the desired ones. -/
def Matches (live desired : Service) : Prop :=
  ∀ want, desired.spec = some want →
    (live.spec.bind (·.selector)).getD .empty = want.selector.getD .empty ∧
      ((live.spec.bind (·.ports)).getD []).Perm (want.ports.getD [])

theorem amend_eq_none_iff {live desired : Service} : live.amend desired = none ↔ live.Matches desired := by
  unfold amend Matches
  cases desired.spec with
  | none => simp
  | some want => simp [ServiceSpec.agrees, nonEmpty_eq_iff, sameSet_iff_perm]

theorem matches_of_amend {live desired after : Service} (h : live.amend desired = some after) :
    after.Matches desired := by
  unfold amend at h
  split at h
  · cases h
  · rename_i want hd
    split at h
    · cases h
    · cases h
      intro want' hd'
      obtain rfl := Option.some.inj (hd.symm.trans hd')
      exact ⟨rfl, .refl _⟩

theorem metadata_amend {live desired after : Service} (h : live.amend desired = some after) :
    after.metadata = live.metadata := by
  unfold amend at h
  split at h
  · cases h
  · split at h
    · cases h
    · cases h
      rfl

end Service

/-! ## Objects without a schema -/

namespace Unstructured

/-- Every desired field of the data but the status has a live value that differs from the desired one at most
in the order of array elements. -/
def Matches (live desired : Unstructured) : Prop :=
  ∀ key want, key ≠ "status" → (key, want) ∈ desired.data.object?.getD [] →
    ∃ value, (live.data.object?.getD []).lookup key = some value ∧ value.agrees want

/-- The keys of the data differ, as in every object that is read. -/
def HasDistinctKeys (o : Unstructured) : Prop := ((o.data.object?.getD []).map (·.1)).Nodup

/-- Agreement without the comparison, for data whose numbers are integers: what each desired field asks for
comes from the live value by putting the items of arrays, at any depth, into other orders. -/
theorem matches_iff_reordered {live desired : Unstructured} (hl : live.data.Integral) (hd : desired.data.Integral) :
    live.Matches desired ↔
      ∀ key want, key ≠ "status" → (key, want) ∈ desired.data.object?.getD [] →
        ∃ value, (live.data.object?.getD []).lookup key = some value ∧ value.Reordered want := by
  refine forall₄_congr fun key want _ hm => exists_congr fun value => and_congr_right fun hv => ?_
  exact Json.agrees_iff_reordered (hl.of_mem_object (Entries.mem_of_lookup hv)) (hd.of_mem_object hm)

theorem changedFields_eq_nil_iff {live desired : Unstructured} :
    changedFields live.data (desired.data.object?.getD []) = [] ↔ live.Matches desired := by
  rw [changedFields, List.filter_eq_nil_iff]
  constructor
  · intro h key want hk hm
    simpa [hk, Option.any_eq_true] using h (key, want) hm
  · rintro h ⟨key, want⟩ hm
    by_cases hk : key = "status"
    · simp [hk]
    · simpa [hk, Option.any_eq_true] using h key want hk hm

theorem amend_eq (live desired : Unstructured) :
    live.amend desired =
      match changedFields live.data (desired.data.object?.getD []) with
      | [] => none
      | changed =>
        some { live with data := .object (Entries.insertAll (live.data.object?.getD []) changed) } := by
  unfold amend
  cases desired.data <;> rfl

theorem amend_eq_none_iff {live desired : Unstructured} :
    live.amend desired = none ↔ live.Matches desired := by
  rw [← changedFields_eq_nil_iff, amend_eq]
  cases changedFields live.data (desired.data.object?.getD []) <;> simp

theorem matches_of_amend {live desired after : Unstructured} (hk : desired.HasDistinctKeys)
    (h : live.amend desired = some after) : after.Matches desired := by
  rw [amend_eq] at h
  split at h
  · cases h
  · cases h
    intro key want hs hm
    show ∃ value, (Entries.insertAll _ _).lookup key = some value ∧ _
    rw [changedFields, Entries.lookup_insertAll_filter _ hk _ hm]
    split
    · exact ⟨want, rfl, by simp [Json.agrees]⟩
    · rename_i hp
      simpa [hs, Option.any_eq_true] using hp

theorem metadata_amend {live desired after : Unstructured} (h : live.amend desired = some after) :
    after.metadata = live.metadata := by
  rw [amend_eq] at h
  split at h
  · cases h
  · cases h
    rfl

end Unstructured

end HubSearch
