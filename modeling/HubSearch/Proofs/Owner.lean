/-
What the ownership marks say. Labelled metadata is recognized by its owner, and adopted metadata in the namespace of
the owner refers to it as the controller, so that the object goes with the owner.
-/
import HubSearch.Desired
import HubSearch.Proofs.Dict

namespace HubSearch.Owner

theorem of?_eq_ok {o : Owner} {s : Search} : of? s = .ok o ↔
    s.metadata.name = some o.name ∧ s.metadata.inNamespace = some o.inNamespace ∧ s.metadata.uid = some o.uid := by
  unfold of?
  split
  · rename_i hns
    simp [hns]
  · rename_i ns hns
    split
    · rename_i name uid hname huid
      constructor
      · rintro ⟨⟩
        exact ⟨hname, hns, huid⟩
      · rintro ⟨h1, h2, h3⟩
        cases hname.symm.trans h1
        cases hns.symm.trans h2
        cases huid.symm.trans h3
        rfl
    · rename_i hnone
      constructor
      · rintro ⟨⟩
      · rintro ⟨h1, -, h3⟩
        exact absurd h3 (hnone _ _ h1)

variable (o : Owner) (m : ObjectMeta)

theorem adopt_name : (o.adopt m).name = m.name := by
  unfold adopt
  dsimp only
  split <;> rfl

theorem adopt_inNamespace : (o.adopt m).inNamespace = m.inNamespace := by
  unfold adopt
  dsimp only
  split <;> rfl

theorem adopt_of_ne (h : m.inNamespace ≠ some o.inNamespace) : o.adopt m = o.label m := if_neg h

theorem label?_label {key value : String} (h : (key, value) ∈ o.labels) : (o.label m).label? key = some value := by
  have hn : (o.labels.map (·.1)).Nodup := by
    show [ownerNameLabel, ownerNamespaceLabel, managedByLabel].Nodup
    decide
  show ((m.labels.getD .empty).insertAll o.labels).get? key = _
  rw [Dict.get?_insertAll _ hn, Entries.lookup_of_mem hn h, Option.some_or]

/-- An owner recognizes its labels. -/
theorem owns_label : o.owns (o.label m) = true := by
  have hname : (o.label m).label? ownerNameLabel = some o.name := o.label?_label m (by simp [labels])
  have hnamespace : (o.label m).label? ownerNamespaceLabel = some o.inNamespace := o.label?_label m (by simp [labels])
  rw [owns, hname, hnamespace]
  simp

/-- The object stands in the namespace of the owner and refers to it as its controller. -/
def Controls : Prop :=
  m.inNamespace = some o.inNamespace ∧
    ∃ ref ∈ m.ownerReferences.getD [], ref.controller = some true ∧ ref.uid = o.uid

variable {m} in
/-- An object without references is controlled after its adoption, if it stands beside the owner. -/
theorem controls_adopt (hns : m.inNamespace = some o.inNamespace) (hrefs : m.ownerReferences = none) :
    o.Controls (o.adopt m) := by
  have hadopt : (o.adopt m).ownerReferences = some [o.reference] := by
    have hns' : (o.label m).inNamespace = some o.inNamespace := hns
    have hrefs' : (o.label m).ownerReferences = none := hrefs
    simp [adopt, hns', hrefs']
  refine ⟨(o.adopt_inNamespace m).trans hns, o.reference, ?_, rfl, rfl⟩
  rw [hadopt]
  exact List.mem_singleton.2 rfl

end HubSearch.Owner
