/-
Collections compared without regard to their order. Sorting by the text of the items brings two
collections into the same form exactly when one is a permutation of the other, provided that the text
tells the items apart; `LawfulEncode` is what a type needs for that. Main statement: `sameSet_iff_perm`.
-/
import HubSearch.Amend.Basic
import HubSearch.Object.Deployment
import HubSearch.Object.Rbac
import HubSearch.Object.Service
import HubSearch.Proofs.Json.Canonical

namespace HubSearch

variable {α : Type}

/-! ## Types told apart by their text -/

/-- Types whose values have different written forms, in which every number is an integer. -/
class LawfulEncode (α : Type) [Encode α] : Prop where
  integral : ∀ a : α, (encode a).Integral
  injective : Function.Injective (encode : α → Json)

theorem text_encode_injective [Encode α] [LawfulEncode α] {a b : α} (h : (encode a).text = (encode b).text) :
    a = b :=
  LawfulEncode.injective (Json.text_inj (LawfulEncode.integral a) (LawfulEncode.integral b) h)

/-- Two collections are the same set exactly when they hold the same items, each as often; an absent one
is empty. -/
theorem sameSet_iff_perm [Encode α] [DecidableEq α] [LawfulEncode α] (a b : Option (List α)) :
    sameSet a b = true ↔ (a.getD []).Perm (b.getD []) := by
  unfold sameSet normalized
  rw [decide_eq_true_iff]
  exact sortedByText_eq_iff_perm fun _ _ _ _ => text_encode_injective

/-! ### Scalars and containers -/

instance : LawfulEncode String := ⟨fun _ => trivial, fun _ _ h => Json.string.inj h⟩

instance : LawfulEncode Bool := ⟨fun _ => trivial, fun _ _ h => Json.bool.inj h⟩

instance : LawfulEncode Int32 where
  integral _ := trivial
  injective _ _ h := Int32.toInt_inj.1 (JsonNumber.int.inj (Json.number.inj h))

instance : LawfulEncode Int64 where
  integral _ := trivial
  injective _ _ h := Int64.toInt_inj.1 (JsonNumber.int.inj (Json.number.inj h))

instance [Encode α] [LawfulEncode α] : LawfulEncode (List α) where
  integral xs := by
    refine Json.integralItems_iff.2 fun j hj => ?_
    obtain ⟨a, -, rfl⟩ := List.mem_map.1 hj
    exact LawfulEncode.integral a
  injective _ _ h := (List.map_inj_right fun _ _ hab => LawfulEncode.injective hab).1 (Json.array.inj h)

/-! ### Records -/

/-- The fields of a record can be read off it, when their keys differ. -/
theorem record_inj : ∀ {fs gs : List (String × Option Json)}, Json.record fs = Json.record gs →
    fs.map (·.1) = gs.map (·.1) → (fs.map (·.1)).Nodup → fs = gs
  | [], [], _, _, _ => rfl
  | [], _ :: _, _, hk, _ => by simp at hk
  | _ :: _, [], _, hk, _ => by simp at hk
  | (k, a) :: fs, (l, b) :: gs, h, hk, hn => by
    simp only [List.map_cons, List.cons.injEq] at hk
    obtain ⟨rfl, hk⟩ := hk
    rw [List.map_cons, List.nodup_cons] at hn
    -- a field that is left out here cannot be written later
    have later : ∀ {hs : List (String × Option Json)}, hs.map (·.1) = fs.map (·.1) → ∀ v rest,
        hs.filterMap (fun f => f.2.map (f.1, ·)) ≠ (k, v) :: rest := by
      intro hs hks v rest he
      have hm : (k, v) ∈ hs.filterMap fun f => f.2.map (f.1, ·) := by rw [he]; exact List.mem_cons_self
      obtain ⟨f, hf, hfk⟩ := List.mem_filterMap.1 hm
      obtain ⟨w, -, hw⟩ := Option.map_eq_some_iff.1 hfk
      refine hn.1 ?_
      rw [← hks, ← (Prod.mk.inj hw).1]
      exact List.mem_map.2 ⟨f, hf, rfl⟩
    have h' := Json.object.inj h
    cases a with
    | none =>
      cases b with
      | none =>
        have hr : Json.record fs = Json.record gs := by simpa [Json.record] using h'
        rw [record_inj hr hk hn.2]
      | some b => exact absurd (by simpa using h') (later rfl b _)
    | some a =>
      cases b with
      | none => exact absurd (by simpa using h'.symm) (later hk.symm a _)
      | some b =>
        simp only [List.filterMap_cons, Option.map_some, List.cons.injEq, Prod.mk.injEq, true_and] at h'
        rw [h'.1, record_inj (congrArg Json.object h'.2) hk hn.2]

/-- Every number in the value of a field is an integer. -/
def Json.IntegralField (o : Option Json) : Prop := ∀ j, o = some j → j.Integral

theorem integral_record {fs : List (String × Option Json)} (h : ∀ f ∈ fs, Json.IntegralField f.2) :
    (Json.record fs).Integral := by
  refine Json.integralFields_iff.2 fun e he => ?_
  obtain ⟨f, hf, hfe⟩ := List.mem_filterMap.1 he
  obtain ⟨j, hj, rfl⟩ := Option.map_eq_some_iff.1 hfe
  exact h f hf j hj

section

variable [Encode α] [LawfulEncode α]

@[simp]
theorem integralField_always (a : α) : Json.IntegralField (always a) := by
  rintro j ⟨⟩
  exact LawfulEncode.integral a

@[simp]
theorem integralField_whenSome (a : Option α) : Json.IntegralField (whenSome a) := by
  intro j h
  obtain ⟨a, -, rfl⟩ := Option.map_eq_some_iff.1 h
  exact LawfulEncode.integral a

@[simp]
theorem always_inj {a b : α} : always a = always b ↔ a = b :=
  ⟨fun h => LawfulEncode.injective (Option.some.inj h), fun h => h ▸ rfl⟩

@[simp]
theorem whenSome_inj {a b : Option α} : whenSome a = whenSome b ↔ a = b :=
  ⟨fun h => Option.map_injective LawfulEncode.injective h, fun h => h ▸ rfl⟩

end

instance : LawfulEncode LocalObjectReference where
  integral _ := integral_record (by simp)
  injective a b h := by
    have h := record_inj h rfl (by simp)
    cases a; cases b; simpa using h

instance : LawfulEncode Subject where
  integral _ := integral_record (by simp)
  injective a b h := by
    have h := record_inj h rfl (by simp)
    cases a; cases b; simp_all

instance : LawfulEncode PolicyRule where
  integral _ := integral_record (by simp)
  injective a b h := by
    have h := record_inj h rfl (by simp)
    cases a; cases b; simp_all

instance : LawfulEncode Toleration where
  integral _ := integral_record (by simp)
  injective a b h := by
    have h := record_inj h rfl (by simp)
    cases a; cases b; simp_all

instance : LawfulEncode VolumeMount where
  integral _ := integral_record (by simp)
  injective a b h := by
    have h := record_inj h rfl (by simp)
    cases a; cases b; simp_all

instance : LawfulEncode PortTarget where
  integral
    | .number _ => trivial
    | .name _ => trivial
  injective
    | .number _, .number _, h => congrArg PortTarget.number (LawfulEncode.injective h)
    | .name _, .name _, h => congrArg PortTarget.name (LawfulEncode.injective h)
    | .number _, .name _, h => Json.noConfusion h
    | .name _, .number _, h => Json.noConfusion h

instance : LawfulEncode ServicePort where
  integral _ := integral_record (by simp)
  injective a b h := by
    have h := record_inj h rfl (by simp)
    cases a; cases b; simp_all

end HubSearch
