/-
The canonical form of a value is what stays when the order of array elements is forgotten. A step puts the items of
one array of the value, at any depth, into another order; `Json.Reordered` is any number of steps. Sorting the arrays
from the inside out is such a reordering, and no step changes the outcome: the items that are sorted are told apart by
their texts, so nothing hangs on the order in which they came. Main statements: `canonical_eq_iff_reordered`, and
`agrees_iff_reordered` for the comparison, which takes no notice of the signs of zeros either.
-/
import HubSearch.Json.Canonical
import HubSearch.Proofs.Json.Text
import Mathlib.Logic.Relation

namespace HubSearch

/-! ## Sorting by text -/

section

variable {α : Type}

theorem sortedByText_perm (text : α → String) (xs : List α) : (sortedByText text xs).Perm xs :=
  List.mergeSort_perm xs _

theorem pairwise_sortedByText (text : α → String) (xs : List α) :
    (sortedByText text xs).Pairwise fun a b => text a ≤ text b := by
  have trans : ∀ a b c : α, decide (text a ≤ text b) = true → decide (text b ≤ text c) = true →
      decide (text a ≤ text c) = true := by
    intro a b c hab hbc
    rw [decide_eq_true_eq] at hab hbc ⊢
    exact String.le_trans hab hbc
  have total : ∀ a b : α, (decide (text a ≤ text b) || decide (text b ≤ text a)) = true := by
    intro a b
    rw [Bool.or_eq_true, decide_eq_true_eq, decide_eq_true_eq]
    exact String.le_total (text a) (text b)
  exact (List.pairwise_mergeSort trans total xs).imp fun hab => by simpa using hab

/-- Two lists have the same sorted form exactly when they are permutations of each other, if items of one
text are the same. -/
theorem sortedByText_eq_iff_perm {text : α → String} {xs ys : List α}
    (hinj : ∀ a ∈ xs, ∀ b ∈ ys, text a = text b → a = b) :
    sortedByText text xs = sortedByText text ys ↔ xs.Perm ys := by
  constructor
  · intro h
    exact (sortedByText_perm text xs).symm.trans (h ▸ sortedByText_perm text ys)
  · intro h
    have antisymm : ∀ a b, a ∈ sortedByText text xs → b ∈ sortedByText text ys → text a ≤ text b →
        text b ≤ text a → a = b := by
      intro a b ha hb hab hba
      exact hinj a ((sortedByText_perm text xs).mem_iff.1 ha) b ((sortedByText_perm text ys).mem_iff.1 hb)
        (String.le_antisymm hab hba)
    exact List.Perm.eq_of_pairwise antisymm (pairwise_sortedByText text xs) (pairwise_sortedByText text ys)
      ((sortedByText_perm text xs).trans (h.trans (sortedByText_perm text ys).symm))

/-- What is sorted stays as it is. -/
theorem sortedByText_sortedByText (text : α → String) (xs : List α) :
    sortedByText text (sortedByText text xs) = sortedByText text xs :=
  List.mergeSort_of_pairwise ((pairwise_sortedByText text xs).imp fun hab => decide_eq_true hab)

end

namespace Json

/-! ## Other orders of array elements -/

/-- One array of a value, at any depth, has its items in another order, each as often. -/
inductive Shuffle : Json → Json → Prop
  | here {xs ys : List Json} (h : xs.Perm ys) : Shuffle (.array xs) (.array ys)
  | item (before after : List Json) {a b : Json} (h : Shuffle a b) :
    Shuffle (.array (before ++ a :: after)) (.array (before ++ b :: after))
  | field (before after : List (String × Json)) (key : String) {a b : Json} (h : Shuffle a b) :
    Shuffle (.object (before ++ (key, a) :: after)) (.object (before ++ (key, b) :: after))

/-- The second value comes from the first one by putting the items of arrays, at any depth, into other orders. -/
def Reordered : Json → Json → Prop := Relation.ReflTransGen Shuffle

theorem Shuffle.symm {v w : Json} (h : v.Shuffle w) : w.Shuffle v := by
  induction h with
  | here h => exact .here h.symm
  | item before after _ ih => exact .item before after ih
  | field before after key _ ih => exact .field before after key ih

namespace Reordered

variable {u v w : Json}

@[refl]
theorem refl (v : Json) : v.Reordered v := Relation.ReflTransGen.refl

theorem trans (h : u.Reordered v) (h' : v.Reordered w) : u.Reordered w := Relation.ReflTransGen.trans h h'

theorem symm (h : v.Reordered w) : w.Reordered v := by
  induction h with
  | refl => exact .refl _
  | tail _ hstep ih => exact ih.head hstep.symm

theorem of_perm {xs ys : List Json} (h : xs.Perm ys) : Reordered (.array xs) (.array ys) := .single (.here h)

theorem item (before after : List Json) (h : v.Reordered w) :
    Reordered (.array (before ++ v :: after)) (.array (before ++ w :: after)) := by
  induction h with
  | refl => exact .refl _
  | tail _ hstep ih => exact ih.tail (.item before after hstep)

theorem field (before after : List (String × Json)) (key : String) (h : v.Reordered w) :
    Reordered (.object (before ++ (key, v) :: after)) (.object (before ++ (key, w) :: after)) := by
  induction h with
  | refl => exact .refl _
  | tail _ hstep ih => exact ih.tail (.field before after key hstep)

end Reordered

/-! ## Sorting all arrays -/

theorem canonicalItems_eq_map : ∀ items : List Json, canonicalItems items = items.map canonical
  | [] => rfl
  | j :: rest => by rw [canonicalItems, canonicalItems_eq_map rest, List.map_cons]

theorem canonicalFields_eq_map (fields : List (String × Json)) :
    canonicalFields fields = fields.map fun e => (e.1, e.2.canonical) := by
  induction fields with
  | nil => rfl
  | cons e rest ih => rw [canonicalFields, ih, List.map_cons]

mutual

/-- The canonical form is one of the orders of the value. -/
theorem reordered_canonical : ∀ v : Json, v.Reordered v.canonical
  | .null => .refl _
  | .bool _ => .refl _
  | .number _ => .refl _
  | .string _ => .refl _
  | .array items => (reordered_canonicalItems [] items).trans (.of_perm (sortedByText_perm _ _).symm)
  | .object fields => reordered_canonicalFields [] fields

theorem reordered_canonicalItems : ∀ before items : List Json,
    Reordered (.array (before ++ items)) (.array (before ++ canonicalItems items))
  | _, [] => .refl _
  | before, j :: rest => by
    have hrest := reordered_canonicalItems (before ++ [j.canonical]) rest
    rw [List.append_assoc, List.append_assoc] at hrest
    exact (Reordered.item before rest (reordered_canonical j)).trans hrest

theorem reordered_canonicalFields : ∀ before fields : List (String × Json),
    Reordered (.object (before ++ fields)) (.object (before ++ canonicalFields fields))
  | _, [] => .refl _
  | before, (key, j) :: rest => by
    have hrest := reordered_canonicalFields (before ++ [(key, j.canonical)]) rest
    rw [List.append_assoc, List.append_assoc] at hrest
    exact (Reordered.field before rest key (reordered_canonical j)).trans hrest

end

mutual

/-- A canonical form is its own canonical form. -/
theorem canonical_canonical : ∀ v : Json, v.canonical.canonical = v.canonical
  | .null => rfl
  | .bool _ => rfl
  | .number _ => rfl
  | .string _ => rfl
  | .array items => by
    have hsame : (sortedByText text (canonicalItems items)).map canonical = sortedByText text (canonicalItems items) :=
      (List.map_congr_left fun j hj =>
        canonical_of_mem_canonicalItems j ((sortedByText_perm _ _).mem_iff.1 hj)).trans (List.map_id _)
    rw [canonical, canonical, canonicalItems_eq_map, hsame, sortedByText_sortedByText]
  | .object fields => by
    rw [canonical, canonical, canonicalFields_eq_map, List.map_congr_left canonical_of_mem_canonicalFields,
      List.map_id']

theorem canonical_of_mem_canonicalItems : ∀ {items : List Json}, ∀ j ∈ canonicalItems items, j.canonical = j
  | [], _, h => nomatch h
  | j :: rest, k, h => by
    rcases List.mem_cons.1 h with rfl | h
    · exact canonical_canonical j
    · exact canonical_of_mem_canonicalItems k h

theorem canonical_of_mem_canonicalFields : ∀ {fields : List (String × Json)}, ∀ e ∈ canonicalFields fields,
    (e.1, e.2.canonical) = e
  | [], _, h => nomatch h
  | (key, j) :: rest, e, h => by
    rcases List.mem_cons.1 h with rfl | h
    · exact congrArg (key, ·) (canonical_canonical j)
    · exact canonical_of_mem_canonicalFields e h

end

mutual

theorem Integral.canonical : ∀ {v : Json}, v.Integral → v.canonical.Integral
  | .null, _ => trivial
  | .bool _, _ => trivial
  | .number (.int _), _ => trivial
  | .number (.decimal ..), h => h
  | .string _, _ => trivial
  | .array items, h => by
    refine integralItems_iff.2 fun j hj => ?_
    exact integralItems_iff.1 (integralItems_canonical h) j ((sortedByText_perm _ _).mem_iff.1 hj)
  | .object fields, h => integralFields_canonical h

theorem integralItems_canonical : ∀ {items : List Json}, IntegralItems items → IntegralItems (canonicalItems items)
  | [], _ => trivial
  | _ :: _, h => ⟨h.1.canonical, integralItems_canonical h.2⟩

theorem integralFields_canonical : ∀ {fields : List (String × Json)}, IntegralFields fields →
    IntegralFields (canonicalFields fields)
  | [], _ => trivial
  | _ :: _, h => ⟨h.1.canonical, integralFields_canonical h.2⟩

end

/-! ## What no step changes -/

theorem Shuffle.integral {v w : Json} (h : v.Shuffle w) (hv : v.Integral) : w.Integral := by
  induction h with
  | here h => exact integralItems_iff.2 fun j hj => integralItems_iff.1 hv j (h.mem_iff.2 hj)
  | item before after _ ih =>
    simp only [Integral, integralItems_iff, List.forall_mem_append, List.forall_mem_cons] at hv ⊢
    exact ⟨hv.1, ih hv.2.1, hv.2.2⟩
  | field before after key _ ih =>
    simp only [Integral, integralFields_iff, List.forall_mem_append, List.forall_mem_cons] at hv ⊢
    exact ⟨hv.1, ih hv.2.1, hv.2.2⟩

/-- A step does not change the canonical form. -/
theorem Shuffle.canonical_eq {v w : Json} (h : v.Shuffle w) (hv : v.Integral) : v.canonical = w.canonical := by
  induction h with
  | @here xs ys h =>
    have hw : IntegralItems ys := (Shuffle.here h).integral hv
    rw [canonical, canonical]
    refine congrArg Json.array ((sortedByText_eq_iff_perm fun a ha b hb hab => ?_).2 ?_)
    · -- the canonical items have integers only, so their texts tell them apart
      exact text_inj (integralItems_iff.1 (integralItems_canonical hv) a ha)
        (integralItems_iff.1 (integralItems_canonical hw) b hb) hab
    · rw [canonicalItems_eq_map, canonicalItems_eq_map]
      exact h.map _
  | item before after _ ih =>
    simp only [Integral, integralItems_iff, List.forall_mem_append, List.forall_mem_cons] at hv
    simp only [canonical, canonicalItems_eq_map, List.map_append, List.map_cons, ih hv.2.1]
  | field before after key _ ih =>
    simp only [Integral, integralFields_iff, List.forall_mem_append, List.forall_mem_cons] at hv
    simp only [canonical, canonicalFields_eq_map, List.map_append, List.map_cons, ih hv.2.1]

/-- No number of steps does. -/
theorem Reordered.canonical_eq {v w : Json} (h : v.Reordered w) (hv : v.Integral) : v.canonical = w.canonical := by
  have hsteps : v.canonical = w.canonical ∧ w.Integral := by
    induction h with
    | refl => exact ⟨rfl, hv⟩
    | tail _ hstep ih => exact ⟨ih.1.trans (hstep.canonical_eq ih.2), hstep.integral ih.2⟩
  exact hsteps.1

/-! ## The canonical form -/

/-- What has one canonical form is one value in two orders. -/
theorem Reordered.of_canonical_eq {v w : Json} (h : v.canonical = w.canonical) : v.Reordered w :=
  v.reordered_canonical.trans (h ▸ w.reordered_canonical.symm)

theorem Integral.canonical_eq_iff {v w : Json} (hv : v.Integral) : v.canonical = w.canonical ↔ v.Reordered w :=
  ⟨.of_canonical_eq, fun h => h.canonical_eq hv⟩

/-- The canonical form is a reordering of the value, and is its own canonical form. Values whose numbers are integers
have the same canonical form exactly when one comes from the other by putting the items of arrays, at any depth, into
other orders. -/
theorem canonical_eq_iff_reordered (v w : Json) :
    v.Reordered v.canonical ∧ v.canonical.canonical = v.canonical ∧
      (v.Integral → (v.canonical = w.canonical ↔ v.Reordered w)) :=
  ⟨v.reordered_canonical, v.canonical_canonical, fun hv => hv.canonical_eq_iff⟩

/-- Arrays in an array in an object, with equal items and a quote in a text. -/
theorem canonical_eq_iff_reordered_nested :
    let v : Json := .object [("sets", .array [.array [.int 1, .int 20, .int 1], .array [], .string "a\""])]
    let w : Json := .object [("sets", .array [.string "a\"", .array [.int 20, .int 1, .int 1], .array []])]
    v.Integral ∧ v.Reordered w ∧ v.canonical = w.canonical := by
  intro v w
  have hv : v.Integral := by simp [v, Integral, IntegralFields, IntegralItems, int]
  have hinner : Reordered (.array [.int 1, .int 20, .int 1]) (.array [.int 20, .int 1, .int 1]) :=
    .of_perm (.swap _ _ _)
  have houter : Reordered (.array [.array [.int 20, .int 1, .int 1], .array [], .string "a\""])
      (.array [.string "a\"", .array [.int 20, .int 1, .int 1], .array []]) :=
    .of_perm (.symm (.trans (.swap _ _ _) (.cons _ (.swap _ _ _))))
  have h : v.Reordered w := .field [] [] "sets" (.trans (.item [] _ hinner) houter)
  exact ⟨hv, h, ((canonical_eq_iff_reordered v w).2.2 hv).2 h⟩

/-! ## The comparison -/

mutual

/-- Integers have no sign of a zero to take away. -/
theorem Integral.unsigned_eq : ∀ {v : Json}, v.Integral → v.unsigned = v
  | .null, _ => rfl
  | .bool _, _ => rfl
  | .number (.int _), _ => rfl
  | .number (.decimal ..), h => h.elim
  | .string _, _ => rfl
  | .array _, h => congrArg Json.array (unsignedItems_eq h)
  | .object _, h => congrArg Json.object (unsignedFields_eq h)

theorem unsignedItems_eq : ∀ {items : List Json}, IntegralItems items → unsignedItems items = items
  | [], _ => rfl
  | _ :: _, h => by rw [unsignedItems, h.1.unsigned_eq, unsignedItems_eq h.2]

theorem unsignedFields_eq : ∀ {fields : List (String × Json)}, IntegralFields fields → unsignedFields fields = fields
  | [], _ => rfl
  | _ :: _, h => by rw [unsignedFields, h.1.unsigned_eq, unsignedFields_eq h.2]

end

/-- Values whose numbers are integers agree exactly when they differ at most in the order of array elements. -/
theorem agrees_iff_reordered {v w : Json} (hv : v.Integral) (hw : w.Integral) : v.agrees w ↔ v.Reordered w := by
  rw [agrees, decide_eq_true_iff, hv.canonical.unsigned_eq, hw.canonical.unsigned_eq]
  exact hv.canonical_eq_iff

end Json

end HubSearch
