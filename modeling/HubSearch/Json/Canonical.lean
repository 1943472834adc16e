/-
Comparing values without regard to the order of array elements. `canonical` sorts every array, from
the inside out, by the compact text of its elements; two values that differ only in the order of
array elements have the same canonical form. `agrees` compares canonical forms.
-/
import HubSearch.Json.Text

namespace HubSearch

/-- Values sorted by their text; values of equal text keep their order. -/
def sortedByText {α : Type} (text : α → String) (xs : List α) : List α :=
  xs.mergeSort fun a b => decide (text a ≤ text b)

namespace Json

mutual

/-- The value with all its arrays sorted. -/
def canonical : Json → Json
  | .array items => .array (sortedByText Json.text (canonicalItems items))
  | .object fields => .object (canonicalFields fields)
  | .null => .null
  | .bool b => .bool b
  | .number n => .number n
  | .string s => .string s

/-- The items in their order, each with its arrays sorted. -/
def canonicalItems : List Json → List Json
  | [] => []
  | j :: rest => canonical j :: canonicalItems rest

/-- The pairs in their order, each value with its arrays sorted. -/
def canonicalFields : List (String × Json) → List (String × Json)
  | [] => []
  | (key, j) :: rest => (key, canonical j) :: canonicalFields rest

end

/-! ## Comparing -/

mutual

/-- The value without the signs of its zeros. -/
def unsigned : Json → Json
  | .number (.decimal _ 0 e) => .number (.decimal false 0 e)
  | .number n => .number n
  | .array items => .array (unsignedItems items)
  | .object fields => .object (unsignedFields fields)
  | .null => .null
  | .bool b => .bool b
  | .string s => .string s

/-- The items without the signs of their zeros. -/
def unsignedItems : List Json → List Json
  | [] => []
  | j :: rest => unsigned j :: unsignedItems rest

/-- The pairs without the signs of the zeros in their values. -/
def unsignedFields : List (String × Json) → List (String × Json)
  | [] => []
  | (key, j) :: rest => (key, unsigned j) :: unsignedFields rest

end

/-- Whether the canonical forms of two values are equal, a zero being equal to its negative. -/
def agrees (a b : Json) : Bool := a.canonical.unsigned = b.canonical.unsigned

end Json

end HubSearch
