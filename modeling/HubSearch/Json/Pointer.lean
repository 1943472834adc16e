/-
JSON pointers: a slash before each step, `~1` for a slash and `~0` for a tilde inside a step. A
step into an array is a decimal index without sign or leading zeros.
-/
import HubSearch.Json.Basic

namespace HubSearch.Json

/-- A step with its escapes undone. -/
def unescapeStep : List Char → List Char
  | '~' :: '1' :: rest => '/' :: unescapeStep rest
  | '~' :: '0' :: rest => '~' :: unescapeStep rest
  | c :: rest => c :: unescapeStep rest
  | [] => []

/-- The steps of a text whose first slash has been taken off. -/
def pointerSteps : List Char → List (List Char)
  | [] => [[]]
  | '/' :: rest => [] :: pointerSteps rest
  | c :: rest =>
    match pointerSteps rest with
    | [] => [[c]]
    | step :: steps => (c :: step) :: steps

/-- The index that a step writes. -/
def arrayIndex? (step : List Char) : Option Nat :=
  if step.all Char.isDigit ∧ step ≠ [] ∧ (step.head? = some '0' → step = ['0']) then
    some (step.foldl (fun n d => n * 10 + (d.toNat - '0'.toNat)) 0)
  else none

/-- The value one step below another. -/
def child? (j : Json) (step : List Char) : Option Json :=
  match j with
  | .object fields => fields.lookup (String.ofList step)
  | .array items => (arrayIndex? step).bind fun i => items[i]?
  | _ => none

/-- The value that a pointer names; the empty pointer names the whole value. -/
def pointer? (j : Json) (pointer : String) : Option Json :=
  match pointer.toList with
  | [] => some j
  | '/' :: rest => ((pointerSteps rest).map unescapeStep).foldlM child? j
  | _ => none

end HubSearch.Json
