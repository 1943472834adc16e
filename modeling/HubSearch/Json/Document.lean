/-
Typed reads from schema-less documents. A read walks down a path of keys; it fails with the part of
the path that is missing, or with the part whose value has the wrong type.
-/
import HubSearch.Json.Basic

namespace HubSearch

/-- The types that a read can ask for. -/
inductive FieldType where
  | object
  | string
  | boolean
  | array
  /-- Any other type, by its word. -/
  | named (word : String)
  deriving DecidableEq, Inhabited

namespace FieldType

/-- The word for a type. -/
def word : FieldType → String
  | .object => "object"
  | .string => "string"
  | .boolean => "boolean"
  | .array => "array"
  | .named word => word

/-- The type that a word stands for. -/
def ofWord (word : String) : FieldType :=
  ([.object, .string, .boolean, .array].find? fun s => s.word = word).getD (.named word)

theorem word_ofWord (word : String) : (ofWord word).word = word := by
  unfold ofWord
  cases h : [object, string, boolean, array].find? fun s => s.word = word with
  | none => rfl
  | some s => simpa using List.find?_some h

end FieldType

/-- Why a read failed. -/
inductive FieldError where
  /-- No value, or `null`, at the path. -/
  | missing (path : List String)
  /-- The value at the path has another type. -/
  | wrongType (path : List String) (expected : FieldType)
  deriving DecidableEq

namespace FieldError

/-- A path as text; the empty path is a point. -/
def pathText : List String → String
  | [] => "."
  | path => ".".intercalate path

/-- The wording of a failure. -/
def message : FieldError → String
  | .missing path => "field `" ++ pathText path ++ "` is missing"
  | .wrongType path expected => "field `" ++ pathText path ++ "` is not a " ++ expected.word

end FieldError

namespace Json

/-- The value at a path below `here`, the path that has been walked already. -/
def lookupFrom (here : List String) (j : Json) : List String → Except FieldError Json
  | [] => .ok j
  | key :: rest =>
    let next : Except FieldError Json :=
      match j with
      | .object fields => .ok ((fields.lookup key).getD .null)
      | .null => .ok .null
      | _ => .error (.wrongType here .object)
    match next with
    | .error e => .error e
    | .ok .null => .error (.missing (here ++ [key]))
    | .ok value => lookupFrom (here ++ [key]) value rest

/-- The value at a path. -/
def lookup (j : Json) (path : List String) : Except FieldError Json := j.lookupFrom [] path

/-- A value of the type asked for. -/
def typed {α : Type} (view : Json → Option α) (type : FieldType) (j : Json) (path : List String) :
    Except FieldError α := do
  let value ← j.lookup path
  match view value with
  | some a => .ok a
  | none => .error (.wrongType path type)

/-- The text at a path. -/
def stringAt (j : Json) (path : List String) : Except FieldError String := typed string? .string j path

/-- The truth value at a path. -/
def boolAt (j : Json) (path : List String) : Except FieldError Bool := typed bool? .boolean j path

/-- The items of the array at a path. -/
def arrayAt (j : Json) (path : List String) : Except FieldError (List Json) := typed array? .array j path

end Json

/-- A read in which a missing value is no failure. -/
def FieldError.optional {α : Type} : Except FieldError α → Except FieldError (Option α)
  | .ok a => .ok (some a)
  | .error (.missing _) => .ok none
  | .error e => .error e

end HubSearch
