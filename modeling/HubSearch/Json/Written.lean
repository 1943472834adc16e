/-
JSON values as a text writes them: the pairs of an object stand in the order of the text, and a key may come
again.
-/
import HubSearch.Json.Basic

namespace HubSearch

/-- A JSON value as it is written. -/
inductive WrittenJson where
  | null
  | bool (value : Bool)
  | number (value : JsonNumber)
  | string (value : String)
  | array (items : List WrittenJson)
  | object (fields : List (String × WrittenJson))
  deriving Inhabited

namespace WrittenJson

/-! ## Values -/

mutual

/-- A value as it is written. -/
def ofJson : Json → WrittenJson
  | .null => .null
  | .bool b => .bool b
  | .number n => .number n
  | .string s => .string s
  | .array items => .array (ofItems items)
  | .object fields => .object (ofFields fields)

/-- The items as they are written. -/
def ofItems : List Json → List WrittenJson
  | [] => []
  | j :: rest => ofJson j :: ofItems rest

/-- The pairs as they are written. -/
def ofFields : List (String × Json) → List (String × WrittenJson)
  | [] => []
  | (key, j) :: rest => (key, ofJson j) :: ofFields rest

end

mutual

/-- The value that is written. The last value of a key counts. -/
def json : WrittenJson → Json
  | .null => .null
  | .bool b => .bool b
  | .number n => .number n
  | .string s => .string s
  | .array items => .array (itemsJson items)
  | .object fields => .object (Entries.insertAll [] (fieldsJson fields))

/-- The items that are written. -/
def itemsJson : List WrittenJson → List Json
  | [] => []
  | w :: rest => json w :: itemsJson rest

/-- The pairs that are written. -/
def fieldsJson : List (String × WrittenJson) → List (String × Json)
  | [] => []
  | (key, w) :: rest => (key, json w) :: fieldsJson rest

end

/-! ## Taking apart -/

/-- The pairs of an object. -/
def object? : WrittenJson → Option (List (String × WrittenJson))
  | .object fields => some fields
  | _ => none

/-- The items of an array. -/
def array? : WrittenJson → Option (List WrittenJson)
  | .array items => some items
  | _ => none

/-- The text of a string. -/
def string? : WrittenJson → Option String
  | .string s => some s
  | _ => none

/-- The truth value of a boolean. -/
def bool? : WrittenJson → Option Bool
  | .bool b => some b
  | _ => none

/-- The value of an integer. -/
def int? : WrittenJson → Option Int
  | .number (.int i) => some i
  | _ => none

/-- Whether it is an object. -/
def isObject (w : WrittenJson) : Bool := w.object?.isSome

/-- The values under a key, in their order. -/
def values (w : WrittenJson) (key : String) : List WrittenJson :=
  ((w.object?.getD []).filter fun e => e.1 = key).map (·.2)

end WrittenJson

end HubSearch
