/-
Shapes: what may stand in a JSON text where a value of a type is read. A text is read by a shape; only the
parts of the shape are kept.
-/

namespace HubSearch

/-- Whether a field of a record may be left out. -/
inductive Presence where
  | free
  /-- It may be left out of an object, but not of a list. -/
  | neededInLists
  | needed
  deriving DecidableEq, Inhabited

/-- What may stand in a text. A shape that has a name for messages is told by it when something else
stands there. -/
inductive Shape where
  /-- Any value. -/
  | any
  | bool
  | string
  /-- An integer from `least` to `most`. -/
  | integer (name : String) (least most : Int)
  /-- A string in which nothing is wrong. -/
  | stringOf (name : String) (wrong? : String → Option String)
  /-- A string or an integer of 32 bits. -/
  | integerOrString (name : String)
  /-- One of some words, which may also be the key of an object that holds nothing else than `null`. -/
  | word (known : List String)
  /-- A shape or `null`. -/
  | optional (shape : Shape)
  | list (item : Shape)
  | dict (value : Shape)
  /-- In a record: this string, or else the whole record is refused. -/
  | exactly (value : String)
  /-- An object. The last value of a field counts. -/
  | record (name : String) (fields : List (String × Presence × Shape))
  /-- An object in which no field comes again, or the list of its values. -/
  | strictRecord (name : String) (fields : List (String × Presence × Shape))
  /-- An object in which none of the fields comes again, with any other values beside them. -/
  | openRecord (name : String) (fields : List (String × Presence × Shape))

instance : Inhabited Shape := ⟨.any⟩

namespace Shape

/-- The integers of 16 bits without a sign. -/
def uint16 : Shape := .integer "u16" 0 65535

/-- The integers of 32 bits without a sign. -/
def uint32 : Shape := .integer "u32" 0 4294967295

/-- The integers of 32 bits. -/
def int32 : Shape := .integer "i32" Int32.minValue.toInt Int32.maxValue.toInt

/-- The integers of 64 bits. -/
def int64 : Shape := .integer "i64" Int64.minValue.toInt Int64.maxValue.toInt

end Shape

end HubSearch
