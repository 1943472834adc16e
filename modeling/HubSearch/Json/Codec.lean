/-
Writing values of the library as JSON and reading them back. `Encode` writes. `Decode` says which shape a
text must have to be read, and reads what is written, or fails on another shape. In a record a field that is
absent reads like `null`, unless the field says otherwise; of a field that comes again the last value counts,
but each must have the shape.
-/
import HubSearch.Json.Reader

namespace HubSearch

/-- Types with a written form. -/
class Encode (α : Type) where
  encode : α → Json

/-- Types that can be read. -/
class Decode (α : Type) where
  shape : Shape
  decode? : WrittenJson → Option α

export Encode (encode)
export Decode (decode?)

/-- The shape of a type. -/
def shapeOf (α : Type) [Decode α] : Shape := Decode.shape α

/-- Read a value. -/
def Json.as? (j : Json) (α : Type) [Decode α] : Option α := decode? (.ofJson j)

/-- Read what a text of a shape writes. -/
def Shape.readAs {α : Type} (s : Shape) (view : WrittenJson → Option α) (text : String) :
    Except ReadFault α := do
  match view (← s.read text) with
  | some a => pure a
  | none => .error ⟨.valueWanted, none⟩

/-- Read a text. -/
def readText (α : Type) [Decode α] (text : String) : Except ReadFault α := (shapeOf α).readAs decode? text

/-! ## Scalars -/

instance : Encode Json := ⟨id⟩

instance : Decode Json := ⟨.any, fun w => some w.json⟩

instance : Encode String := ⟨.string⟩

instance : Decode String := ⟨.string, WrittenJson.string?⟩

instance : Encode Bool := ⟨.bool⟩

instance : Decode Bool := ⟨.bool, WrittenJson.bool?⟩

/-- An integer in some bounds; others and fractions are refused. -/
def WrittenJson.intWithin? (least most : Int) (w : WrittenJson) : Option Int :=
  w.int?.bind fun i => if least ≤ i ∧ i ≤ most then some i else none

instance : Decode UInt16 where
  shape := .uint16
  decode? w := (w.intWithin? 0 65535).map fun i => UInt16.ofNat i.toNat

instance : Encode Int32 := ⟨fun i => .int i.toInt⟩

instance : Decode Int32 where
  shape := .int32
  decode? w := (w.intWithin? Int32.minValue.toInt Int32.maxValue.toInt).map Int32.ofInt

instance : Encode Int64 := ⟨fun i => .int i.toInt⟩

instance : Decode Int64 where
  shape := .int64
  decode? w := (w.intWithin? Int64.minValue.toInt Int64.maxValue.toInt).map Int64.ofInt

/-! ## Containers -/

section

variable {α : Type}

/-- Read every item of a list. -/
def decodeItems? [Decode α] : List WrittenJson → Option (List α)
  | [] => some []
  | w :: rest => do pure ((← decode? w) :: (← decodeItems? rest))

/-- Read the value of every pair. -/
def decodeFields? [Decode α] : List (String × WrittenJson) → Option (List (String × α))
  | [] => some []
  | (key, w) :: rest => do pure ((key, ← decode? w) :: (← decodeFields? rest))

instance [Encode α] : Encode (List α) := ⟨fun xs => .array (xs.map encode)⟩

instance [Decode α] : Decode (List α) where
  shape := .list (shapeOf α)
  decode? w := w.array?.bind decodeItems?

instance [Encode α] : Encode (Dict α) := ⟨fun d => .object (d.entries.map fun e => (e.1, encode e.2))⟩

instance [Decode α] : Decode (Dict α) where
  shape := .dict (shapeOf α)
  decode? w := (w.object?.bind decodeFields?).map Dict.ofList

/-- Nothing is written as `null`. -/
instance [Encode α] : Encode (Option α) := ⟨fun o => (o.map encode).getD .null⟩

/-- `null` reads as nothing. -/
instance [Decode α] : Decode (Option α) where
  shape := .optional (shapeOf α)
  decode?
    | .null => some none
    | w => (decode? w).map some

end

/-! ## Writing records -/

namespace Json

variable {α : Type}

/-- A field that is always written. -/
def always [Encode α] (a : α) : Option Json := some (encode a)

/-- A field that is written when there is something. -/
def whenSome [Encode α] (a : Option α) : Option Json := a.map encode

end Json

export Json (always whenSome)

/-! ## Reading records -/

namespace WrittenJson

variable {α : Type}

/-- Read values one after the other; the last one counts. -/
def last? [Decode α] : List WrittenJson → Option (Option α)
  | [] => some none
  | [w] => decode? w
  | w :: rest => do
    let _ ← (decode? w : Option (Option α))
    last? rest

/-- Read a field that may be absent. -/
def optional? [Decode α] (w : WrittenJson) (key : String) : Option (Option α) := last? (w.values key)

/-- A record none of whose fields may come again. It may also be written as the list of its values. -/
def single? (fields : Cursor.FieldShapes) : WrittenJson → Option WrittenJson
  | .object pairs =>
    if fields.all fun f => (values (.object pairs) f.1).length ≤ 1 then some (.object pairs) else none
  | .array items =>
    if items.length ≤ fields.length ∧ (Cursor.missingAfter? fields items.length).isNone then
      some (.object ((fields.map (·.1)).zip items))
    else none
  | _ => none

end WrittenJson

/-- How the fields of a record are read: their shapes in order, and what the record is made of them. -/
structure Fields (α : Type) where
  shapes : Cursor.FieldShapes
  decode? : WrittenJson → Option α

namespace Fields

variable {α β : Type}

/-- No field. -/
def nothing (a : α) : Fields α := ⟨[], fun _ => some a⟩

/-- Something made of what is read. -/
def map (f : α → β) (a : Fields α) : Fields β := ⟨a.shapes, fun w => (a.decode? w).map f⟩

/-- Some fields, and then more. -/
def seq (f : Fields (α → β)) (a : Unit → Fields α) : Fields β :=
  ⟨f.shapes ++ (a ()).shapes, fun w => do pure ((← f.decode? w) (← (a ()).decode? w))⟩

instance : Applicative Fields where
  pure := nothing
  map := map
  seq := seq

/-- A field that may be absent. -/
def optional [Decode α] (key : String) : Fields (Option α) :=
  ⟨[(key, .neededInLists, .optional (shapeOf α))], fun w => w.optional? key⟩

/-- A field that has a value of its own when it is absent. -/
def defaulted [Decode α] (key : String) (absent : α) : Fields α :=
  ⟨[(key, .free, .optional (shapeOf α))], fun w => (w.optional? key).map fun o => o.getD absent⟩

/-- A field that must be there. -/
def required [Decode α] (key : String) : Fields α :=
  ⟨[(key, .needed, shapeOf α)], fun w => (w.values key).getLast?.bind Decode.decode?⟩

/-- A field that has a value of its own when it is left out. -/
def leftOut [Decode α] (key : String) (absent : α) : Fields α :=
  ⟨[(key, .free, shapeOf α)], fun w =>
    match (w.values key).getLast? with
    | none => some absent
    | some v => Decode.decode? v⟩

end Fields

namespace Decode

variable {α : Type}

/-- A record that is written as an object. -/
abbrev record (name : String) (fields : Fields α) : Decode α where
  shape := .record name fields.shapes
  decode? w := if w.isObject then fields.decode? w else none

/-- A record in which no field comes again, and which may be written as a list. -/
abbrev strict (name : String) (fields : Fields α) : Decode α where
  shape := .strictRecord name fields.shapes
  decode? w := (w.single? fields.shapes).bind fields.decode?

end Decode

end HubSearch
