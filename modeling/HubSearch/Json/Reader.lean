/-
Reading JSON texts by shapes. The reader goes through a text once, and the first part that does not fit is
the fault of the text; what the shape does not ask for is skipped. At most 127 arrays and objects that are not
skipped may stand in one another. The functions count down steps, of which a text gets more than it can need.
-/
import HubSearch.Json.Cursor
import HubSearch.Json.Shape
import HubSearch.Json.Written

namespace HubSearch.Cursor

/-! ## Skipping -/

/-- Whether an open array or object is an object. -/
abbrev Frame := Bool

/-- What comes next in a text that is skipped. -/
inductive Pending where
  | value
  /-- A comma, unless the array or object has just been opened, or its end. -/
  | more (isOpened : Bool)
  | key

/-- Skip a word, a number or a string; arrays and objects are opened. -/
def skipScalar (n : Nat) (c : Cursor) : Except ReadFault (Option Frame × Cursor) :=
  match c.rest with
  | 'n' :: _ => (word "null".toList c).map (none, ·)
  | 't' :: _ => (word "true".toList c).map (none, ·)
  | 'f' :: _ => (word "false".toList c).map (none, ·)
  | '"' :: _ => (skipString n c.next).map (none, ·)
  | '[' :: _ => .ok (some false, c.next)
  | '\x7b' :: _ => .ok (some true, c.next)
  | d :: _ => if d = '-' ∨ d.isDigit then (skipNumber c).map (none, ·) else fault .valueWanted c.peeked
  | [] => fault .endInValue c.place

/-- Skip the key of a pair and its colon. -/
def skipKey (n : Nat) (c : Cursor) : Except ReadFault Cursor := do
  let c := c.trimmed
  match c.rest with
  | [] => fault .endInObject c.place
  | '"' :: _ =>
    let c := (← skipString n c.next).trimmed
    match c.rest with
    | [] => fault .endInObject c.place
    | ':' :: _ => pure c.next
    | _ => fault .colonWanted c.peeked
  | _ => fault .keyIsNoString c.peeked

/-- Skip a value, with the arrays and objects that are open in it, innermost first. -/
def skip : Nat → List Frame → Pending → Cursor → Except ReadFault Cursor
  | 0, _, _, c => fault .endInValue c.place
  | n + 1, frames, .value, c =>
    match skipScalar n c.trimmed, frames with
    | .error e, _ => .error e
    | .ok (some frame, after), _ => skip n (frame :: frames) (.more true) after
    | .ok (none, after), [] => .ok after
    | .ok (none, after), _ => skip n frames (.more false) after
  | _ + 1, [], _, c => .ok c
  | n + 1, frame :: frames, .more isOpened, c =>
    let c := c.trimmed
    match c.rest with
    | [] => fault (if frame then .endInObject else .endInList) c.place
    | d :: _ =>
      if d = ',' ∧ isOpened = false then skip n (frame :: frames) (if frame then .key else .value) c.next
      else if d = (if frame then '\x7d' else ']') then
        if frames.isEmpty then .ok c.next else skip n frames (.more false) c.next
      else if isOpened then skip n (frame :: frames) (if frame then .key else .value) c
      else fault (if frame then .objectEndWanted else .listEndWanted) c.peeked
  | n + 1, frames, .key, c =>
    match skipKey n c with
    | .error e => .error e
    | .ok after => skip n frames .value after

/-! ## Parts of a kept value -/

/-- Read a word, a number or a string, if one begins here. -/
def scalar? (n : Nat) (c : Cursor) : Except ReadFault (Option (WrittenJson × Cursor)) :=
  match c.rest with
  | 'n' :: _ => (word "null".toList c).map fun after => some (.null, after)
  | 't' :: _ => (word "true".toList c).map fun after => some (.bool true, after)
  | 'f' :: _ => (word "false".toList c).map fun after => some (.bool false, after)
  | '"' :: _ => (string n [] c.next).map fun p => some (.string p.1, p.2)
  | d :: _ => if d = '-' ∨ d.isDigit then (number c).map fun p => some (.number p.1, p.2) else .ok none
  | [] => .ok none

/-- What a value is when something else is wanted. -/
def found : WrittenJson → Found
  | .null => .null
  | .bool b => .bool b
  | .number x => .number x
  | .string s => .string s
  | .array _ => .array
  | .object _ => .object

/-- The fault of a text in which a value of another type stands. -/
def mismatch {α : Type} (n : Nat) (expected : String) (c : Cursor) : Except ReadFault α := do
  match ← scalar? n c with
  | some (w, after) => fault (.wrongType (found w) expected) after.place
  | none =>
    match c.rest with
    | '[' :: _ => fault (.wrongType .array expected) c.place
    | '\x7b' :: _ => fault (.wrongType .object expected) c.place
    | _ => fault .valueWanted c.peeked

/-- Open an array or an object, of which so many may still be opened. -/
def enter (levels : Nat) (c : Cursor) : Except ReadFault (Nat × Cursor) :=
  match levels with
  | 0 => fault .nestedTooDeep c.peeked
  | levels + 1 => .ok (levels, c.next)

/-- The place of a fault inside an array: behind the end of the array, when that comes next. -/
def arrayPlace (c : Cursor) : Place :=
  let c := c.trimmed
  match c.rest with
  | ']' :: _ => c.next.place
  | ',' :: _ => c.next.trimmed.place
  | _ => c.place

/-- The place of a fault inside an object: behind the end of the object, when that comes next. -/
def objectPlace (c : Cursor) : Place :=
  let c := c.trimmed
  match c.rest with
  | '\x7d' :: _ => c.next.place
  | _ => c.place

/-- Read the end of an array. -/
def arrayEnd (c : Cursor) : Except ReadFault Cursor :=
  let c := c.trimmed
  match c.rest with
  | [] => fault .endInList c.place
  | ']' :: _ => .ok c.next
  | ',' :: _ =>
    let c := c.next.trimmed
    fault (if c.rest.head? = some ']' then .trailingComma else .trailingCharacters) c.peeked
  | _ => fault .trailingCharacters c.peeked

/-- Read the end of an object. -/
def objectEnd (c : Cursor) : Except ReadFault Cursor :=
  let c := c.trimmed
  match c.rest with
  | [] => fault .endInObject c.place
  | '\x7d' :: _ => .ok c.next
  | ',' :: _ => fault .trailingComma c.peeked
  | _ => fault .trailingCharacters c.peeked

/-- The cursor at the next item of an array, if there is one. -/
def nextItem (isFirst : Bool) (c : Cursor) : Except ReadFault (Option Cursor) :=
  let c := c.trimmed
  match c.rest with
  | [] => fault .endInList c.place
  | ']' :: _ => .ok none
  | d :: _ =>
    if isFirst then .ok (some c)
    else if d = ',' then
      let c := c.next.trimmed
      match c.rest with
      | [] => fault .endInValue c.place
      | ']' :: _ => fault .trailingComma c.peeked
      | _ => .ok (some c)
    else fault .listEndWanted c.peeked

/-- The cursor behind the opening quote of the next key of an object, if there is one. -/
def nextKey (isFirst : Bool) (c : Cursor) : Except ReadFault (Option Cursor) :=
  let c := c.trimmed
  match c.rest with
  | [] => fault .endInObject c.place
  | '\x7d' :: _ => .ok none
  | d :: _ =>
    if isFirst then if d = '"' then .ok (some c.next) else fault .keyIsNoString c.peeked
    else if d = ',' then
      let c := c.next.trimmed
      match c.rest with
      | [] => fault .endInValue c.place
      | '"' :: _ => .ok (some c.next)
      | '\x7d' :: _ => fault .trailingComma c.peeked
      | _ => fault .keyIsNoString c.peeked
    else fault .objectEndWanted c.peeked

/-- Read the colon of a pair. -/
def colon (c : Cursor) : Except ReadFault Cursor :=
  let c := c.trimmed
  match c.rest with
  | [] => fault .endInObject c.place
  | ':' :: _ => .ok c.next
  | _ => fault .colonWanted c.peeked

/-! ## Scalars of a shape -/

/-- Read a string of which a message tells when something else stands there. -/
def stringFor (n : Nat) (expected : String) (c : Cursor) : Except ReadFault (String × Cursor) :=
  match c.rest with
  | '"' :: _ => string n [] c.next
  | _ => mismatch n expected c

/-- Read a boolean. -/
def boolean (n : Nat) (c : Cursor) : Except ReadFault (WrittenJson × Cursor) :=
  match c.rest with
  | 't' :: _ => (word "true".toList c).map (.bool true, ·)
  | 'f' :: _ => (word "false".toList c).map (.bool false, ·)
  | _ => mismatch n "a boolean" c

/-- Read an integer. -/
def integer (n : Nat) (name : String) (least most : Int) (c : Cursor) :
    Except ReadFault (WrittenJson × Cursor) :=
  match c.rest with
  | [] => mismatch n name c
  | d :: _ =>
    if d = '-' ∨ d.isDigit then do
      match ← number c with
      | (.int i, after) =>
        if least ≤ i ∧ i ≤ most then pure (.number (.int i), after)
        else fault (.wrongValue (.number (.int i)) name) after.place
      | (x, after) => fault (.wrongType (.number x) name) after.place
    else mismatch n name c

/-- Read a string or an integer of 32 bits. -/
def integerOrString (n levels : Nat) (name : String) (c : Cursor) :
    Except ReadFault (WrittenJson × Cursor) := do
  match ← scalar? n c with
  | some (.string s, after) => pure (.string s, after)
  | some (.number (.int i), after) =>
    if Int32.minValue.toInt ≤ i ∧ i ≤ Int32.maxValue.toInt then pure (.number (.int i), after)
    else fault (.wrongValue (.number (.int i)) "a 32-bit integer") after.place
  | some (w, after) => fault (.wrongType (found w) name) after.place
  | none =>
    match c.rest with
    | '[' :: _ => fault (.wrongType .array name) (← enter levels c).2.arrayPlace
    | '\x7b' :: _ => fault (.wrongType .object name) (← enter levels c).2.objectPlace
    | _ => fault .valueWanted c.peeked

/-- Read a string that is one of some words. -/
def knownWord (n : Nat) (known : List String) (c : Cursor) : Except ReadFault (WrittenJson × Cursor) := do
  let (s, after) ← stringFor n "variant identifier" c
  if s ∈ known then pure (.string s, after) else fault (.unknownWord s known) after.place

/-- Read one of some words, or an object with the word as its key. -/
def wordOf (n levels : Nat) (known : List String) (c : Cursor) : Except ReadFault (WrittenJson × Cursor) :=
  match c.rest with
  | '"' :: _ => knownWord n known c
  | '\x7b' :: _ => do
    let (_, c) ← enter levels c
    let c := c.trimmed
    if c.rest = [] then fault .endInValue c.place
    let (w, c) ← knownWord n known c
    let c := (← colon c).trimmed
    let c ← match c.rest with
      | [] => fault .endInValue c.place
      | 'n' :: _ => word "null".toList c
      | _ => mismatch n "unit" c
    let c := c.trimmed
    match c.rest with
    | [] => fault .endInObject c.place
    | '\x7d' :: _ => pure (w, c.next)
    | _ => fault .valueWanted c.place
  | _ => fault .valueWanted c.peeked

/-! ## Values of a shape -/

/-- The fields of a record. -/
abbrev FieldShapes := List (String × Presence × Shape)

/-- What becomes of the pairs of an object: the shape of the value under a key, none when it is skipped, and
whether the key may not come again. -/
structure PairRule where
  shapeOf : String → Option Shape
  isSingle : String → Bool := fun _ => false

namespace PairRule

/-- Every value has the same shape. -/
def uniform (s : Shape) : PairRule := ⟨fun _ => some s, fun _ => false⟩

/-- The fields of a record; other pairs have another shape, or are skipped. -/
def fields (fs : FieldShapes) (isSingle : Bool) (others : Option Shape) : PairRule :=
  ⟨fun key => ((fs.lookup key).map (·.2)).or others, fun key => isSingle && (fs.lookup key).isSome⟩

end PairRule

/-- The first field that is needed and is not there. -/
def missing? (fs : FieldShapes) (isThere : String → Bool) : Option String :=
  (fs.find? fun f => f.2.1 = .needed ∧ isThere f.1 = false).map (·.1)

/-- The words for a number of fields. -/
def elements (count : Nat) : String := toString count ++ (if count = 1 then " element" else " elements")

/-- The number of the first field that is missing when an array ends before a field. -/
def missingAfter? (fs : FieldShapes) (count : Nat) : Option Nat :=
  ((fs.drop count).findIdx? fun f => f.2.1 ≠ .free).map (count + ·)

/-- The shape of a text that is read as a string. -/
def exactText? : Shape → Option String
  | .exactly value => some value
  | _ => none

mutual

/-- Read a value of a shape, below which so many arrays and objects may still be opened. -/
def value : Nat → (levels : Nat) → Shape → Cursor → Except ReadFault (WrittenJson × Cursor)
  | 0, _, _, c => fault .endInValue c.place
  | n + 1, levels, shape, c =>
    let c := c.trimmed
    match c.rest, shape with
    | [], _ => fault .endInValue c.place
    | 'n' :: _, .optional _ => (word "null".toList c).map (.null, ·)
    | _, .optional s => value n levels s c
    | _, .bool => boolean n c
    | _, .string => (stringFor n "a string" c).map fun p => (.string p.1, p.2)
    | _, .exactly _ => (stringFor n "a string" c).map fun p => (.string p.1, p.2)
    | _, .stringOf name wrong? => do
      let (s, after) ← stringFor n name c
      match wrong? s with
      | none => pure (.string s, after)
      | some cause => fault (.other cause) after.place
    | _, .integer name least most => integer n name least most c
    | _, .integerOrString name => integerOrString n levels name c
    | _, .word known => wordOf n levels known c
    | '[' :: _, .any => array n levels .any c
    | '\x7b' :: _, .any => (object n levels (.uniform .any) c).map fun p => (.object p.1, p.2.2)
    | _, .any => do
      match ← scalar? n c with
      | some p => pure p
      | none => fault .valueWanted c.peeked
    | '[' :: _, .list s => array n levels s c
    | _, .list _ => mismatch n "a sequence" c
    | '\x7b' :: _, .dict s => (object n levels (.uniform s) c).map fun p => (.object p.1, p.2.2)
    | _, .dict _ => mismatch n "a map" c
    | '\x7b' :: _, .record _ fs => do
      let (pairs, place, after) ← object n levels (.fields fs false none) c
      match missing? fs fun key => (pairs.lookup key).isSome with
      | some key => fault (.missingField key) place
      | none => pure (.object pairs, after)
    | '[' :: _, .record name _ => do fault (.wrongType .array name) (← enter levels c).2.arrayPlace
    | _, .record name _ => mismatch n name c
    | '\x7b' :: _, .strictRecord _ fs => do
      let (pairs, place, after) ← object n levels (.fields fs true none) c
      match missing? fs fun key => (pairs.lookup key).isSome with
      | some key => fault (.missingField key) place
      | none => pure (.object pairs, after)
    | '[' :: _, .strictRecord name fs => do
      let (levels, c) ← enter levels c
      let (items, c) ← items n levels (fs.map (·.2.2)) none true [] c
      match missingAfter? fs items.length with
      | some i => fault (.wrongLength i (name ++ " with " ++ elements fs.length)) c.arrayPlace
      | none => pure (.object ((fs.map (·.1)).zip items), ← arrayEnd c)
    | _, .strictRecord name _ => mismatch n name c
    | '\x7b' :: _, .openRecord _ fs => do
      let (pairs, place, after) ← object n levels (.fields fs true (some .any)) c
      match missing? fs fun key => (pairs.lookup key).isSome with
      | some key => fault (.missingField key) place
      | none => pure (.object pairs, after)
    | _, .openRecord name _ => mismatch n name c

/-- Read an array whose items have one shape. -/
def array : Nat → (levels : Nat) → Shape → Cursor → Except ReadFault (WrittenJson × Cursor)
  | 0, _, _, c => fault .endInValue c.place
  | n + 1, levels, s, c => do
    let (levels, c) ← enter levels c
    let (items, c) ← items n levels [] (some s) true [] c
    pure (.array items, ← arrayEnd c)

/-- Read an object, and tell the place of a fault that shows at its end. -/
def object : Nat → (levels : Nat) → PairRule → Cursor →
    Except ReadFault (List (String × WrittenJson) × Place × Cursor)
  | 0, _, _, c => fault .endInValue c.place
  | n + 1, levels, rule, c => do
    let (levels, c) ← enter levels c
    let (pairs, c) ← pairs n levels rule true [] c
    pure (pairs, c.objectPlace, ← objectEnd c)

/-- Read items up to the end of the array, or as long as there are shapes. -/
def items : Nat → (levels : Nat) → (shapes : List Shape) → (others : Option Shape) → (isFirst : Bool) →
    (latest : List WrittenJson) → Cursor → Except ReadFault (List WrittenJson × Cursor)
  | 0, _, _, _, _, _, c => fault .endInValue c.place
  | n + 1, levels, shapes, others, isFirst, latest, c =>
    match shapes.head?.or others with
    | none => .ok (latest.reverse, c)
    | some s =>
      match nextItem isFirst c with
      | .error e => .error e
      | .ok none => .ok (latest.reverse, c)
      | .ok (some start) =>
        match value n levels s start with
        | .error e => .error e
        | .ok (w, after) => items n levels shapes.tail others false (w :: latest) after

/-- Read pairs up to the end of the object. -/
def pairs : Nat → (levels : Nat) → PairRule → (isFirst : Bool) → (latest : List (String × WrittenJson)) →
    Cursor → Except ReadFault (List (String × WrittenJson) × Cursor)
  | 0, _, _, _, _, c => fault .endInValue c.place
  | n + 1, levels, rule, isFirst, latest, c =>
    match nextKey isFirst c with
    | .error e => .error e
    | .ok none => .ok (latest.reverse, c)
    | .ok (some start) =>
      match pair n levels rule latest start with
      | .error e => .error e
      | .ok (latest, after) => pairs n levels rule false latest after

/-- Read a pair behind the opening quote of its key, and put it before the others if it is kept. -/
def pair : Nat → (levels : Nat) → PairRule → (latest : List (String × WrittenJson)) → Cursor →
    Except ReadFault (List (String × WrittenJson) × Cursor)
  | 0, _, _, _, c => fault .endInValue c.place
  | n + 1, levels, rule, latest, c => do
    let (key, c) ← string n [] c
    if rule.isSingle key ∧ (latest.lookup key).isSome then fault (.repeatedField key) c.objectPlace
    let start ← colon c
    match rule.shapeOf key with
    | none => pure (latest, ← skip n [] .value start)
    | some s =>
      let (w, after) ← value n levels s start
      match exactText? s, w.string? with
      | some expected, some s =>
        if s = expected then pure ((key, w) :: latest, after)
        else fault (.wrongValue (.string s) expected) after.objectPlace
      | _, _ => pure ((key, w) :: latest, after)

end

end HubSearch.Cursor

namespace HubSearch

/-- The number of arrays and objects that may stand in one another. -/
def maxNesting : Nat := 127

/-- What a text writes, read by a shape. -/
def Shape.read (s : Shape) (text : String) : Except ReadFault WrittenJson := do
  let chars := text.toList
  let (w, c) ← Cursor.value (4 * chars.length + 16) maxNesting s ⟨chars, {}⟩
  let c := c.trimmed
  if c.rest = [] then pure w else Cursor.fault .trailingCharacters c.peeked

/-- The value that a text stands for. -/
def Json.read (text : String) : Except ReadFault Json := (Shape.any.read text).map WrittenJson.json

end HubSearch
