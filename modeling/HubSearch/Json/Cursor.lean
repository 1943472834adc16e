/-
Reading the smallest parts of a JSON text from a cursor: blanks, words, numbers and strings. A part that is
only skipped is looked at less closely than one that is kept: its numbers have no range, and its strings may
hold half a surrogate pair.
-/
import HubSearch.Json.Fault
import HubSearch.Json.Fraction

namespace HubSearch

/-- What is left of a text, and the place where that begins. -/
structure Cursor where
  rest : List Char
  place : Place := {}

namespace Cursor

/-- A fault at a place. -/
def fault {α : Type} (cause : FaultCause) (place : Place) : Except ReadFault α := .error ⟨cause, some place⟩

/-- The place behind the next byte, or the end of the text. -/
def peeked (c : Cursor) : Place :=
  match c.rest with
  | [] => c.place
  | d :: _ => c.place.afterByte d

/-- The cursor behind the next character. -/
def next (c : Cursor) : Cursor :=
  match c.rest with
  | [] => c
  | d :: rest => ⟨rest, c.place.after d⟩

/-! ## Blanks and words -/

/-- The blanks allowed between the parts of a text. -/
def isSpace (c : Char) : Bool := c = ' ' || c = '\t' || c = '\n' || c = '\r'

/-- The cursor at the first character from a place on that is no blank. -/
def afterBlanks (place : Place) : List Char → Cursor
  | [] => ⟨[], place⟩
  | c :: rest => if isSpace c then afterBlanks (place.after c) rest else ⟨c :: rest, place⟩

/-- The cursor behind the blanks. -/
def trimmed (c : Cursor) : Cursor := afterBlanks c.place c.rest

/-- Read the letters of a word. -/
def word : List Char → Cursor → Except ReadFault Cursor
  | [], c => .ok c
  | letter :: letters, c =>
    match c.rest with
    | [] => fault .endInValue c.place
    | d :: _ => if d = letter then word letters c.next else fault .wordWanted c.peeked

/-! ## Numbers -/

/-- The value of a decimal digit. -/
def digitValue (d : Char) : Nat := d.toNat - '0'.toNat

/-- A number followed by more digits, as far as it has 64 bits, and the digits that are left. -/
def extended (n : Nat) : List Char → Nat × List Char
  | [] => (n, [])
  | d :: rest =>
    if n * 10 + digitValue d < UInt64.size then extended (n * 10 + digitValue d) rest else (n, d :: rest)

/-- Read digits. -/
def digits (c : Cursor) : List Char × Cursor :=
  let ds := c.rest.takeWhile Char.isDigit
  (ds, ⟨c.rest.dropWhile Char.isDigit, c.place.onward ds.length⟩)

/-- The exponent of a number. -/
structure ExponentPart where
  isNegative : Bool
  digits : List Char
  /-- Where the digits begin. -/
  place : Place

/-- The parts of a number. -/
structure NumberParts where
  isNegative : Bool
  whole : List Char
  fraction : Option (List Char)
  exponent : Option ExponentPart

/-- Read the whole part of a number, which has no needless zeros. -/
def wholePart (atEnd : FaultCause) (c : Cursor) : Except ReadFault (List Char × Cursor) :=
  match c.rest with
  | [] => fault atEnd c.place
  | '0' :: d :: _ => if d.isDigit then fault .badNumber (c.place.onward 2) else .ok (['0'], c.next)
  | d :: _ => if d.isDigit then .ok c.digits else fault .badNumber c.peeked

/-- Read the fraction of a number, if there is one. -/
def fractionPart (atEnd : FaultCause) (c : Cursor) : Except ReadFault (Option (List Char) × Cursor) :=
  match c.rest with
  | '.' :: _ =>
    match c.next.digits with
    | ([], after) => fault (if after.rest = [] then atEnd else .badNumber) after.peeked
    | (ds, after) => .ok (some ds, after)
  | _ => .ok (none, c)

/-- The cursor behind the sign of an exponent, and whether that is negative. -/
def exponentSign (c : Cursor) : Bool × Cursor :=
  match c.rest with
  | '-' :: _ => (true, c.next)
  | '+' :: _ => (false, c.next)
  | _ => (false, c)

/-- Read the exponent of a number, if there is one. -/
def exponentPart (atEnd : FaultCause) (c : Cursor) : Except ReadFault (Option ExponentPart × Cursor) :=
  match c.rest with
  | [] => .ok (none, c)
  | e :: _ =>
    if e = 'e' ∨ e = 'E' then
      let (isNegative, start) := c.next.exponentSign
      match start.digits with
      | ([], _) => fault (if start.rest = [] then atEnd else .badNumber) start.peeked
      | (ds, after) => .ok (some ⟨isNegative, ds, start.place⟩, after)
    else .ok (none, c)

/-- Read the parts of a number. -/
def numberParts (atEnd : FaultCause) (c : Cursor) : Except ReadFault (NumberParts × Cursor) := do
  let isNegative := c.rest.head? = some '-'
  let (whole, c) ← wholePart atEnd (if isNegative then c.next else c)
  let (fraction, c) ← fractionPart atEnd c
  let (exponent, c) ← exponentPart atEnd c
  pure (⟨isNegative, whole, fraction, exponent⟩, c)

namespace NumberParts

/-- The value of the exponent. -/
def exponentValue (p : NumberParts) : Int :=
  match p.exponent with
  | none => 0
  | some e =>
    let n : Int := e.digits.foldl (fun n d => n * 10 + digitValue d) 0
    if e.isNegative then -n else n

/-- The digits that count: the first ones, as far as they fit into 64 bits; and the power of ten that they
are multiplied with. -/
def scaled (p : NumberParts) : Nat × Int :=
  let (n, cut) := extended 0 p.whole
  let (n, left) := extended n (p.fraction.getD [])
  let places : Int := (p.fraction.getD []).length - left.length
  (n, cut.length - places + p.exponentValue)

/-- The number of the parts, if it is in the range. Whole numbers of 64 bits are integers. A negative zero is
no integer. -/
def value? (p : NumberParts) : Option JsonNumber :=
  let (n, cut) := extended 0 p.whole
  let isWhole := p.fraction.isNone && p.exponent.isNone && cut.isEmpty
  if isWhole ∧ p.isNegative = false then some (.int n)
  else if isWhole ∧ n ≠ 0 ∧ n ≤ Int64.minValue.toInt.natAbs then some (.int (-n))
  else (Fraction.ofDecimal? p.scaled.1 p.scaled.2).map fun x => .decimal p.isNegative x.decimal.1 x.decimal.2

/-- How many digits of an exponent make it too great for 32 bits, if they do. -/
def overflow? (n : Nat) : List Char → Option Nat
  | [] => none
  | d :: rest =>
    if Int32.maxValue.toInt < n * 10 + digitValue d then some 1
    else (overflow? (n * 10 + digitValue d) rest).map (· + 1)

/-- Where a number that ends at a place goes out of the range. -/
def rangePlace (p : NumberParts) (stop : Place) : Place :=
  match p.exponent with
  | some e => ((overflow? 0 e.digits).map e.place.onward).getD stop
  | none => stop

end NumberParts

/-- Read a number. -/
def number (c : Cursor) : Except ReadFault (JsonNumber × Cursor) := do
  let (p, c) ← numberParts .endInValue c
  match p.value? with
  | some n => pure (n, c)
  | none => fault .numberOutOfRange (p.rangePlace c.place)

/-- Skip a number. -/
def skipNumber (c : Cursor) : Except ReadFault Cursor := (numberParts .badNumber c).map (·.2)

/-! ## Strings -/

/-- The value of a hexadecimal digit of either case. -/
def hexValue? (c : Char) : Option Nat :=
  if '0' ≤ c ∧ c ≤ '9' then some (c.toNat - '0'.toNat)
  else if 'a' ≤ c ∧ c ≤ 'f' then some (c.toNat - 'a'.toNat + 10)
  else if 'A' ≤ c ∧ c ≤ 'F' then some (c.toNat - 'A'.toNat + 10)
  else none

/-- The number written by four hexadecimal digits. -/
def hexUnit? (a b c d : Char) : Option Nat := do
  pure (((← hexValue? a) * 16 + (← hexValue? b)) * 256 + (← hexValue? c) * 16 + (← hexValue? d))

/-- The character named after a backslash. -/
def escape? : Char → Option Char
  | '"' => some '"'
  | '\\' => some '\\'
  | '/' => some '/'
  | 'b' => some '\x08'
  | 'f' => some '\x0c'
  | 'n' => some '\n'
  | 'r' => some '\r'
  | 't' => some '\t'
  | _ => none

/-- The place so many bytes behind another one, if the text goes as far. -/
def placeBehind? : Nat → Place → List Char → Option Place
  | 0, place, _ => some place
  | _ + 1, _, [] => none
  | n + 1, place, c :: rest =>
    if c.utf8Size ≤ n + 1 then placeBehind? (n + 1 - c.utf8Size) (place.after c) rest
    else some (place.onward (n + 1))

/-- The fault of a text in which four hexadecimal digits should come. -/
def hexFault {α : Type} (c : Cursor) : Except ReadFault α :=
  match placeBehind? 4 c.place c.rest with
  | some place => fault .badEscape place
  | none => fault .endInString (c.rest.foldl Place.after c.place)

/-- Read four hexadecimal digits. -/
def hexUnit (c : Cursor) : Except ReadFault (Nat × Cursor) :=
  match c.rest with
  | h :: i :: j :: k :: rest =>
    match hexUnit? h i j k with
    | some n => .ok (n, ⟨rest, c.place.onward 4⟩)
    | none => hexFault c
  | _ => hexFault c

/-- Read a character of the mark between the halves of a surrogate pair. -/
def pairMark (mark : Char) (c : Cursor) : Except ReadFault Cursor :=
  match c.rest with
  | [] => fault .endInString c.place
  | d :: _ => if d = mark then .ok c.next else fault .unfinishedPair c.peeked

/-- Read what follows the escape `\u`. A surrogate pair gives one character; half a pair gives none. -/
def codePoint (c : Cursor) : Except ReadFault (Char × Cursor) := do
  let (high, c) ← hexUnit c
  if 0xDC00 ≤ high ∧ high < 0xE000 then fault .loneSurrogate c.place
  else if 0xD800 ≤ high ∧ high < 0xDC00 then
    let c ← pairMark '\\' c
    let c ← pairMark 'u' c
    let (low, c) ← hexUnit c
    if 0xDC00 ≤ low ∧ low < 0xE000 then
      pure (Char.ofNat (0x10000 + (high - 0xD800) * 0x400 + (low - 0xDC00)), c)
    else fault .loneSurrogate c.place
  else pure (Char.ofNat high, c)

/-- Read what follows a backslash. -/
def escape (c : Cursor) : Except ReadFault (Char × Cursor) :=
  match c.rest with
  | [] => fault .endInString c.place
  | 'u' :: _ => codePoint c.next
  | e :: _ =>
    match escape? e with
    | some x => .ok (x, c.next)
    | none => fault .badEscape c.peeked

/-- Skip what follows a backslash. -/
def skipEscape (c : Cursor) : Except ReadFault Cursor :=
  match c.rest with
  | 'u' :: _ => (hexUnit c.next).map (·.2)
  | _ => (escape c).map (·.2)

/-- Read a string behind its opening quote, within so many steps. -/
def string : Nat → (latest : List Char) → Cursor → Except ReadFault (String × Cursor)
  | 0, _, c => fault .endInString c.place
  | n + 1, latest, c =>
    match c.rest with
    | [] => fault .endInString c.place
    | '"' :: _ => .ok (String.ofList latest.reverse, c.next)
    | '\\' :: _ =>
      match escape c.next with
      | .ok (x, after) => string n (x :: latest) after
      | .error e => .error e
    | d :: _ => if d.toNat < 0x20 then fault .controlCharacter c.next.place else string n (d :: latest) c.next

/-- Skip a string behind its opening quote, within so many steps. -/
def skipString : Nat → Cursor → Except ReadFault Cursor
  | 0, c => fault .endInString c.place
  | n + 1, c =>
    match c.rest with
    | [] => fault .endInString c.place
    | '"' :: _ => .ok c.next
    | '\\' :: _ =>
      match skipEscape c.next with
      | .ok after => skipString n after
      | .error e => .error e
    | d :: _ => if d.toNat < 0x20 then fault .controlCharacter c.place else skipString n c.next

end Cursor

end HubSearch
