/-
Instants, to the second, read from and written as RFC 3339 text. Days are counted on the civil
calendar; an offset is taken off when a text is read and instants are written in UTC. A reader is lenient:
numbers may be short, and blanks may stand before each number and mark.
-/
import HubSearch.Json.Codec
import HubSearch.Text.Blank

namespace HubSearch

/-- An instant. -/
structure Timestamp where
  /-- The seconds since the start of 1970 in UTC, leap seconds not counted. -/
  seconds : Int
  /-- Whether it is the leap second that follows. -/
  isLeapSecond : Bool := false
  deriving DecidableEq, Inhabited

namespace Timestamp

/-! ## The civil calendar -/

/-- The days from the start of 1970 to a date. Years are counted from March, so that the leap day is
the last of its year. -/
def daysOfCivil (year : Int) (month day : Nat) : Int :=
  let y := if month ≤ 2 then year - 1 else year
  let era := y.fdiv 400
  let yearOfEra := y - era * 400
  let monthFromMarch : Int := (month + 9) % 12
  let dayOfYear : Int := (153 * monthFromMarch + 2) / 5 + day - 1
  era * 146097 + (yearOfEra * 365 + yearOfEra / 4 - yearOfEra / 100 + dayOfYear) - 719468

/-- The date that lies some days after the start of 1970. -/
def civilOfDays (days : Int) : Int × Nat × Nat :=
  let z := days + 719468
  let era := z.fdiv 146097
  let dayOfEra := z - era * 146097
  let yearOfEra := (dayOfEra - dayOfEra / 1460 + dayOfEra / 36524 - dayOfEra / 146096) / 365
  let dayOfYear := dayOfEra - (365 * yearOfEra + yearOfEra / 4 - yearOfEra / 100)
  let monthFromMarch := (5 * dayOfYear + 2) / 153
  let day := (dayOfYear - (153 * monthFromMarch + 2) / 5 + 1).toNat
  let month := (if monthFromMarch < 10 then monthFromMarch + 3 else monthFromMarch - 9).toNat
  (yearOfEra + era * 400 + (if month ≤ 2 then 1 else 0), month, day)

/-- Whether a year has a leap day. -/
def isLeap (year : Int) : Bool := year % 4 = 0 && (year % 100 ≠ 0 || year % 400 = 0)

/-- The days of a month. -/
def daysInMonth (year : Int) (month : Nat) : Nat :=
  if month = 2 then (if isLeap year then 29 else 28)
  else if month = 4 ∨ month = 6 ∨ month = 9 ∨ month = 11 then 30
  else 31

/-- Whether the calendar goes as far as a year. -/
def isYear (year : Int) : Bool := -262143 ≤ year && year ≤ 262142

/-! ## Reading -/

/-- What is wrong with a text that writes no instant. -/
inductive TextFault where
  | cutShort
  | badCharacter
  /-- A number is out of its range, or the day is not in the calendar. -/
  | outOfRange
  /-- The calendar does not go as far. -/
  | noInstant
  | trailing
  deriving DecidableEq, Inhabited

/-- The wording of a fault. -/
def TextFault.message : TextFault → String
  | .cutShort => "premature end of input"
  | .badCharacter => "input contains invalid characters"
  | .outOfRange => "input is out of range"
  | .noInstant => "no possible date and time matching input"
  | .trailing => "trailing input"

/-- The number that digits write. -/
def digitsValue (ds : List Char) : Nat := ds.foldl (fun n d => n * 10 + (d.toNat - '0'.toNat)) 0

/-- Cut a number of one to `most` digits off the start of a text. -/
def number (most : Nat) (cs : List Char) : Except TextFault (Nat × List Char) :=
  match (cs.take most).takeWhile Char.isDigit with
  | [] => .error (if cs = [] then .cutShort else .badCharacter)
  | digits => .ok (digitsValue digits, cs.drop digits.length)

/-- Cut a number of one or two digits in a range off the start of a text. -/
def ranged (least most : Nat) (cs : List Char) : Except TextFault (Nat × List Char) := do
  let (n, cs) ← number 2 (trimStart cs)
  if least ≤ n ∧ n ≤ most then pure (n, cs) else .error .outOfRange

/-- Cut a mark off the start of a text. -/
def marked (isMark : Char → Bool) : List Char → Except TextFault (List Char)
  | [] => .error .cutShort
  | c :: rest => if isMark c then .ok rest else .error .badCharacter

/-- Cut a year off the start of a text; after a sign it may have any number of digits. -/
def year (cs : List Char) : Except TextFault (Int × List Char) := do
  let (n, cs) ← match trimStart cs with
    | '-' :: rest => (number rest.length rest).map fun p => (-(p.1 : Int), p.2)
    | '+' :: rest => (number rest.length rest).map fun p => ((p.1 : Int), p.2)
    | cs => (number 4 cs).map fun p => ((p.1 : Int), p.2)
  if Int32.minValue.toInt ≤ n ∧ n ≤ Int32.maxValue.toInt then pure (n, cs) else .error .outOfRange

/-- Cut year, month and day off the start of a text. -/
def date (cs : List Char) : Except TextFault ((Int × Nat × Nat) × List Char) := do
  let (year, cs) ← year cs
  let (month, cs) ← ranged 1 12 (← marked (· = '-') (trimStart cs))
  let (day, cs) ← ranged 1 31 (← marked (· = '-') (trimStart cs))
  pure ((year, month, day), cs)

/-- The text after the fraction of a second, if there is one. -/
def afterFraction : List Char → Except TextFault (List Char)
  | '.' :: rest => (number rest.length rest).map (·.2)
  | cs => .ok cs

/-- Cut the time of a day off the start of a text, in seconds, and whether it is a leap second. A fraction of a
second is dropped. -/
def time (cs : List Char) : Except TextFault ((Nat × Bool) × List Char) := do
  let (hour, cs) ← ranged 0 23 cs
  let (minute, cs) ← ranged 0 59 (← marked (· = ':') (trimStart cs))
  let (second, cs) ← ranged 0 60 (← marked (· = ':') (trimStart cs))
  pure ((hour * 3600 + minute * 60 + Nat.min second 59, second = 60), ← afterFraction cs)

/-- Cut two digits off the start of a text. -/
def twoDigitNumber : List Char → Except TextFault (Nat × List Char)
  | d :: d' :: rest =>
    if d.isDigit ∧ d'.isDigit then .ok (digitsValue [d, d'], rest) else .error .badCharacter
  | [d] => .error (if d.utf8Size = 1 then .cutShort else .badCharacter)
  | [] => .error .cutShort

/-- Whether a text begins with the name of UTC, in letters of any case. -/
def startsWithUTC (cs : List Char) : Bool := (cs.take 3).map Char.toLower = ['u', 't', 'c']

/-- Cut an offset from UTC off the start of a text, in seconds: `Z`, `UTC`, or a sign, hours and minutes. -/
def offset (cs : List Char) : Except TextFault (Int × List Char) := do
  if startsWithUTC cs then pure (0, cs.drop 3)
  else if cs.head? = some 'Z' ∨ cs.head? = some 'z' then pure (0, cs.drop 1)
  else
    let direction : Int := if cs.head? = some '+' then 1 else -1
    let (hours, cs) ← twoDigitNumber (← marked (· ∈ ['+', '-', '−']) cs)
    let (minutes, cs) ← twoDigitNumber (cs.dropWhile fun c => c = ':' || isBlank c)
    if minutes ≤ 59 then pure (direction * (hours * 3600 + minutes * 60), cs) else .error .outOfRange

/-- The instant so many seconds after the start of 1970, as far as the calendar goes. -/
def ofSeconds (seconds : Int) (isLeapSecond : Bool) : Except TextFault Timestamp :=
  if isYear (civilOfDays (seconds.fdiv 86400)).1 then .ok ⟨seconds, isLeapSecond⟩ else .error .noInstant

/-- Read an RFC 3339 text. -/
def ofChars (cs : List Char) : Except TextFault Timestamp := do
  let ((year, month, day), cs) ← date cs
  let ((time, isLeapSecond), cs) ← time (← marked (· ∈ ['T', 't', ' ']) cs)
  let (offset, cs) ← offset (trimStart cs)
  if trimStart cs ≠ [] then .error .trailing
  else if isYear year = false ∨ daysInMonth year month < day ∨ 86400 ≤ offset.natAbs then .error .outOfRange
  else ofSeconds (daysOfCivil year month day * 86400 + time - offset) isLeapSecond

/-! ## Writing -/

/-- A number of two digits. -/
def twoDigits (n : Nat) : List Char :=
  [Char.ofNat ('0'.toNat + n / 10 % 10), Char.ofNat ('0'.toNat + n % 10)]

/-- A year: four digits, or a sign and at least four digits outside of 0 to 9999. -/
def yearChars (year : Int) : List Char :=
  let digits := Nat.toDigits 10 year.natAbs
  let padded := List.replicate (4 - digits.length) '0' ++ digits
  if year < 0 then '-' :: padded else if 9999 < year then '+' :: padded else padded

/-- The RFC 3339 text of an instant, in UTC. -/
def chars (t : Timestamp) : List Char :=
  let days := t.seconds.fdiv 86400
  let clock := (t.seconds - days * 86400).toNat
  let (year, month, day) := civilOfDays days
  let second := clock % 60 + (if t.isLeapSecond then 1 else 0)
  yearChars year ++ '-' :: twoDigits month ++ '-' :: twoDigits day ++ 'T' :: twoDigits (clock / 3600) ++
    ':' :: twoDigits (clock / 60 % 60) ++ ':' :: twoDigits second ++ ['Z']

/-- The RFC 3339 text of an instant, in UTC. -/
def text (t : Timestamp) : String := String.ofList t.chars

/-- What is wrong with a text, if it writes no instant. -/
def wrong? (s : String) : Option String :=
  match ofChars s.toList with
  | .ok _ => none
  | .error e => some e.message

instance : Encode Timestamp := ⟨fun t => .string t.text⟩

instance : Decode Timestamp where
  shape := .stringOf "an RFC 3339 formatted date and time string" wrong?
  decode? w := w.string?.bind fun s => (ofChars s.toList).toOption

end Timestamp

end HubSearch
