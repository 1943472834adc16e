/-
Spans of time and their text: groups of a whole number and a unit, one after the other, such as
`1h30m`. Blanks do not count anywhere.
-/
import HubSearch.Text.Blank
import HubSearch.Text.Numeral

namespace HubSearch

/-- The nanoseconds of a second. -/
def nanosPerSecond : Nat := 1000000000

/-- A span of time. -/
structure Duration where
  /-- Whole seconds, in 64 bits. -/
  seconds : Nat
  /-- What is left, less than a second. -/
  nanos : Nat
  seconds_lt : seconds < UInt64.size := by decide
  nanos_lt : nanos < nanosPerSecond := by decide
  deriving DecidableEq

/-- Why a text is no duration. -/
inductive DurationError where
  /-- A group has no number. -/
  | noNumber
  /-- A number has a digit that is not one of the ten ASCII digits. -/
  | foreignDigit
  /-- A number does not fit in 64 bits. -/
  | numberTooLarge
  /-- A group has no unit, or one that is not known. -/
  | unknownUnit
  /-- The seconds of a group, or of all groups so far, do not fit in 64 bits. -/
  | overflow
  deriving DecidableEq, Inhabited

namespace DurationError

/-- The wording of a failure. -/
def message : DurationError → String
  | .noNumber => "ParseInt(ParseIntError \x7b kind: Empty \x7d)"
  | .foreignDigit => "ParseInt(ParseIntError \x7b kind: InvalidDigit \x7d)"
  | .numberTooLarge => "ParseInt(ParseIntError \x7b kind: PosOverflow \x7d)"
  | .unknownUnit => "Format"
  | .overflow => "Overflow"

end DurationError

namespace Duration

theorem nanosPerSecond_pos : 0 < nanosPerSecond := by decide

/-- Whole seconds. -/
def ofSeconds (n : Nat) (h : n < UInt64.size) : Duration := ⟨n, 0, h, nanosPerSecond_pos⟩

/-- No time. -/
def zero : Duration := ofSeconds 0 (by decide)

/-- Whole seconds, if they fit in 64 bits. -/
def ofSeconds? (n : Nat) : Except DurationError Duration :=
  if h : n < UInt64.size then .ok (ofSeconds n h) else .error .overflow

/-- A number of nanoseconds that fits in 64 bits of seconds. -/
def ofNanos? (n : Nat) : Except DurationError Duration :=
  if h : n / nanosPerSecond < UInt64.size then
    .ok ⟨n / nanosPerSecond, n % nanosPerSecond, h, Nat.mod_lt _ nanosPerSecond_pos⟩
  else .error .overflow

/-- Two spans together. -/
def add? (a b : Duration) : Except DurationError Duration :=
  ofNanos? ((a.seconds + b.seconds) * nanosPerSecond + (a.nanos + b.nanos))

/-! ## Text -/

/-- The groups of a text: numeric characters, then others. The first group may lack the former, the
last one the latter. -/
def groups : List Char → List (List Char × List Char)
  | [] => [([], [])]
  | c :: rest =>
    match groups rest with
    | [] => []
    | (number, unit) :: more =>
      if isNumeric c then (c :: number, unit) :: more
      else if number = [] then ([], c :: unit) :: more
      else ([], [c]) :: (number, unit) :: more

/-- The number that digits write; the first digit that is foreign or too many decides the failure. -/
def number? (digits : List Char) : Except DurationError Nat :=
  if digits = [] then .error .noNumber
  else digits.foldlM (fun n c =>
    if c.isDigit then
      let n := n * 10 + (c.toNat - '0'.toNat)
      if n < UInt64.size then .ok n else .error .numberTooLarge
    else .error .foreignDigit) 0

/-- The span of a group. -/
def ofGroup? (n : Nat) (unit : List Char) : Except DurationError Duration :=
  match String.ofList unit with
  | "ns" => ofNanos? n
  | "us" => ofNanos? (n * 1000)
  | "ms" => ofNanos? (n * 1000000)
  | "s" => ofSeconds? n
  | "m" => ofSeconds? (n * 60)
  | "h" => ofSeconds? (n * 3600)
  | "d" => ofSeconds? (n * 86400)
  | "w" => ofSeconds? (n * 604800)
  | "y" => ofSeconds? (n * 31556926)
  | _ => .error .unknownUnit

/-- Read a duration. -/
def parse? (text : String) : Except DurationError Duration :=
  (groups (text.toList.filter fun c => !isBlank c)).foldlM (fun total g => do
    total.add? (← ofGroup? (← number? g.1) g.2)) zero

end Duration

end HubSearch
