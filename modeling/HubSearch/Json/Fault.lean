/-
Why a JSON text cannot be read: what is wrong, and where. A place in a text is a line, counted from one, and
a number of bytes of that line, which lie before the place.
-/
import HubSearch.Json.Text
import HubSearch.Text.Quoted

namespace HubSearch

/-! ## Places -/

/-- A place in a text. -/
structure Place where
  line : Nat := 1
  column : Nat := 0
  deriving DecidableEq, Inhabited

namespace Place

/-- The place so many bytes further on in the line. -/
def onward (p : Place) (bytes : Nat) : Place := { p with column := p.column + bytes }

/-- The start of the next line. -/
def nextLine (p : Place) : Place := ⟨p.line + 1, 0⟩

/-- The place behind a character. -/
def after (p : Place) (c : Char) : Place := if c = '\n' then p.nextLine else p.onward c.utf8Size

/-- The place behind the first byte of a character. -/
def afterByte (p : Place) (c : Char) : Place := if c = '\n' then p.nextLine else p.onward 1

end Place

/-! ## Causes -/

/-- What stands in a text where something else is wanted. -/
inductive Found where
  | null
  | bool (value : Bool)
  | number (value : JsonNumber)
  | string (value : String)
  | array
  | object
  deriving DecidableEq, Inhabited

/-- How messages call what stands in a text. -/
def Found.text : Found → String
  | .null => "null"
  | .bool true => "boolean `true`"
  | .bool false => "boolean `false`"
  | .number (.int i) => "integer `" ++ toString i ++ "`"
  | .number n => "floating point `" ++ String.ofList n.chars ++ "`"
  | .string s => "string " ++ quoted s
  | .array => "sequence"
  | .object => "map"

/-- What is wrong with a text. -/
inductive FaultCause where
  /-- The text ends inside a list, an object or a string, or where a value should stand. -/
  | endInList
  | endInObject
  | endInString
  | endInValue
  | colonWanted
  | listEndWanted
  | objectEndWanted
  /-- A word other than `null`, `true` and `false`. -/
  | wordWanted
  | valueWanted
  | badEscape
  | badNumber
  | numberOutOfRange
  | controlCharacter
  | keyIsNoString
  /-- Half a surrogate pair, before something that is no escape or after another half. -/
  | unfinishedPair
  | loneSurrogate
  | trailingComma
  | trailingCharacters
  | nestedTooDeep
  | wrongType (found : Found) (expected : String)
  | wrongValue (found : Found) (expected : String)
  | wrongLength (length : Nat) (expected : String)
  | missingField (key : String)
  | repeatedField (key : String)
  | unknownWord (word : String) (known : List String)
  /-- A cause in words of its own. -/
  | other (text : String)
  deriving DecidableEq, Inhabited

namespace FaultCause

/-- The words that may stand, in backquotes. -/
def oneOf : List String → String
  | [] => ""
  | [a] => "`" ++ a ++ "`"
  | [a, b] => "`" ++ a ++ "` or `" ++ b ++ "`"
  | words => "one of " ++ ", ".intercalate (words.map fun a => "`" ++ a ++ "`")

/-- The wording of a cause. -/
def message : FaultCause → String
  | .endInList => "EOF while parsing a list"
  | .endInObject => "EOF while parsing an object"
  | .endInString => "EOF while parsing a string"
  | .endInValue => "EOF while parsing a value"
  | .colonWanted => "expected `:`"
  | .listEndWanted => "expected `,` or `]`"
  | .objectEndWanted => "expected `,` or `\x7d`"
  | .wordWanted => "expected ident"
  | .valueWanted => "expected value"
  | .badEscape => "invalid escape"
  | .badNumber => "invalid number"
  | .numberOutOfRange => "number out of range"
  | .controlCharacter => "control character (\\u0000-\\u001F) found while parsing a string"
  | .keyIsNoString => "key must be a string"
  | .unfinishedPair => "unexpected end of hex escape"
  | .loneSurrogate => "lone leading surrogate in hex escape"
  | .trailingComma => "trailing comma"
  | .trailingCharacters => "trailing characters"
  | .nestedTooDeep => "recursion limit exceeded"
  | .wrongType found expected => "invalid type: " ++ found.text ++ ", expected " ++ expected
  | .wrongValue found expected => "invalid value: " ++ found.text ++ ", expected " ++ expected
  | .wrongLength length expected => "invalid length " ++ toString length ++ ", expected " ++ expected
  | .missingField key => "missing field `" ++ key ++ "`"
  | .repeatedField key => "duplicate field `" ++ key ++ "`"
  | .unknownWord word known => "unknown variant `" ++ word ++ "`, expected " ++ oneOf known
  | .other text => text

end FaultCause

/-! ## Faults -/

/-- A cause and its place, if it is known. -/
structure ReadFault where
  cause : FaultCause
  place : Option Place := none
  deriving DecidableEq, Inhabited

namespace ReadFault

/-- The mark before the line of a place, in a message. -/
def lineMark : String := " at line "

/-- The mark before the column of a place, in a message. -/
def columnMark : String := " column "

/-- The wording of a fault. -/
def message (f : ReadFault) : String :=
  match f.place with
  | some p => f.cause.message ++ lineMark ++ toString p.line ++ columnMark ++ toString p.column
  | none => f.cause.message

/-- What lies before and after the last occurrence of a mark. -/
def lastSplit? (mark : List Char) : List Char → Option (List Char × List Char)
  | [] => none
  | c :: rest =>
    match lastSplit? mark rest with
    | some (before, after) => some (c :: before, after)
    | none => if mark.isPrefixOf (c :: rest) then some ([], (c :: rest).drop mark.length) else none

/-- The number of 64 bits that digits write. -/
def number? (digits : List Char) : Option Nat := do
  guard (digits ≠ [] ∧ digits.all Char.isDigit)
  let n := digits.foldl (fun n d => n * 10 + (d.toNat - '0'.toNat)) 0
  guard (n < UInt64.size)
  pure n

/-- The cause and the place in a message that ends in a place. -/
def placed? (message : List Char) : Option (List Char × Place) := do
  let (cause, rest) ← lastSplit? lineMark.toList message
  let (digits, rest) := (rest.takeWhile Char.isDigit, rest.dropWhile Char.isDigit)
  guard (columnMark.toList.isPrefixOf rest)
  pure (cause, ⟨← number? digits, ← number? (rest.drop columnMark.length)⟩)

/-- The fault that a message tells. A place in line zero is unknown. -/
def ofMessage (message : String) : ReadFault :=
  match placed? message.toList with
  | some (cause, place) => ⟨.other (String.ofList cause), if place.line = 0 then none else some place⟩
  | none => ⟨.other message, none⟩

end ReadFault

end HubSearch
