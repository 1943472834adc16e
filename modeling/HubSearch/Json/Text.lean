/-
The compact text of a JSON value: no blanks, the pairs of an object in the order in which they are
kept, and in strings only the quote, the backslash and the control characters below U+0020 escaped.
-/
import HubSearch.Json.Basic

namespace HubSearch

/-! ## Numbers -/

/-- The decimal digits of a natural number. -/
def decimalDigits (n : Nat) : List Char := Nat.toDigits 10 n

/-- An integer in decimal notation. -/
def integerChars : Int → List Char
  | .ofNat n => decimalDigits n
  | .negSucc n => '-' :: decimalDigits (n + 1)

/-- An integer in decimal notation that always has a sign. -/
def signedChars (i : Int) : List Char := if i < 0 then integerChars i else '+' :: integerChars i

namespace JsonNumber

/-- A decimal is written positionally when its point stands among its first sixteen places or at
most four zeros follow the point; otherwise with an exponent. It always shows that it is no integer. -/
def decimalChars (digits : Nat) (exponent : Int) : List Char :=
  let ds := decimalDigits digits
  let point : Int := ds.length + exponent
  if digits = 0 then "0.0".toList
  else if 0 ≤ exponent ∧ point ≤ 16 then
    ds ++ List.replicate exponent.toNat '0' ++ ".0".toList
  else if 0 < point ∧ point ≤ 16 then
    ds.take point.toNat ++ '.' :: ds.drop point.toNat
  else if -5 < point ∧ point ≤ 0 then
    "0.".toList ++ List.replicate (-point).toNat '0' ++ ds
  else
    match ds with
    | [] => []
    | [d] => d :: 'e' :: signedChars (point - 1)
    | d :: rest => d :: '.' :: rest ++ 'e' :: signedChars (point - 1)

/-- The text of a number. -/
def chars : JsonNumber → List Char
  | .int i => integerChars i
  | .decimal isNegative digits exponent => (if isNegative then ['-'] else []) ++ decimalChars digits exponent

end JsonNumber

/-! ## Values -/

namespace Json

/-- A hexadecimal digit in lower case. -/
def hexDigit (n : Nat) : Char := "0123456789abcdef".toList.getD n '0'

/-- How a character stands inside a string. -/
def escapedChar (c : Char) : List Char :=
  if c = '"' then ['\\', '"']
  else if c = '\\' then ['\\', '\\']
  else if c = '\x08' then ['\\', 'b']
  else if c = '\t' then ['\\', 't']
  else if c = '\n' then ['\\', 'n']
  else if c = '\x0c' then ['\\', 'f']
  else if c = '\r' then ['\\', 'r']
  else if c.toNat < 0x20 then ['\\', 'u', '0', '0', hexDigit (c.toNat / 16), hexDigit (c.toNat % 16)]
  else [c]

/-- A quoted string. -/
def quotedChars (s : String) : List Char := '"' :: (s.toList.flatMap escapedChar ++ ['"'])

mutual

/-- The characters of a value. -/
def chars : Json → List Char
  | .null => "null".toList
  | .bool true => "true".toList
  | .bool false => "false".toList
  | .number n => n.chars
  | .string s => quotedChars s
  | .array items => '[' :: (itemsChars items ++ [']'])
  | .object fields => '\x7b' :: (fieldsChars fields ++ ['\x7d'])

/-- The characters of the items, with commas between them. -/
def itemsChars : List Json → List Char
  | [] => []
  | [j] => chars j
  | j :: k :: rest => chars j ++ ',' :: itemsChars (k :: rest)

/-- The characters of the pairs, with commas between them. -/
def fieldsChars : List (String × Json) → List Char
  | [] => []
  | [(key, j)] => quotedChars key ++ ':' :: chars j
  | (key, j) :: e :: rest => quotedChars key ++ ':' :: (chars j ++ ',' :: fieldsChars (e :: rest))

end

/-- The compact text of a value. -/
def text (j : Json) : String := String.ofList j.chars

end Json

end HubSearch
