/-
Base64 texts in their canonical form: groups of four bytes of the alphabet, padding only at the end of the
last group, and no stray bits before the padding. Main operation: `fault?` says what is wrong with a text.
-/

namespace HubSearch.Base64

/-- What is wrong with a text that is not the written form of some bytes. -/
inductive Fault where
  /-- A byte that may not stand at its place. -/
  | badByte (byte : UInt8) (offset : Nat)
  /-- The text ends inside a byte. -/
  | badLength (length : Nat)
  /-- A last byte with stray bits. -/
  | strayBits (byte : UInt8) (offset : Nat)
  | badPadding
  deriving DecidableEq, Inhabited

/-- The wording of a fault. -/
def Fault.message : Fault → String
  | .badByte byte offset =>
    "Invalid symbol " ++ toString byte.toNat ++ ", offset " ++ toString offset ++ "."
  | .badLength length => "Invalid input length: " ++ toString length
  | .strayBits byte offset =>
    "Invalid last symbol " ++ toString byte.toNat ++ ", offset " ++ toString offset ++ "."
  | .badPadding => "Invalid padding"

/-- The six bits of a character of the alphabet. -/
def bits? (c : Char) : Option Nat :=
  if 'A' ≤ c ∧ c ≤ 'Z' then some (c.toNat - 'A'.toNat)
  else if 'a' ≤ c ∧ c ≤ 'z' then some (c.toNat - 'a'.toNat + 26)
  else if '0' ≤ c ∧ c ≤ '9' then some (c.toNat - '0'.toNat + 52)
  else if c = '+' then some 62
  else if c = '/' then some 63
  else none

/-- The six bits of a byte of the alphabet. -/
def byteBits? (b : UInt8) : Option Nat := bits? (Char.ofNat b.toNat)

/-- The byte of the padding. -/
def pad : UInt8 := UInt8.ofNat '='.toNat

/-- The first byte that is not in the alphabet. -/
def strangeByte? (offset : Nat) : List UInt8 → Option Fault
  | [] => none
  | b :: rest => if (byteBits? b).isNone then some (.badByte b offset) else strangeByte? (offset + 1) rest

/-- The stray bits in the last byte of a group of two or three. -/
def strayBits? (offset : Nat) (symbols : List UInt8) : Option Fault := do
  let last ← symbols.getLast?
  let bits ← byteBits? last
  if (symbols.length = 2 ∧ bits % 16 ≠ 0) ∨ (symbols.length = 3 ∧ bits % 4 ≠ 0) then
    some (.strayBits last (offset + symbols.length - 1))
  else none

/-- What is wrong with the last group, which begins at an offset. -/
def lastGroupFault? (offset : Nat) (group : List UInt8) : Option Fault :=
  let symbols := group.takeWhile (· ≠ pad)
  let padding := group.drop symbols.length
  match strangeByte? offset symbols with
  | some f => some f
  | none =>
    if padding ≠ [] ∧ (symbols.length < 2 ∨ padding.any (· ≠ pad)) then
      some (.badByte pad (offset + symbols.length))
    else if group ≠ [] ∧ symbols.length < 2 then some (.badLength (offset + symbols.length))
    else if group.length % 4 ≠ 0 then some .badPadding
    else strayBits? offset symbols

/-- The last byte of a text with a byte too many, if it is neither in the alphabet nor padding. -/
def strangeEnd? (bytes : List UInt8) : Option Fault := do
  let last ← bytes.getLast?
  if bytes.length % 4 = 1 ∧ last ≠ pad ∧ (byteBits? last).isNone then some (.badByte last (bytes.length - 1))
  else none

/-- What is wrong with a text, if it is not the written form of some bytes. -/
def fault? (bytes : List UInt8) : Option Fault :=
  let start := (bytes.length - 1) / 4 * 4
  ((strangeEnd? bytes).or (strangeByte? 0 (bytes.take start))).or (lastGroupFault? start (bytes.drop start))

/-- What is wrong with a text, in words. -/
def wrong? (text : String) : Option String := (fault? text.toUTF8.data.toList).map Fault.message

end HubSearch.Base64
