/-
Quoted texts for messages. Inside the quotes the quote, the backslash, tab, carriage return, line
feed and NUL are escaped by a letter; a character that shows no glyph of its own is escaped by its
code point.
-/
import HubSearch.Text.Extending
import HubSearch.Text.Glyphless

namespace HubSearch

/-- Whether a character shows no glyph of its own. -/
def isHidden (c : Char) : Bool := isGlyphless c || isExtending c

/-- How a character stands inside quotes. -/
def quotedChar (c : Char) : List Char :=
  if c = '"' then ['\\', '"']
  else if c = '\\' then ['\\', '\\']
  else if c = '\t' then ['\\', 't']
  else if c = '\r' then ['\\', 'r']
  else if c = '\n' then ['\\', 'n']
  else if c.toNat = 0 then ['\\', '0']
  else if isHidden c then ['\\', 'u', '\x7b'] ++ Nat.toDigits 16 c.toNat ++ ['\x7d']
  else [c]

/-- A text in quotes. -/
def quoted (s : String) : String := String.ofList ('"' :: (s.toList.flatMap quotedChar ++ ['"']))

end HubSearch
