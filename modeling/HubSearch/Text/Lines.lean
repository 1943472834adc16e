/-
The lines of a text. A line ends at a line feed, which does not belong to it, nor does a carriage
return right before the line feed; a text that ends in a line feed has no line after it.
-/

namespace HubSearch

/-- The lines of a text. -/
def lines : List Char → List (List Char)
  | [] => []
  | '\n' :: rest => [] :: lines rest
  | '\r' :: '\n' :: rest => [] :: lines rest
  | c :: rest =>
    match lines rest with
    | [] => [[c]]
    | line :: more => (c :: line) :: more

/-- Lines joined by line feeds, none after the last. -/
def joinLines (ls : List (List Char)) : List Char := List.intercalate ['\n'] ls

end HubSearch
