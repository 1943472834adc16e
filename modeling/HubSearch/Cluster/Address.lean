/-
Addresses of requests: a path, and perhaps a query after a question mark and a fragment after a number sign.
Names stand in an address as they are, so a name can make an address unsound or end its path. A request goes
to the path alone.
-/
import HubSearch.Cluster.Exchange

namespace HubSearch

namespace Address

/-- Whether a character may stand in a path. -/
def inPath (c : Char) : Bool := ' ' < c && c ∉ ['#', '<', '>', '?', '\x60', '\x7f']

/-- Whether a character may stand in a query. -/
def inQuery (c : Char) : Bool := ' ' < c && c ∉ ['"', '#', '<', '>', '\x7f']

/-- The path of an address. -/
def pathPart (cs : List Char) : List Char := cs.takeWhile fun c => c ≠ '?' && c ≠ '#'

/-- The query of an address. -/
def queryPart (cs : List Char) : List Char :=
  match cs.dropWhile fun c => c ≠ '?' && c ≠ '#' with
  | '?' :: rest => rest.takeWhile (· ≠ '#')
  | _ => []

/-- The most bytes of an address. -/
def maxSize : Nat := 65533

/-- The path that a request to an address goes to, or why there is none. -/
def path (address : String) : Except String String :=
  if maxSize < address.utf8ByteSize then .error "uri too long"
  else if (pathPart address.toList).all inPath && (queryPart address.toList).all inQuery then
    .ok (String.ofList (pathPart address.toList))
  else .error "invalid uri character"

end Address

/-- The request to an address, unless there is none. -/
def Request.to (method : Method) (address : String) (body : Option Json) : Except OperatorError Request :=
  match Address.path address with
  | .ok path => .ok ⟨method, path, body⟩
  | .error reason => .error (.unsendable ("failed to build request: " ++ reason))

end HubSearch
