/-
Exchanges with the API server of a cluster: a request names a method and a path and may carry a body,
and a response has a code and a text. A response that refuses carries a record that says why; when it does
not, the record is made up from the code and the text.
-/
import HubSearch.Error
import HubSearch.Json.Codec

namespace HubSearch

/-- The methods of requests. -/
inductive Method where
  | get
  | post
  | put
  | patch
  | delete
  deriving DecidableEq, Inhabited

/-- The word for a method. -/
def Method.word : Method → String
  | .get => "GET"
  | .post => "POST"
  | .put => "PUT"
  | .patch => "PATCH"
  | .delete => "DELETE"

/-- A request. -/
structure Request where
  method : Method
  /-- The path, which begins with a slash. -/
  path : String
  body : Option Json := none
  deriving DecidableEq, Inhabited

/-- A response. -/
structure Response where
  code : UInt16
  body : String
  deriving DecidableEq, Inhabited

/-- What carries requests to a server and keeps a state: given a state and a request, the response and
the next state. -/
abbrev Exchange (σ : Type) := σ → Request → Response × σ

/-! ## Refusals -/

/-- Status and code must be there, and no field may come again. -/
instance : Decode ApiRefusal := .strict "struct ErrorResponse" <|
  ApiRefusal.mk <$> .required "status"
    <*> .leftOut "message" ""
    <*> .leftOut "reason" ""
    <*> .required "code"

/-- The phrase that goes with a code that refuses. -/
def reasonPhrase? : Nat → Option String
  | 400 => "Bad Request"
  | 401 => "Unauthorized"
  | 402 => "Payment Required"
  | 403 => "Forbidden"
  | 404 => "Not Found"
  | 405 => "Method Not Allowed"
  | 406 => "Not Acceptable"
  | 407 => "Proxy Authentication Required"
  | 408 => "Request Timeout"
  | 409 => "Conflict"
  | 410 => "Gone"
  | 411 => "Length Required"
  | 412 => "Precondition Failed"
  | 413 => "Payload Too Large"
  | 414 => "URI Too Long"
  | 415 => "Unsupported Media Type"
  | 416 => "Range Not Satisfiable"
  | 417 => "Expectation Failed"
  | 418 => "I'm a teapot"
  | 421 => "Misdirected Request"
  | 422 => "Unprocessable Entity"
  | 423 => "Locked"
  | 424 => "Failed Dependency"
  | 425 => "Too Early"
  | 426 => "Upgrade Required"
  | 428 => "Precondition Required"
  | 429 => "Too Many Requests"
  | 431 => "Request Header Fields Too Large"
  | 451 => "Unavailable For Legal Reasons"
  | 500 => "Internal Server Error"
  | 501 => "Not Implemented"
  | 502 => "Bad Gateway"
  | 503 => "Service Unavailable"
  | 504 => "Gateway Timeout"
  | 505 => "HTTP Version Not Supported"
  | 506 => "Variant Also Negotiates"
  | 507 => "Insufficient Storage"
  | 508 => "Loop Detected"
  | 510 => "Not Extended"
  | 511 => "Network Authentication Required"
  | _ => none

namespace Response

/-- Whether the code says that the request was refused. -/
def isRefusal (r : Response) : Bool := 400 ≤ r.code.toNat && r.code.toNat < 600

/-- Why a request was refused: what the body says, or the code and the quoted body when that is no such
record. -/
def refusal (r : Response) : ApiRefusal :=
  match readText ApiRefusal r.body with
  | .ok refusal => refusal
  | .error _ => {
      status := toString r.code.toNat ++ " " ++ (reasonPhrase? r.code.toNat).getD "<unknown status code>"
      message := quoted r.body
      reason := "Failed to parse error data"
      code := r.code }

end Response

end HubSearch
