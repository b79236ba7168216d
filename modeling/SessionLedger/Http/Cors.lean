import SessionLedger.Http.Message
import SessionLedger.Text.Blank
/-! Which pages of other origins may read responses: any, or those of a list of origins. Every
`OPTIONS` request is answered as a question about that. -/
namespace SessionLedger.Http.Cors
open Text

/-- The origins that are granted access. -/
inductive Policy where
  | permissive
  | listed (origins : List String)
  deriving DecidableEq, Repr

/-- The text may be the value of a header: it has no control characters but tabs. -/
def isHeaderValue (value : List Char) : Bool :=
  value.all fun c => (' ' ≤ c && c ≠ '\x7f') || c == '\t'

/-- The entries of a list of origins: its parts between commas, trimmed, without the blank ones
and those that cannot be the value of a header. -/
def entriesOf (setting : String) : List String :=
  (((pieces (· == ',') setting.toList).map trim).filter fun e =>
    !e.isEmpty && isHeaderValue e).map String.ofList

/-- The policy of a setting: without entries all origins are granted access. There is none where
one of the entries is a star. -/
def Policy.ofSetting? (setting : Option String) : Option Policy :=
  let origins := entriesOf (setting.getD "")
  if origins.isEmpty then some .permissive
  else if origins.contains "*" then none
  else some (.listed origins)

/-- The headers that a response depends on. -/
def vary : Header :=
  ("vary", "origin, access-control-request-method, access-control-request-headers")

/-- The header that grants access to the origin of a request. -/
def Policy.grant (p : Policy) (origin : Option String) : List Header :=
  match p, origin with
  | .permissive, _ => [("access-control-allow-origin", "*")]
  | .listed origins, some o =>
    if origins.contains o then [("access-control-allow-origin", o)] else []
  | .listed _, none => []

/-- The headers of a response to a request. -/
def Policy.headers (p : Policy) (r : Request) : List Header :=
  vary :: p.grant (r.header? "origin") ++
    match p with
    | .permissive => [("access-control-expose-headers", "*")]
    | .listed _ => []

/-- The methods that a page may use. -/
def Policy.methods : Policy → String
  | .permissive => "*"
  | .listed _ => "GET,POST"

/-- The headers of the response to a question about access. -/
def Policy.preflightHeaders (p : Policy) (r : Request) : List Header :=
  vary :: p.grant (r.header? "origin") ++
    [("access-control-allow-methods", p.methods), ("access-control-allow-headers", "*")]

end SessionLedger.Http.Cors
