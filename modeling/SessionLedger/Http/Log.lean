import SessionLedger.Http.Message
import SessionLedger.Text.Blank
/-! What is logged of a request: its method, its path without the query, the address of the client,
and the status of the response. -/
namespace SessionLedger.Http.Log
open Text

/-- How much an event matters. -/
inductive Level where
  | debug
  | info
  | warning
  | error
  deriving DecidableEq, Repr

/-- An event: what happened, and details under names. -/
structure Event where
  level : Level
  message : String
  fields : List (String × String)
  deriving DecidableEq, Repr

/-- The first of the addresses that proxies have noted. -/
def forwardedFor? (value : String) : Option String :=
  let first := trim (value.toList.takeWhile (· ≠ ','))
  if first.isEmpty then none else some (String.ofList first)

/-- The address of the client as proxies have noted it. -/
def client? (r : Request) : Option String :=
  ((r.visible? "x-forwarded-for").bind forwardedFor?).or (r.visible? "x-real-ip")

/-- A visible character in a quoted text. -/
def escape (c : Char) : List Char :=
  if c = '"' ∨ c = '\\' then ['\\', c] else if c = '\t' then ['\\', 't'] else [c]

/-- An address that may be missing, as it is logged. -/
def writeClient : Option String → String
  | none => "None"
  | some address =>
    String.ofList ("Some(\"".toList ++ address.toList.flatMap escape ++ "\")".toList)

/-- The event at the start of a request. -/
def started (r : Request) : Event :=
  ⟨.debug, "Request started",
    [("method", r.method), ("route", r.path), ("client_ip", writeClient (client? r))]⟩

/-- The event at the end of a request. -/
def ended (r : Request) (status : Nat) : Event :=
  let (level, message) :=
    if 500 ≤ status then (Level.error, "Request failed")
    else if 400 ≤ status then (Level.warning, "Request rejected")
    else (Level.info, "Request completed")
  ⟨level, message,
    [("method", r.method), ("route", r.path), ("status", String.ofList (Nat.toDigits 10 status))]⟩

end SessionLedger.Http.Log
