import SessionLedger.Json.Value
/-! Requests and responses. Headers are pairs of a name and a value; names are compared without
regard to case, and of several headers with one name the first counts. -/
namespace SessionLedger.Http

/-- A name and a value. -/
abbrev Header := String × String

/-- A request; the target is a path, and a query may follow it. -/
structure Request where
  method : String
  target : String
  headers : List Header := []
  body : List UInt8 := []

/-- The target up to a query or a fragment. -/
def Request.path (r : Request) : String :=
  String.ofList (r.target.toList.takeWhile fun c => c ≠ '?' && c ≠ '#')

/-- The value of the first header with a name. -/
def Request.header? (r : Request) (name : String) : Option String :=
  (r.headers.find? fun h => h.1.toLower == name).map (·.2)

/-- The text has only visible ASCII characters, spaces and tabs. -/
def isVisible (value : String) : Bool :=
  value.toList.all fun c => (' ' ≤ c && c ≤ '~') || c == '\t'

/-- The characters of the first header with a name, if all of them are visible. -/
def Request.visible? (r : Request) (name : String) : Option String :=
  (r.header? name).filter isVisible

/-- What a response holds. -/
inductive Body where
  | empty
  | json (v : Json.Value)
  | text (s : String)

/-- A response. -/
structure Response where
  status : Nat
  headers : List Header := []
  body : Body := .empty

namespace Response

/-- A response that holds a JSON value. -/
def ofJson (status : Nat) (v : Json.Value) : Response :=
  ⟨status, [("content-type", "application/json")], .json v⟩

/-- A response that holds a text. -/
def ofText (status : Nat) (s : String) : Response :=
  ⟨status, [("content-type", "text/plain; charset=utf-8")], .text s⟩

/-- The response with further headers. -/
def addHeaders (r : Response) (headers : List Header) : Response :=
  { r with headers := r.headers ++ headers }

/-- The response without what it holds; its headers stay. -/
def withoutBody (r : Response) : Response :=
  { r with body := .empty }

end Response

end SessionLedger.Http
