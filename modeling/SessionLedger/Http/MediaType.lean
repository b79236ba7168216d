import SessionLedger.Text.Split
/-! Media types: a type and a subtype around a slash, and parameters after semicolons. -/
namespace SessionLedger.Http.MediaType
open Text

/-- A character of a name or of a value without quotes. -/
def isTokenChar (c : Char) : Bool :=
  c.isAlphanum || "!#$%&-.^_\x60".toList.contains c

/-- Where the reading of parameters stands. -/
inductive Stage where
  | nameStart
  | name
  | valueStart
  | value
  | quotedStart
  | quoted
  | afterQuoted
  deriving DecidableEq, Repr

/-- The stage after one more character; there is none where it is out of place. -/
def Stage.next? : Stage → Char → Option Stage
  | .nameStart, c =>
    if c = ' ' then some .nameStart else if isTokenChar c then some .name else none
  | .name, c => if c = '=' then some .valueStart else if isTokenChar c then some .name else none
  | .valueStart, c =>
    if c = '"' then some .quotedStart else if isTokenChar c then some .value else none
  | .value, c => if c = ';' then some .nameStart else if isTokenChar c then some .value else none
  | .quotedStart, c => if ' ' ≤ c ∧ c ≤ '~' then some .quoted else none
  | .quoted, c =>
    if c = '"' then some .afterQuoted else if ' ' ≤ c ∧ c ≤ '~' then some .quoted else none
  | .afterQuoted, c =>
    if c = ';' then some .nameStart else if c = ' ' then some .afterQuoted else none

/-- Parameters may end at that stage. -/
def Stage.mayEnd : Stage → Bool
  | .nameStart | .valueStart | .value | .afterQuoted => true
  | .name | .quotedStart | .quoted => false

/-- The characters are parameters, read on from a stage. -/
def areParameters : Stage → List Char → Bool
  | stage, [] => stage.mayEnd
  | stage, c :: rest => match stage.next? c with
    | some stage => areParameters stage rest
    | none => false

/-- The characters are nothing, or parameters after a semicolon. -/
def areOptionalParameters : List Char → Bool
  | [] => true
  | c :: rest => c == ';' && areParameters .nameStart rest

/-- The type and the subtype of a well-formed media type. -/
def parts? (value : String) : Option (List Char × List Char) := do
  let (type, rest) ← splitFirst? '/' value.toList
  let (subtype, rest) := rest.span fun c => isTokenChar c || c == '+'
  if type.isEmpty || !type.all isTokenChar then none
  if subtype.head? = some '+' || (subtype.isEmpty && !rest.isEmpty) then none
  if !areOptionalParameters rest then none
  return (type, subtype)

/-- The subtype is `json`, before or after its last plus sign. -/
def isJsonSubtype (subtype : String) : Bool :=
  subtype == "json" || match splitLast? '+' subtype.toList with
    | some (base, suffix) => String.ofList base == "json" || String.ofList suffix == "json"
    | none => false

/-- The media type is one of JSON. -/
def isJson (value : String) : Bool :=
  (parts? value).any fun (type, subtype) =>
    (String.ofList type).toLower == "application" && isJsonSubtype (String.ofList subtype).toLower

end SessionLedger.Http.MediaType
