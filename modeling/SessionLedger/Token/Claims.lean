import SessionLedger.Json.Content
import SessionLedger.Json.Record
import SessionLedger.Token.Kind
/-! What a token says: the user, the identifiers of the pair it belongs to, its kind and the
seconds of its issue and its expiry. -/
namespace SessionLedger.Token
open Json

/-- What a token is about: a user and the identifiers of the two tokens of a pair. -/
structure Subject where
  user : Int64
  accessUuid : String
  refreshUuid : String
  deriving DecidableEq, Repr

/-- The claims of a token; times are whole seconds since the start of 1970. -/
structure Claims where
  user : Int64
  accessUuid : String
  refreshUuid : String
  issuedAt : Int64
  expiry : Int64
  kind : Kind
  deriving DecidableEq, Repr

/-- The identifier under which a token of that kind is registered. -/
def Claims.uuid (c : Claims) : Kind → String
  | .access => c.accessUuid
  | .refresh => c.refreshUuid

/-- The claims in JSON. -/
def Claims.toJson (c : Claims) : Json.Value :=
  .object [("uid", .int64 c.user), ("aid", .text c.accessUuid), ("rid", .text c.refreshUuid),
    ("iat", .int64 c.issuedAt), ("exp", .int64 c.expiry), ("typ", c.kind.toJson)]

namespace Claims

/-- The fields of claims. -/
inductive Field where
  | user | accessUuid | refreshUuid | issuedAt | expiry | kind
  deriving DecidableEq, Repr

/-- How claims are read. -/
def layout : Layout Field where
  Value
    | .user | .issuedAt | .expiry => Int64
    | .accessUuid | .refreshUuid => String
    | .kind => Kind
  fields := [.user, .accessUuid, .refreshUuid, .issuedAt, .expiry, .kind]
  name
    | .user => "uid"
    | .accessUuid => "aid"
    | .refreshUuid => "rid"
    | .issuedAt => "iat"
    | .expiry => "exp"
    | .kind => "typ"
  read
    | .user | .issuedAt | .expiry => Reader.int64
    | .accessUuid | .refreshUuid => Reader.text
    | .kind => Kind.reader
  absent _ := none
  mem_fields f := by cases f <;> decide

/-- Reads claims. -/
def reader : Reader Claims :=
  layout.reader fun get =>
    ⟨get .user, get .accessUuid, get .refreshUuid, get .issuedAt, get .expiry, get .kind⟩

end Claims

/-! ## Registered claims -/

/-- The claims with a registered meaning that are looked at beside a token's own. -/
structure RegisteredClaims where
  /-- The expiry is a number that is not negative. -/
  hasExpiry : Bool
  /-- The token is meant for an audience: a string or a list of strings. -/
  hasAudience : Bool
  deriving DecidableEq, Repr

namespace RegisteredClaims

/-- The registered claims. -/
inductive Field where
  | expiry | notBefore | subject | issuer | audience
  deriving DecidableEq, Repr

/-- How deep the value of a registered claim may be nested. -/
def depth : Nat := 126

/-- A value that is not null, kept for its shape; a value at fault counts as none. -/
def anything : Reader (Option Content) := fun s =>
  match (Reader.optional (Content.read depth)).tolerate s with
  | .value content rest => .value content.join rest
  | .fault f rest => .fault f rest

/-- The number is an integer that is not negative. -/
def isDate : Option Number → Bool
  | some (.integer i) => 0 ≤ i
  | _ => false

/-- The value names one recipient or several. -/
def isAudience : Option Content → Bool
  | some content => content.text?.isSome || content.texts?.isSome
  | none => false

/-- How registered claims are read: a value of a wrong shape counts as missing. -/
def layout : Layout Field where
  Value
    | .expiry | .notBefore => Option Number
    | .subject => Option (Option String)
    | .issuer | .audience => Option Content
  fields := [.expiry, .notBefore, .subject, .issuer, .audience]
  name
    | .expiry => "exp"
    | .notBefore => "nbf"
    | .subject => "sub"
    | .issuer => "iss"
    | .audience => "aud"
  read
    | .expiry | .notBefore => Reader.number.tolerate
    | .subject => (Reader.optional Reader.text).tolerate
    | .issuer | .audience => anything
  absent
    | .expiry | .notBefore => some none
    | .subject => some none
    | .issuer | .audience => some none
  mem_fields f := by cases f <;> decide

/-- Reads the registered claims. -/
def reader : Reader RegisteredClaims :=
  layout.reader fun get => ⟨isDate (get .expiry), isAudience (get .audience)⟩

end RegisteredClaims

end SessionLedger.Token
