import SessionLedger.Digest.Hmac
import SessionLedger.Encoding.Base64
import SessionLedger.Text.Split
import SessionLedger.Time.Stamp
import SessionLedger.Token.Claims
import SessionLedger.Token.Header
/-! Signing tokens and checking them. A token is three parts joined by points: header, claims and
signature, each in base 64; the signature is the keyed digest of the text of the first two parts
under the secret of the token's kind. -/
namespace SessionLedger.Token
open Encoding Text

/-- Why a token has not the form of a token. -/
inductive Malformation where
  /-- A part is no base 64. -/
  | base64
  /-- A part is no JSON of the shape it should have. -/
  | json
  /-- There are fewer than three parts. -/
  | missingParts
  /-- The token is meant for an audience. -/
  | hasAudience
  /-- The expiry is negative. -/
  | missingExpiry
  /-- The user is not positive. -/
  | missingUser
  /-- One of the identifiers is empty. -/
  | missingUuid
  /-- Another cause, described in words. -/
  | described (text : String)
  deriving DecidableEq, Repr

/-- The cause in words. -/
def Malformation.message : Malformation → String
  | .base64 => "Base64 error"
  | .json => "JSON error"
  | .missingParts => "InvalidToken"
  | .hasAudience => "InvalidAudience"
  | .missingExpiry => "Missing required claim: exp"
  | .missingUser => "missing user id"
  | .missingUuid => "missing token uuid"
  | .described text => text

/-- Why a token could not be signed or was refused. -/
inductive SignerFault where
  | encodingFailed (text : String)
  | invalidSignature
  | expired
  | malformed (cause : Malformation)
  | wrongKind
  deriving DecidableEq, Repr

/-- The error in words. -/
def SignerFault.message : SignerFault → String
  | .encodingFailed text => "Token encoding failed: " ++ text
  | .invalidSignature => "Invalid token signature"
  | .expired => "Token expired"
  | .malformed cause => "Malformed token: " ++ cause.message
  | .wrongKind => "Token kind mismatch"

/-- The secrets of the two kinds. -/
structure Signer where
  accessSecret : String
  refreshSecret : String

/-- The secret of a kind. -/
def Signer.secret (σ : Signer) : Kind → String
  | .access => σ.accessSecret
  | .refresh => σ.refreshSecret

/-- A token together with the claims it carries. -/
structure Signed where
  token : String
  claims : Claims
  deriving DecidableEq, Repr

/-- The written form of octets in a token. -/
def part (bs : List UInt8) : List Char :=
  Base64.encode Base64.urlSafe bs

/-- The written form of a JSON value in a token. -/
def jsonPart (v : Json.Value) : List Char :=
  part (Utf8.encode v.compact)

/-- The signature of a text under a secret. -/
def signature (secret : String) (message : List Char) : List Char :=
  part (Digest.Hmac.code (Utf8.encode secret) (Utf8.encode (String.ofList message)))

/-- The token that carries claims under a secret. -/
def sign (secret : String) (claims : Claims) : String :=
  let message := jsonPart Header.issued ++ '.' :: jsonPart claims.toJson
  String.ofList (message ++ '.' :: signature secret message)

/-! ## Issuing -/

/-- The claims of a token issued at an instant to live for a span of time, both in nanoseconds;
there are none where the instant of expiry lies outside the calendar. Fractions of a second are
dropped from both instants. -/
def claimsFor? (instant : Nat) (span : Int) (kind : Kind) (subject : Subject) : Option Claims :=
  let second : Int := (instant + span) / 1000000000
  if Time.IsStampSecond second then
    some ⟨subject.user, subject.accessUuid, subject.refreshUuid,
      Int64.ofInt (instant / 1000000000 : Nat), Int64.ofInt second, kind⟩
  else none

/-- Issues a token of a kind at an instant to live for a span of time, both in nanoseconds. -/
def Signer.issueFor? (σ : Signer) (instant : Nat) (kind : Kind) (subject : Subject) (span : Int) :
    Option Signed :=
  (claimsFor? instant span kind subject).map fun claims => ⟨sign (σ.secret kind) claims, claims⟩

/-- Issues a token of a kind at `now`, in milliseconds, to live for `ttl` seconds. -/
def Signer.issue? (σ : Signer) (now : Nat) (kind : Kind) (subject : Subject) (ttl : Int) :
    Option Signed :=
  σ.issueFor? (1000000 * now) kind subject (1000000000 * ttl)

/-! ## Checking -/

/-- The header, claims and signature of a text, which stand between its last two points and
around them. -/
def parts? (token : String) : Option (List Char × List Char × List Char) := do
  let (message, signature) ← splitLast? '.' token.toList
  let (header, payload) ← splitLast? '.' message
  return (header, payload, signature)

/-- The octets of a part. -/
def octetsOf (written : List Char) : Except SignerFault (List UInt8) :=
  match Base64.decode? Base64.urlSafe written with
  | some bs => .ok bs
  | none => .error (.malformed .base64)

/-- What octets say in JSON. -/
def jsonOf {α : Type} (reader : Json.Reader α) (bs : List UInt8) : Except SignerFault α :=
  match reader.whole bs with
  | some a => .ok a
  | none => .error (.malformed .json)

/-- Checks the header and the signature, in this order. -/
def checkSignature (secret : String) (header payload written : List Char) :
    Except SignerFault Unit := do
  let algorithm ← jsonOf Header.reader (← octetsOf header)
  if algorithm ≠ .hs256 then throw .invalidSignature
  if signature secret (header ++ '.' :: payload) ≠ written then throw .invalidSignature

/-- Checks that claims hold at a second, and that they are for nobody else. -/
def checkValidity (now : Int) (claims : Claims) (registered : RegisteredClaims) :
    Except SignerFault Unit := do
  if !registered.hasExpiry then throw (.malformed .missingExpiry)
  if claims.expiry.toInt < now then throw .expired
  if registered.hasAudience then throw (.malformed .hasAudience)

/-- Checks that claims are of a kind and complete. -/
def checkComplete (kind : Kind) (claims : Claims) : Except SignerFault Unit := do
  if claims.kind ≠ kind then throw .wrongKind
  if claims.user ≤ 0 then throw (.malformed .missingUser)
  if claims.accessUuid.isEmpty || claims.refreshUuid.isEmpty then throw (.malformed .missingUuid)

/-- The claims of a token of a kind at an instant in milliseconds. The signature is checked before
the claims are looked at. -/
def Signer.claimsOf (σ : Signer) (now : Nat) (token : String) (kind : Kind) :
    Except SignerFault Claims := do
  match parts? token with
  | none => throw (.malformed .missingParts)
  | some (header, payload, written) =>
    checkSignature (σ.secret kind) header payload written
    let bs ← octetsOf payload
    let claims ← jsonOf Claims.reader bs
    checkValidity (now / 1000 : Nat) claims (← jsonOf RegisteredClaims.reader bs)
    checkComplete kind claims
    return claims

end SessionLedger.Token
