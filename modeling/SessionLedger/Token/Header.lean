import SessionLedger.Json.Record
import SessionLedger.Json.Value
import SessionLedger.Token.PublicKey
/-! The header of a token, which names the algorithm of its signature. -/
namespace SessionLedger.Token
open Json

/-- An algorithm of signatures: the one in use, or another known one. -/
inductive Algorithm where
  | hs256
  | other (name : String)
  deriving DecidableEq, Repr

/-- The known algorithms apart from the one in use. -/
def Algorithm.others : List String :=
  ["HS384", "HS512", "ES256", "ES384", "RS256", "RS384", "RS512", "PS256", "PS384", "PS512",
   "EdDSA"]

/-- The algorithm of that name. -/
def Algorithm.ofName? (name : String) : Option Algorithm :=
  if name = "HS256" then some .hs256
  else if Algorithm.others.contains name then some (.other name)
  else none

namespace Header

/-- The header of every token that is issued. -/
def issued : Json.Value :=
  .object [("typ", .text "JWT"), ("alg", .text "HS256")]

/-- The fields of a header. -/
inductive Field where
  | type | algorithm | contentType | keySetUrl | key | keyId | certificateUrl | certificates
  | thumbprint | thumbprint256
  deriving DecidableEq, Repr

/-- How deep a key may be nested. -/
def keyDepth : Nat := 126

/-- How a header is read; only the algorithm has to be there. -/
def layout : Layout Field where
  Value
    | .algorithm => Algorithm
    | .key => Option Unit
    | .certificates => Option (List String)
    | _ => Option String
  fields := [.type, .algorithm, .contentType, .keySetUrl, .key, .keyId, .certificateUrl,
    .certificates, .thumbprint, .thumbprint256]
  name
    | .type => "typ"
    | .algorithm => "alg"
    | .contentType => "cty"
    | .keySetUrl => "jku"
    | .key => "jwk"
    | .keyId => "kid"
    | .certificateUrl => "x5u"
    | .certificates => "x5c"
    | .thumbprint => "x5t"
    | .thumbprint256 => "x5t#S256"
  read
    | .algorithm => Reader.choice Algorithm.ofName?
    | .key => Reader.optional (PublicKey.reader keyDepth)
    | .certificates => Reader.optional (Reader.list Reader.text)
    | .type | .contentType | .keySetUrl | .keyId | .certificateUrl | .thumbprint
    | .thumbprint256 => Reader.optional Reader.text
  absent
    | .algorithm => none
    | .key => some none
    | .certificates => some none
    | .type | .contentType | .keySetUrl | .keyId | .certificateUrl | .thumbprint
    | .thumbprint256 => some none
  mem_fields f := by cases f <;> decide

/-- Reads the algorithm that a header names. -/
def reader : Reader Algorithm :=
  layout.reader fun get => get .algorithm

end Header

end SessionLedger.Token
