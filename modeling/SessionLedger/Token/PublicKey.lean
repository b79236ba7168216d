import SessionLedger.Json.Content
/-! A key described in the header of a token. It plays no part in the check of a signature, but a
header with an ill-formed one is no header. The members common to all keys are optional; the
others have to fit one family of keys. -/
namespace SessionLedger.Token.PublicKey
open Json

/-- What a member may hold: a string, a list of strings, or one of a closed set of names. -/
inductive Shape where
  | text
  | texts
  | oneOf (names : List String)

/-- The value has that shape. A name of a closed set may also be given as an object whose only
member has that name and the value null. -/
def Shape.holds : Shape → Content → Bool
  | .text, v => v.text?.isSome
  | .texts, v => v.texts?.isSome
  | .oneOf names, .text s => names.contains s
  | .oneOf names, .object [(name, .null)] => names.contains name
  | .oneOf _, _ => false

/-- The value is null. -/
def isNull : Content → Bool
  | .null => true
  | _ => false

/-- The algorithms that a key may be meant for. -/
def keyAlgorithms : List String :=
  ["HS256", "HS384", "HS512", "ES256", "ES384", "RS256", "RS384", "RS512", "PS256", "PS384",
   "PS512", "EdDSA", "RSA1_5", "RSA-OAEP", "RSA-OAEP-256"]

/-- The members common to all keys. -/
def commonMembers : List (String × Shape) :=
  [("use", .text), ("key_ops", .texts), ("alg", .oneOf keyAlgorithms), ("kid", .text),
   ("x5u", .text), ("x5c", .texts), ("x5t", .text), ("x5t#S256", .text)]

/-- The curves of a key. -/
def curves : Shape :=
  .oneOf ["P-256", "P-384", "P-521", "Ed25519"]

/-- The members of each family of keys. -/
def families : List (List (String × Shape)) :=
  [[("kty", .oneOf ["EC"]), ("crv", curves), ("x", .text), ("y", .text)],
   [("kty", .oneOf ["RSA"]), ("n", .text), ("e", .text)],
   [("kty", .oneOf ["oct"]), ("k", .text)],
   [("kty", .oneOf ["OKP"]), ("crv", curves), ("x", .text)]]

/-- The values given under a name. -/
def valuesOf (members : List (String × Content)) (name : String) : List Content :=
  (members.filter (·.1 == name)).map (·.2)

/-- The member is missing, null, or given once and well-formed. -/
def isCommon (members : List (String × Content)) : String × Shape → Bool
  | (name, shape) => match valuesOf members name with
    | [] => true
    | [v] => isNull v || shape.holds v
    | _ => false

/-- The member is given once and well-formed. -/
def isGiven (members : List (String × Content)) : String × Shape → Bool
  | (name, shape) => match valuesOf members name with
    | [v] => shape.holds v
    | _ => false

/-- The members describe a key. -/
def isKey (members : List (String × Content)) : Bool :=
  commonMembers.all (isCommon members) && families.any fun family => family.all (isGiven members)

/-- Reads a key nested to at most the given depth. -/
def reader (depth : Nat) : Reader Unit := fun s =>
  match skipBlanks s with
  | [] => .fault .grammar []
  | b :: rest =>
    if b = openObject then
      (Content.read depth).bind (fun content =>
        if content.members?.any isKey then .pure () else .fail .shape) (b :: rest)
    else Reader.mismatch (b :: rest)

end SessionLedger.Token.PublicKey
