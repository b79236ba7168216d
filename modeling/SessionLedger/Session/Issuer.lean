import SessionLedger.Lifetime
import SessionLedger.Token.Signer
/-! What a session service is made of: the secrets and lifetimes of its tokens, the prefixes of its
keys, and the limits of its calls in milliseconds. -/
namespace SessionLedger.Session
open Token

/-- The settings of a service. Lifetimes are in seconds, limits in milliseconds. -/
structure Issuer where
  signer : Signer
  accessTtl : Int
  refreshTtl : Int
  accessPrefix : String
  refreshPrefix : String
  userPrefix : String
  /-- The limit of a call to the key-value store. -/
  cacheLimit : Nat
  /-- The limit of a call to the store of users. -/
  usersLimit : Nat
  /-- The time a whole login, logout, refresh or verification may take. -/
  requestLimit : Nat
  /-- The cost of the hash that a password for an unknown email seems to be compared with. -/
  decoyCost : Nat

namespace Issuer

/-- The lifetime of a kind of token. -/
def ttl (s : Issuer) : Kind → Int
  | .access => s.accessTtl
  | .refresh => s.refreshTtl

/-- The key under which an identifier of a kind of token is registered. -/
def tokenKey (s : Issuer) : Kind → String → String
  | .access, uuid => s.accessPrefix ++ uuid
  | .refresh, uuid => s.refreshPrefix ++ uuid

/-- The key under which the snapshot of a user is cached. -/
def profileKey (s : Issuer) (user : Int64) : String :=
  s.userPrefix ++ Text.Decimal.ofInt64 user

/-- The keys of the two identifiers of a pair. -/
def pairKeys (s : Issuer) (accessUuid refreshUuid : String) : List String :=
  [s.tokenKey .access accessUuid, s.tokenKey .refresh refreshUuid]

end Issuer

end SessionLedger.Session
