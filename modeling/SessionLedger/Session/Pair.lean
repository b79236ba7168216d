import SessionLedger.Session.Cache
import SessionLedger.Session.Issuer
/-! Pairs of tokens and the ledger that registers them. A token is accepted only if its signature
is valid and its identifier is registered to the user that it names. -/
namespace SessionLedger.Session
open Token

/-- An access token and a refresh token issued together; both carry both identifiers. Expiries are
whole seconds since the start of 1970. -/
structure Pair where
  user : Int64
  accessToken : String
  refreshToken : String
  accessUuid : String
  refreshUuid : String
  accessExpiry : Int64
  refreshExpiry : Int64
  deriving DecidableEq, Repr

/-- The pair together with the profile of its user. -/
def Pair.grant (p : Pair) (user : User.Snapshot) : Grant :=
  ⟨p.accessToken, p.refreshToken, p.accessExpiry, p.refreshExpiry, user⟩

namespace Issuer

/-- The pair for a user with given identifiers, issued at an instant; there is none where an
expiry lies outside the calendar. -/
def pairAt? (s : Issuer) (now : Nat) (subject : Subject) : Option Pair := do
  let access ← s.signer.issue? now .access subject s.accessTtl
  let refresh ← s.signer.issue? now .refresh subject s.refreshTtl
  return ⟨subject.user, access.token, refresh.token, subject.accessUuid, subject.refreshUuid,
    access.claims.expiry, refresh.claims.expiry⟩

/-- Mints a fresh pair for a user. The access identifier is drawn first. Minting is one instant: the
clock is read once for both tokens, as nothing is waited for in between. The ledger is not asked. -/
def mint (s : Issuer) (user : Int64) : Task Pair := do
  let accessUuid ← Task.uuid
  let refreshUuid ← Task.uuid
  Program.orHalt (s.pairAt? (← Task.clock) ⟨user, accessUuid, refreshUuid⟩)

/-- The seconds until an expiry, never zero, since an entry without a lifetime is kept for good;
none where the difference has no 64 bits. -/
def remaining? (expiry : Int64) (now : Nat) : Option Nat :=
  (Text.Decimal.int64? (expiry.toInt - (now / 1000 : Nat))).map fun d => (max d.toInt 1).toNat

/-- Registers both identifiers of a pair to its user, each for the rest of the life of its token.
Fails if either write fails. -/
def register (s : Issuer) (p : Pair) : Task (Except CacheFault Unit) := do
  let now ← Task.clock
  let owner := Text.Decimal.ofInt64 p.user
  let accessTtl ← Program.orHalt (remaining? p.accessExpiry now)
  match ← Cache.set s.cacheLimit (s.tokenKey .access p.accessUuid) owner accessTtl with
  | .error e => return .error e
  | .ok () =>
    let refreshTtl ← Program.orHalt (remaining? p.refreshExpiry now)
    Cache.set s.cacheLimit (s.tokenKey .refresh p.refreshUuid) owner refreshTtl

/-- Removes both identifiers of a pair from the ledger and counts those that were registered. -/
def revoke (s : Issuer) (accessUuid refreshUuid : String) : Task (Except CacheFault Nat) :=
  Cache.delete s.cacheLimit (s.pairKeys accessUuid refreshUuid)

/-- Checks the signature, the expiry, the registration and the owner of a token. -/
def checkToken (s : Issuer) (token : String) (kind : Kind) :
    Task (Except CheckError Claims) := do
  match s.signer.claimsOf (← Task.clock) token kind with
  | .error e => return .error (.rejected (.ofSigner e))
  | .ok claims => match ← Cache.get s.cacheLimit (s.tokenKey kind (claims.uuid kind)) with
    | .error .notFound => return .error (.rejected .notRegistered)
    | .error e => return .error (.cache e)
    | .ok owner =>
      if Text.Decimal.signed64? owner = some claims.user then return .ok claims
      else return .error (.rejected .userMismatch)

end Issuer

end SessionLedger.Session
