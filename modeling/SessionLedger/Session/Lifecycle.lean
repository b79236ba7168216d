import SessionLedger.Session.Lookup
/-! The life of a session: login, verification, rotation and logout. A rotation stores the new pair
before it revokes the old one; of several callers with one refresh token only the one whose revoke
removed the old pair keeps its new pair. -/
namespace SessionLedger.Session
open Token User

/-- A verified token: whom it is about and their profile. -/
structure Verified where
  identity : Subject
  user : Snapshot
  deriving DecidableEq, Repr

/-- An identity in JSON. -/
def identityToJson (identity : Subject) : Json.Value :=
  .object [("user_id", .int64 identity.user), ("access_uuid", .text identity.accessUuid),
    ("refresh_uuid", .text identity.refreshUuid)]

/-- A verified token in JSON. -/
def Verified.toJson (v : Verified) : Json.Value :=
  .object [("identity", identityToJson v.identity), ("user", v.user.toJson)]

/-- What a check of a password results in. A stored text that is no hash fits no password: to the
caller it is a wrong one. A comparison that could not be carried out is a failure of the service. -/
def admission : Except String Password.Verdict → Except SessionError Unit
  | .ok .fits => .ok ()
  | .ok .differs => .error .wrongPassword
  | .ok .unusable => .error .wrongPassword
  | .error text => .error (.internal text)

/-- Checks a password against a stored hash. -/
def checkPassword (password hash : String) : Task (Except SessionError Unit) := do
  return admission (← Task.accepts password hash)

namespace Issuer

/-- Revokes a pair that was never handed out; that may fail. -/
def discard (s : Issuer) (p : Pair) : Task Unit := do
  let _ ← s.revoke p.accessUuid p.refreshUuid

/-- Registers a fresh pair, and removes what was registered of it if that fails. -/
def registerFresh (s : Issuer) (p : Pair) : Task (Except SessionError Unit) := do
  match ← s.register p with
  | .ok () => return .ok ()
  | .error e =>
    s.discard p
    return .error (.registerFailed e)

/-- The profile for a fresh pair; the pair is discarded if there is none. -/
def profileFor (s : Issuer) (p : Pair) : Task (Except SessionError Snapshot) := do
  match ← s.profile p.user with
  | .ok snapshot => return .ok snapshot
  | .error e =>
    s.discard p
    return .error e

/-- Keeps the instant of a login and drops the cached profile; either may fail. -/
def noteLogin (s : Issuer) (user : Int64) : Task Unit := do
  let instant ← Program.orHalt (Time.Stamp.ofMillis? (← Task.clock))
  match ← s.askUsers (.recordLogin user instant) with
  | .ok () =>
    let _ ← s.dropProfile user
  | .error _ => return ()

/-- Issues a pair to a user who has proved who they are. -/
def openFor (s : Issuer) (user : Int64) : Task (Except SessionError Grant) := do
  let pair ← s.mint user
  match ← s.registerFresh pair with
  | .error e => return .error e
  | .ok () =>
    s.noteLogin user
    match ← s.profileFor pair with
    | .error e => return .error e
    | .ok snapshot => return .ok (pair.grant snapshot)

/-- Logs in by email and password. For an unknown email a decoy takes the effort of a comparison, so
that the time a login takes does not tell whether there is such a user. -/
def login (s : Issuer) (email password : String) : Task (Except SessionError Grant) := do
  if Text.isAllBlank email || password.isEmpty then return .error .missingCredentials
  else match ← s.askUsers (.findByEmail email) with
    | .error .notFound =>
      Task.decoy s.decoyCost
      return .error .unknownEmail
    | .error e => return .error (.directory e)
    | .ok user => match ← checkPassword password user.passwordHash with
      | .error e => return .error e
      | .ok () => s.openFor user.id

/-- Revokes the pair of an identity; a pair that is revoked already is revoked. -/
def logout (s : Issuer) (identity : Subject) : Task (Except SessionError Unit) := do
  match ← s.revoke identity.accessUuid identity.refreshUuid with
  | .ok _ => return .ok ()
  | .error e => return .error (.cache e)

/-- Cleans up after a user who no longer exists. -/
def forgetUser (s : Issuer) (claims : Claims) : Task Unit := do
  let _ ← s.revoke claims.accessUuid claims.refreshUuid
  let _ ← s.dropProfile claims.user

/-- Revokes the old pair of a rotation. If nothing of it was left, somebody else has rotated or
revoked it, and the new pair is dropped. -/
def retire (s : Issuer) (claims : Claims) (pair : Pair) (snapshot : Snapshot) :
    Task (Except SessionError Grant) := do
  match ← s.revoke claims.accessUuid claims.refreshUuid with
  | .ok 0 =>
    s.discard pair
    return .error (.refreshRejected .notRegistered)
  | .ok _ => return .ok (pair.grant snapshot)
  | .error e =>
    return .error (.rotationIncomplete (pair.grant snapshot) claims.accessUuid
      claims.refreshUuid e)

/-- Rotates the pair of a refresh token that has been verified. -/
def rotate (s : Issuer) (claims : Claims) : Task (Except SessionError Grant) := do
  match ← s.askUsers (.findById claims.user) with
  | .error .notFound =>
    s.forgetUser claims
    return .error (.refreshRejected .unknownUser)
  | .error e => return .error (.directory e)
  | .ok _ =>
    let pair ← s.mint claims.user
    match ← s.registerFresh pair with
    | .error e => return .error e
    | .ok () => match ← s.profileFor pair with
      | .error e => return .error e
      | .ok snapshot => s.retire claims pair snapshot

/-- Exchanges a refresh token for a new pair. -/
def refresh (s : Issuer) (token : String) : Task (Except SessionError Grant) := do
  if Text.isAllBlank token then return .error .missingCredentials
  else match ← s.checkToken token .refresh with
    | .error (.rejected reason) => return .error (.refreshRejected reason)
    | .error (.cache e) => return .error (.cache e)
    | .ok claims => s.rotate claims

/-- Resolves an access token to whom it is about and their profile. -/
def verify (s : Issuer) (token : String) : Task (Except SessionError Verified) := do
  if Text.isAllBlank token then return .error .missingCredentials
  else match ← s.checkToken token .access with
    | .error (.rejected reason) => return .error (.accessRejected reason)
    | .error (.cache e) => return .error (.cache e)
    | .ok claims => match ← s.profile claims.user with
      | .error e => return .error e
      | .ok user => return .ok ⟨⟨claims.user, claims.accessUuid, claims.refreshUuid⟩, user⟩

end Issuer

end SessionLedger.Session
