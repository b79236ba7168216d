import SessionLedger.Token.Signer
import SessionLedger.User.Directory
/-! Why session operations fail. An error tells the cause, and its message is made from it; an
authentication failure is one in which the caller failed to prove who they are, as opposed to the
service failing to find out. -/
namespace SessionLedger.Session
open Token User

/-- Why a call to the cache fails. -/
inductive CacheFault where
  | notFound
  | timeout
  | unavailable (reason : String)
  /-- The value is not what was asked for. What is wrong with it is not kept: the message ends
  without it. -/
  | serialization
  deriving DecidableEq, Repr

/-- The error in words. -/
def CacheFault.message : CacheFault → String
  | .notFound => "Key not found"
  | .timeout => "Cache operation timed out"
  | .unavailable reason => "Cache unavailable: " ++ reason
  | .serialization => "Cache value could not be (de)serialized"

/-- Why a presented token is refused. -/
inductive Rejection where
  | signatureInvalid
  | expired
  | malformed
  | notRegistered
  | userMismatch
  | unknownUser
  deriving DecidableEq, Repr

/-- The error in words. -/
def Rejection.message : Rejection → String
  | .signatureInvalid => "signature invalid"
  | .expired => "token expired"
  | .malformed => "token malformed"
  | .notRegistered => "token not registered"
  | .userMismatch => "token user mismatch"
  | .unknownUser => "token user no longer exists"

/-- A signature of the wrong kind is an invalid one. -/
def Rejection.ofSigner : SignerFault → Rejection
  | .invalidSignature | .wrongKind => .signatureInvalid
  | .expired => .expired
  | .malformed _ | .encodingFailed _ => .malformed

/-- Why a token is not accepted: it is refused, or the ledger could not be asked. -/
inductive CheckError where
  | rejected (reason : Rejection)
  | cache (cause : CacheFault)
  deriving DecidableEq, Repr

/-- The error in words. -/
def CheckError.message : CheckError → String
  | .rejected reason => "Credential rejected: " ++ reason.message
  | .cache cause => "Credential cache error: " ++ cause.message

/-- The tokens of a pair, their expiries, and the profile of their user: what a login or a refresh
gives to the caller. -/
structure Grant where
  accessToken : String
  refreshToken : String
  accessExpiry : Int64
  refreshExpiry : Int64
  user : Snapshot
  deriving DecidableEq, Repr

/-- A grant in JSON. -/
def Grant.toJson (g : Grant) : Json.Value :=
  .object [("access_token", .text g.accessToken), ("refresh_token", .text g.refreshToken),
    ("token_type", .text "Bearer"), ("expires_in", .int64 g.accessExpiry),
    ("refresh_expires_in", .int64 g.refreshExpiry), ("user", g.user.toJson)]

/-- Why a session operation fails. -/
inductive SessionError where
  | missingCredentials
  | unknownEmail
  | wrongPassword
  | accessRejected (reason : Rejection)
  | refreshRejected (reason : Rejection)
  | mintFailed (cause : SignerFault)
  | registerFailed (cause : CacheFault)
  | cache (cause : CacheFault)
  | directory (cause : DirectoryError)
  /-- The new pair is live, but the old one could not be revoked. -/
  | rotationIncomplete (issued : Grant) (staleAccessUuid staleRefreshUuid : String)
      (cause : CacheFault)
  | deadlineExceeded
  | internal (text : String)
  deriving DecidableEq, Repr

/-- The error in words. -/
def SessionError.message : SessionError → String
  | .missingCredentials => "Missing credentials"
  | .unknownEmail => "Unknown email"
  | .wrongPassword => "Wrong password"
  | .accessRejected reason => "Invalid access token: " ++ reason.message
  | .refreshRejected reason => "Invalid refresh token: " ++ reason.message
  | .mintFailed cause => "Failed to create token pair: " ++ cause.message
  | .registerFailed cause => "Failed to store token pair: " ++ cause.message
  | .cache cause => "Credential cache error: " ++ cause.message
  | .directory cause => "User store error: " ++ cause.message
  | .rotationIncomplete _ _ _ cause => "Token rotation incomplete: " ++ cause.message
  | .deadlineExceeded => "Session operation exceeded its deadline"
  | .internal text => "Internal error: " ++ text

/-- The caller failed to prove who they are. -/
def SessionError.isCallersFault : SessionError → Bool
  | .unknownEmail | .wrongPassword | .accessRejected _ | .refreshRejected _ => true
  | _ => false

end SessionLedger.Session
