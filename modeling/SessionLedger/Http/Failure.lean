import SessionLedger.Http.Message
import SessionLedger.Session.Error
/-! Errors as a client sees them. All failures to prove who the caller is look alike, and so do all
failures of the service itself: neither tells its cause. -/
namespace SessionLedger.Http
open Session

/-- An error that is shown to a client. -/
inductive Failure where
  | badRequest (text : String)
  | unauthorized (text : String)
  | internal (text : String)
  | invalid (text : String)
  /-- Some fields of a form are not valid. -/
  | invalidForm (fields : List String)
  deriving DecidableEq, Repr

namespace Failure

/-- The code of an error. -/
def code : Failure → String
  | .badRequest _ => "BAD_REQUEST"
  | .unauthorized _ => "UNAUTHORIZED"
  | .internal _ => "INTERNAL_ERROR"
  | .invalid _ | .invalidForm _ => "VALIDATION_ERROR"

/-- The status of the response. -/
def status : Failure → Nat
  | .badRequest _ | .invalid _ | .invalidForm _ => 400
  | .unauthorized _ => 401
  | .internal _ => 500

/-- The error in words. -/
def message : Failure → String
  | .badRequest text => "Bad request: " ++ text
  | .unauthorized text => "Unauthorized: " ++ text
  | .internal text => "Internal server error: " ++ text
  | .invalid text => "Validation error: " ++ text
  | .invalidForm fields => "Validation error: " ++ ", ".intercalate fields

/-- What the response says about the error: which fields are not valid, or the error in words. -/
def detail : Failure → Json.Value
  | .invalidForm fields => .object [("validation", .list (fields.map .text))]
  | e => .text e.message

/-- The error in JSON. -/
def toJson (e : Failure) : Json.Value :=
  .object [("error", .object [("code", .text e.code), ("message", e.detail)])]

/-- The response to a request that fails. -/
def response (e : Failure) : Response :=
  .ofJson e.status e.toJson

/-- The error that tells nothing but that the caller has not proved who they are. -/
def invalidCredentials : Failure :=
  .unauthorized "invalid credentials"

/-- The error that a session operation fails with. A session whose user is gone is no session. -/
def ofSession (e : SessionError) : Failure :=
  if e.isCallersFault then invalidCredentials
  else match e with
    | .missingCredentials => .badRequest "missing credentials"
    | .directory .notFound => invalidCredentials
    | _ => .internal "authentication unavailable"

end Failure

end SessionLedger.Http
