import SessionLedger.Http.Failure
import SessionLedger.Http.Form
import SessionLedger.Session.Operation
/-! How requests are answered. A handler is a plan of session operations. -/
namespace SessionLedger.Http
open Session Text

/-- The version that a health report names. -/
def version : String := "0.1.0"

/-- What a health report says of a part: nothing but that it is there, or what is wrong. -/
def reportOf : Option String → String
  | none => "connected"
  | some error => "error: " ++ error

/-- Reports whether the database and the key-value store can be reached; `database` is what is
wrong with the former. -/
def health (database : Option User.DatabaseFault) : Plan Response := do
  let database := database.map fun fault => "Database health check failed: " ++ fault.message
  let cache := match ← Operation.cachePing.plan with
    | .ok () => none
    | .error (e : CacheFault) => some e.message
  let isHealthy := database.isNone && cache.isNone
  return .ofJson (if isHealthy then 200 else 503)
    (.object [("status", .text (if isHealthy then "healthy" else "unhealthy")),
      ("database", .text (reportOf database)), ("cache", .text (reportOf cache)),
      ("version", .text version)])

/-- Logs in. -/
def login (r : Request) : Plan Response := do
  match r.form LoginForm.reader with
  | .error fault => return fault.response
  | .ok form =>
    if form.invalidFields ≠ [] then
      return (Failure.invalidForm (form.invalidFields.map (·.name))).response
    else match ← (Operation.login form.email form.password).plan with
      | .ok (grant : Grant) => return .ofJson 200 grant.toJson
      | .error (e : SessionError) => return (Failure.ofSession e).response

/-- Exchanges a refresh token. A pair that is live is handed out even if the old one could not be
revoked; the old one expires on its own. -/
def refresh (r : Request) : Plan Response := do
  match r.form RefreshForm.reader with
  | .error fault => return fault.response
  | .ok form => match ← (Operation.refresh form.refreshToken).plan with
    | .ok (grant : Grant) => return .ofJson 200 grant.toJson
    | .error (.rotationIncomplete issued _ _ _) => return .ofJson 200 issued.toJson
    | .error (e : SessionError) => return (Failure.ofSession e).response

/-- The token that a request presents in its first authorization header: what follows the word
`Bearer`, in any case, and blanks. -/
def Request.token? (r : Request) : Option String := do
  let value := (← r.visible? "authorization").toList
  let scheme := "bearer".toList
  match value.drop scheme.length with
  | ' ' :: token =>
    if (value.take scheme.length).map Char.toLower = scheme then
      some (String.ofList (trimStart token))
    else none
  | _ => none

/-- Resolves the access token that a request presents. -/
def authenticate (r : Request) : Plan (Except Failure Verified) := do
  match r.token? with
  | none => return .error (.unauthorized "Authorization header with Bearer token required")
  | some token => match ← (Operation.verify token).plan with
    | .ok (verified : Verified) => return .ok verified
    | .error (e : SessionError) => return .error (.ofSession e)

/-- Tells whom an access token is about. -/
def verify (r : Request) : Plan Response := do
  match ← authenticate r with
  | .ok verified => return .ofJson 200 verified.toJson
  | .error e => return e.response

/-- Revokes the pair of an access token. -/
def logout (r : Request) : Plan Response := do
  match ← authenticate r with
  | .error e => return e.response
  | .ok verified => match ← (Operation.logout verified.identity).plan with
    | .ok () => return .ofJson 200 (.object [("message", .text "Successfully logged out")])
    | .error (e : SessionError) => return (Failure.ofSession e).response

end SessionLedger.Http
