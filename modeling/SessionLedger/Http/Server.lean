import SessionLedger.Http.Cors
import SessionLedger.Http.Endpoint
import SessionLedger.Http.Log
/-! Which handler answers a request, by path and method, and what is added to its response. -/
namespace SessionLedger.Http
open Session

/-- What is served. -/
inductive Route where
  | health
  | login
  | logout
  | refresh
  | verify
  deriving DecidableEq, Repr

namespace Route

/-- All routes. -/
def all : List Route := [.health, .login, .logout, .refresh, .verify]

/-- The path of a route. -/
def path : Route → String
  | .health => "/health"
  | .login => "/v1/login"
  | .logout => "/v1/logout"
  | .refresh => "/v1/token/refresh"
  | .verify => "/v1/token/verify"

/-- The route of a path. -/
def ofPath? (path : String) : Option Route :=
  all.find? fun route => route.path == path

/-- The methods of a route. Who may ask for a response may ask for its headers alone. -/
def methods : Route → List String
  | .health | .verify => ["GET", "HEAD"]
  | .login | .logout | .refresh => ["POST"]

/-- The header that names the methods of a route. -/
def allow (route : Route) : Header :=
  ("allow", ",".intercalate route.methods)

end Route

/-- What a server is set up with: who may read its responses, and what is wrong with its
database. -/
structure Server where
  policy : Cors.Policy
  database : Option User.DatabaseFault := none

namespace Server

/-- The handler of a route. -/
def handler (s : Server) (r : Request) : Route → Plan Response
  | .health => health s.database
  | .login => login r
  | .logout => logout r
  | .refresh => refresh r
  | .verify => verify r

/-- Answers a request by its path and method. -/
def dispatch (s : Server) (r : Request) : Plan Response :=
  match Route.ofPath? r.path with
  | none => return { status := 404 }
  | some route =>
    if route.methods.contains r.method then do
      let response ← s.handler r route
      return if r.method = "HEAD" then response.withoutBody else response
    else return { status := 405, headers := [route.allow] }

/-- Answers a question about access by pages of other origins. -/
def preflight (s : Server) (r : Request) : Response where
  status := 200
  headers := s.policy.preflightHeaders r ++ (Route.ofPath? r.path).toList.map Route.allow

/-- Answers a request and tells what is logged of it. -/
def respond (s : Server) (r : Request) : Plan (Response × List Log.Event) := do
  if r.method = "OPTIONS" then return (s.preflight r, [])
  else
    let response ← s.dispatch r
    return (response.addHeaders (s.policy.headers r),
      [Log.started r, Log.ended r response.status])

end Server

end SessionLedger.Http
