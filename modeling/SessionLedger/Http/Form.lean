import SessionLedger.Email.Address
import SessionLedger.Http.MediaType
import SessionLedger.Http.Message
import SessionLedger.Json.Record
/-! Forms: what the bodies of requests say. A body has to be declared as JSON, be short enough, and
hold the fields of the form; what follows the JSON value does not count. -/
namespace SessionLedger.Http
open Json

/-- Email and password. -/
structure LoginForm where
  email : String
  password : String
  deriving DecidableEq, Repr

namespace LoginForm

/-- The fields of the form. -/
inductive Field where
  | email | password
  deriving DecidableEq, Repr

/-- The name of a field. -/
def Field.name : Field → String
  | .email => "email"
  | .password => "password"

/-- How the form is read. -/
def layout : Layout Field where
  Value _ := String
  fields := [.email, .password]
  name := Field.name
  read _ := Reader.text
  absent _ := none
  mem_fields f := by cases f <;> decide

/-- Reads the form. -/
def reader : Reader LoginForm :=
  layout.reader fun get => ⟨get .email, get .password⟩

/-- The field is filled in well: the email is an address, the password is not empty. -/
def isValid (form : LoginForm) : Field → Bool
  | .email => Email.isAddress form.email
  | .password => !form.password.isEmpty

/-- The fields that are not filled in well. -/
def invalidFields (form : LoginForm) : List Field :=
  [.email, .password].filter fun f => !form.isValid f

end LoginForm

/-- A refresh token. -/
structure RefreshForm where
  refreshToken : String
  deriving DecidableEq, Repr

namespace RefreshForm

/-- The field of the form. -/
inductive Field where
  | refreshToken
  deriving DecidableEq, Repr

/-- How the form is read. -/
def layout : Layout Field where
  Value _ := String
  fields := [.refreshToken]
  name _ := "refresh_token"
  read _ := Reader.text
  absent _ := none
  mem_fields f := by cases f; decide

/-- Reads the form. -/
def reader : Reader RefreshForm :=
  layout.reader fun get => ⟨get .refreshToken⟩

end RefreshForm

/-- Why the body of a request is no form. -/
inductive BodyFault where
  | notDeclared
  | tooLong
  | grammar
  | shape
  deriving DecidableEq, Repr

/-- The status of the response. -/
def BodyFault.status : BodyFault → Nat
  | .notDeclared => 415
  | .tooLong => 413
  | .grammar => 400
  | .shape => 422

/-- The fault in words. -/
def BodyFault.message : BodyFault → String
  | .notDeclared => "Expected request with \x60Content-Type: application/json\x60"
  | .tooLong => "Failed to buffer the request body: length limit exceeded"
  | .grammar => "Failed to parse the request body as JSON"
  | .shape => "Failed to deserialize the JSON body into the target type"

/-- The response to a request whose body is no form. -/
def BodyFault.response (f : BodyFault) : Response :=
  .ofText f.status f.message

/-- The number of octets that a body may have. -/
def greatestBody : Nat := 2097152

/-- The form that a request holds. -/
def Request.form {α : Type} (r : Request) (reader : Reader α) : Except BodyFault α :=
  if !(r.visible? "content-type").any MediaType.isJson then .error .notDeclared
  else if greatestBody < r.body.length then .error .tooLong
  else match reader r.body with
    | .value form _ => .ok form
    | .fault .grammar _ => .error .grammar
    | .fault .shape _ => .error .shape

end SessionLedger.Http
