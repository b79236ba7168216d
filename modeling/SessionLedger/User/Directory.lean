import SessionLedger.User.Snapshot
/-! The store of users: rows looked up by email or identifier, and the record of the last login. It
can be switched into faults, one for each kind of call, and it counts its calls. -/
namespace SessionLedger.User

/-- What the database reports. -/
inductive DatabaseFault where
  | rowNotFound
  | poolTimedOut
  | poolClosed
  | workerCrashed
  | columnNotFound (name : String)
  | protocol (text : String)
  deriving DecidableEq, Repr

/-- The report in words. -/
def DatabaseFault.message : DatabaseFault → String
  | .rowNotFound => "no rows returned by a query that expected to return at least one row"
  | .poolTimedOut => "pool timed out while waiting for an open connection"
  | .poolClosed => "attempted to acquire a connection on a closed pool"
  | .workerCrashed => "attempted to communicate with a crashed background worker"
  | .columnNotFound name => "no column found for name: " ++ name
  | .protocol text => "encountered unexpected or invalid data: " ++ text

/-- Why a call to the store of users fails. -/
inductive DirectoryError where
  | notFound
  | timeout
  | database (text : String)
  deriving DecidableEq, Repr

/-- The error in words. -/
def DirectoryError.message : DirectoryError → String
  | .notFound => "User not found"
  | .timeout => "User store timed out"
  | .database text => "Database error: " ++ text

/-- A missing row is a missing user; any other report is passed on in words. -/
def DirectoryError.ofFault : DatabaseFault → DirectoryError
  | .rowNotFound => .notFound
  | fault => .database fault.message

/-- The kinds of call. -/
inductive Method where
  | findByEmail
  | findById
  | project
  | recordLogin
  deriving DecidableEq, Repr

namespace Directory

/-- What the store of users is asked. -/
inductive Call where
  | findByEmail (email : String)
  | findById (id : Int64)
  | project (id : Int64)
  /-- Keep the instant of a login. -/
  | recordLogin (id : Int64) (instant : Time.Stamp)
  deriving DecidableEq, Repr

/-- The kind of a call. -/
def Call.method : Call → Method
  | .findByEmail _ => .findByEmail
  | .findById _ => .findById
  | .project _ => .project
  | .recordLogin .. => .recordLogin

/-- What the store of users answers. -/
abbrev Call.Answer : Call → Type
  | .findByEmail _ => Row
  | .findById _ => Row
  | .project _ => Projection
  | .recordLogin .. => Unit

end Directory

/-- A row together with what it is joined with. -/
structure Account where
  user : Row
  companyId : Option Int64
  companyName : Option String
  businessId : Option Int64
  businessName : Option String
  permissions : Option String
  isAdmin : Bool
  deriving DecidableEq, Repr

/-- The projection of an account. -/
def Account.projection (a : Account) : Projection where
  id := a.user.id
  firstName := a.user.firstName
  lastName := a.user.lastName
  email := a.user.email
  phone := a.user.phone
  profilePicture := a.user.profilePicture
  companyId := a.companyId
  companyName := a.companyName
  businessId := a.businessId
  businessName := a.businessName
  permissions := a.permissions
  isAdmin := a.isAdmin
  isFirstLogin := a.user.isFirstLogin
  lastLogin := a.user.lastLogin

/-- The account after a login. -/
def Account.loggedIn (a : Account) (instant : Time.Stamp) : Account :=
  { a with user := { a.user with lastLogin := some instant, isFirstLogin := false } }

/-- The accounts in ascending order of their identifiers, the faults, and the number of calls. -/
structure Directory where
  accounts : List Account := []
  fault : Method → Option DirectoryError := fun _ => none
  calls : Method → Nat := fun _ => 0
  latency : Nat := 0

namespace Directory

/-- The account of an identifier. -/
def find? (d : Directory) (id : Int64) : Option Account :=
  d.accounts.find? fun a => a.user.id == id

/-- Puts an account into ascending order. -/
def place (a : Account) : List Account → List Account
  | [] => [a]
  | b :: rest =>
    if a.user.id < b.user.id then a :: b :: rest
    else if a.user.id = b.user.id then a :: rest
    else b :: place a rest

/-- Keeps an account in place of the one with the same identifier. -/
def insert (d : Directory) (a : Account) : Directory :=
  { d with accounts := place a d.accounts }

/-- Removes the account of an identifier. -/
def remove (d : Directory) (id : Int64) : Directory :=
  { d with accounts := d.accounts.filter fun a => a.user.id != id }

/-- Sets or lifts the fault of a kind of call. -/
def setFault (d : Directory) (m : Method) (fault : Option DirectoryError) : Directory :=
  { d with fault := fun n => if n = m then fault else d.fault n }

/-- Counts a call. -/
def count (d : Directory) (m : Method) : Directory :=
  { d with calls := fun n => if n = m then d.calls n + 1 else d.calls n }

/-- What a value that may be missing answers. -/
def found {α : Type} : Option α → Except DirectoryError α
  | some a => .ok a
  | none => .error .notFound

/-- Answers a call that meets no fault. Of several rows with one email the one with the smallest
identifier is found. -/
def answerSound (d : Directory) : (c : Call) → Directory × Except DirectoryError c.Answer
  | .findByEmail email =>
    (d, found ((d.accounts.find? fun a => a.user.email == email).map (·.user)))
  | .findById id => (d, found ((d.find? id).map (·.user)))
  | .project id => (d, found ((d.find? id).map (·.projection)))
  | .recordLogin id instant => match d.find? id with
    | some a => (d.insert (a.loggedIn instant), .ok ())
    | none => (d, .error .notFound)

/-- Answers a call: it is counted, and it fails if there is a fault for its kind. -/
def answer (d : Directory) (c : Call) : Directory × Except DirectoryError c.Answer :=
  let d := d.count c.method
  match d.fault c.method with
  | some e => (d, .error e)
  | none => d.answerSound c

end Directory

end SessionLedger.User
