import SessionLedger.Json.Record
import SessionLedger.Json.Value
import SessionLedger.Time.Rfc3339
/-! The row that is kept of a user. In JSON it is written without the password hash, but read with
it. -/
namespace SessionLedger.User
open Json

/-- The row of a user. -/
structure Row where
  id : Int64
  firstName : String
  lastName : String
  email : String
  passwordHash : String
  phone : Option String
  profilePicture : Option String
  lastLogin : Option Time.Stamp
  isFirstLogin : Bool
  created : Time.Stamp
  updated : Time.Stamp
  deriving DecidableEq, Repr

/-- An instant in JSON. -/
def stampToJson (t : Time.Stamp) : Value :=
  .text (String.ofList (Time.Rfc3339.write t))

/-- Reads an instant. -/
def stampReader : Reader Time.Stamp :=
  .textAs fun t => Time.Rfc3339.read? t.toList

/-- The row of a user in JSON, without the password hash. -/
def Row.toJson (u : Row) : Value :=
  .object [("id", .int64 u.id), ("first_name", .text u.firstName), ("last_name", .text u.lastName),
    ("email", .text u.email), ("phone", .optional .text u.phone),
    ("profile_pic", .optional .text u.profilePicture),
    ("last_login_at", .optional stampToJson u.lastLogin), ("first_login", .bool u.isFirstLogin),
    ("created_at", stampToJson u.created), ("updated_at", stampToJson u.updated)]

namespace Row

/-- The fields of the row of a user. -/
inductive Field where
  | id | firstName | lastName | email | passwordHash | phone | profilePicture | lastLogin
  | isFirstLogin | created | updated
  deriving DecidableEq, Repr

/-- How the row of a user is read. -/
def layout : Layout Field where
  Value
    | .id => Int64
    | .firstName | .lastName | .email | .passwordHash => String
    | .phone | .profilePicture => Option String
    | .lastLogin => Option Time.Stamp
    | .isFirstLogin => Bool
    | .created | .updated => Time.Stamp
  fields := [.id, .firstName, .lastName, .email, .passwordHash, .phone, .profilePicture, .lastLogin,
    .isFirstLogin, .created, .updated]
  name
    | .id => "id"
    | .firstName => "first_name"
    | .lastName => "last_name"
    | .email => "email"
    | .passwordHash => "password_hash"
    | .phone => "phone"
    | .profilePicture => "profile_pic"
    | .lastLogin => "last_login_at"
    | .isFirstLogin => "first_login"
    | .created => "created_at"
    | .updated => "updated_at"
  read
    | .id => Reader.int64
    | .firstName | .lastName | .email | .passwordHash => Reader.text
    | .phone | .profilePicture => Reader.optional Reader.text
    | .lastLogin => Reader.optional stampReader
    | .isFirstLogin => Reader.bool
    | .created | .updated => stampReader
  absent
    | .phone | .profilePicture => some none
    | .lastLogin => some none
    | .id | .firstName | .lastName | .email | .passwordHash | .isFirstLogin | .created
    | .updated => none
  mem_fields f := by cases f <;> decide

/-- Reads the row of a user. -/
def reader : Reader Row :=
  layout.reader fun get =>
    ⟨get .id, get .firstName, get .lastName, get .email, get .passwordHash, get .phone,
      get .profilePicture, get .lastLogin, get .isFirstLogin, get .created, get .updated⟩

/-- The row that a text holds. -/
def decode? (text : String) : Option Row :=
  reader.whole (.ofText text)

end Row

end SessionLedger.User
