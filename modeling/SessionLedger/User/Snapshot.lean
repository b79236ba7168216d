import SessionLedger.Text.Blank
import SessionLedger.User.Row
/-! The projection that joins the row of a user with company, business and role, and the snapshot of
it that is cached and shown. -/
namespace SessionLedger.User
open Json

/-- A user joined with company, business and role; permissions are one text, separated by
commas. -/
structure Projection where
  id : Int64
  firstName : String
  lastName : String
  email : String
  phone : Option String
  profilePicture : Option String
  companyId : Option Int64
  companyName : Option String
  businessId : Option Int64
  businessName : Option String
  permissions : Option String
  isAdmin : Bool
  isFirstLogin : Bool
  lastLogin : Option Time.Stamp
  deriving DecidableEq, Repr

/-- What is cached and shown of a user. -/
structure Snapshot where
  id : Int64
  firstName : String
  lastName : String
  email : String
  phone : Option String
  profilePicture : Option String
  companyId : Option Int64
  companyName : Option String
  businessId : Option Int64
  businessName : Option String
  permissions : List String
  isAdmin : Bool
  isFirstLogin : Bool
  lastLogin : Option Time.Stamp
  deriving DecidableEq, Repr

/-! ## Permissions -/

/-- The permissions that a text names: its parts between commas, trimmed, without the blank
ones. -/
def permissionsOf (text : String) : List String :=
  (((Text.pieces (· == ',') text.toList).map Text.trim).filter (!·.isEmpty)).map String.ofList

/-- The snapshot of a projection. -/
def Snapshot.ofProjection (p : Projection) : Snapshot where
  id := p.id
  firstName := p.firstName
  lastName := p.lastName
  email := p.email
  phone := p.phone
  profilePicture := p.profilePicture
  companyId := p.companyId
  companyName := p.companyName
  businessId := p.businessId
  businessName := p.businessName
  permissions := permissionsOf (p.permissions.getD "")
  isAdmin := p.isAdmin
  isFirstLogin := p.isFirstLogin
  lastLogin := p.lastLogin

/-- An administrator has every permission, anybody else those listed. -/
def Snapshot.permits (s : Snapshot) (permission : String) : Bool :=
  s.isAdmin || s.permissions.contains permission

/-! ## JSON -/

/-- A snapshot in JSON. -/
def Snapshot.toJson (s : Snapshot) : Value :=
  .object [("id", .int64 s.id), ("first_name", .text s.firstName), ("last_name", .text s.lastName),
    ("email", .text s.email), ("phone", .optional .text s.phone),
    ("profile_pic", .optional .text s.profilePicture),
    ("company_id", .optional .int64 s.companyId), ("company_name", .optional .text s.companyName),
    ("business_id", .optional .int64 s.businessId),
    ("business_name", .optional .text s.businessName),
    ("permissions", .list (s.permissions.map .text)), ("admin", .bool s.isAdmin),
    ("first_login", .bool s.isFirstLogin), ("last_login_at", .optional stampToJson s.lastLogin)]

/-- The text of a snapshot as it is cached. -/
def Snapshot.encode (s : Snapshot) : String :=
  s.toJson.compact

namespace Snapshot

/-- The fields of a snapshot. -/
inductive Field where
  | id | firstName | lastName | email | phone | profilePicture | companyId | companyName
  | businessId | businessName | permissions | isAdmin | isFirstLogin | lastLogin
  deriving DecidableEq, Repr

/-- How a snapshot is read. -/
def layout : Layout Field where
  Value
    | .id => Int64
    | .firstName | .lastName | .email => String
    | .phone | .profilePicture | .companyName | .businessName => Option String
    | .companyId | .businessId => Option Int64
    | .permissions => List String
    | .isAdmin | .isFirstLogin => Bool
    | .lastLogin => Option Time.Stamp
  fields := [.id, .firstName, .lastName, .email, .phone, .profilePicture, .companyId, .companyName,
    .businessId, .businessName, .permissions, .isAdmin, .isFirstLogin, .lastLogin]
  name
    | .id => "id"
    | .firstName => "first_name"
    | .lastName => "last_name"
    | .email => "email"
    | .phone => "phone"
    | .profilePicture => "profile_pic"
    | .companyId => "company_id"
    | .companyName => "company_name"
    | .businessId => "business_id"
    | .businessName => "business_name"
    | .permissions => "permissions"
    | .isAdmin => "admin"
    | .isFirstLogin => "first_login"
    | .lastLogin => "last_login_at"
  read
    | .id => Reader.int64
    | .firstName | .lastName | .email => Reader.text
    | .phone | .profilePicture | .companyName | .businessName => Reader.optional Reader.text
    | .companyId | .businessId => Reader.optional Reader.int64
    | .permissions => Reader.list Reader.text
    | .isAdmin | .isFirstLogin => Reader.bool
    | .lastLogin => Reader.optional stampReader
  absent
    | .phone | .profilePicture | .companyName | .businessName => some none
    | .companyId | .businessId => some none
    | .lastLogin => some none
    | .id | .firstName | .lastName | .email | .permissions | .isAdmin | .isFirstLogin => none
  mem_fields f := by cases f <;> decide

/-- Reads a snapshot. -/
def reader : Reader Snapshot :=
  layout.reader fun get =>
    ⟨get .id, get .firstName, get .lastName, get .email, get .phone, get .profilePicture,
      get .companyId, get .companyName, get .businessId, get .businessName, get .permissions,
      get .isAdmin, get .isFirstLogin, get .lastLogin⟩

/-- The snapshot that a cached text holds. -/
def decode? (text : String) : Option Snapshot :=
  reader.whole (.ofText text)

end Snapshot

end SessionLedger.User
