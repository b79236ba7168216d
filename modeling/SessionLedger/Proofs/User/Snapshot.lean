import SessionLedger.Proofs.Json.List
import SessionLedger.Proofs.Json.Record
import SessionLedger.Proofs.Time.Rfc3339
import SessionLedger.User.Snapshot

/-! A snapshot is read from the text in which it is cached. -/
namespace SessionLedger.User
open Json

/-- The text of an instant between quotes. -/
theorem takes_stamp (t : Time.Stamp) : stampReader.Takes (stampToJson t).write t := by
  rw [stampToJson, Value.write]
  refine Reader.takes_textAs ?_
  rw [String.toList_ofList, Time.Rfc3339.read?_write]

namespace Snapshot

/-- What the fields of a snapshot hold. -/
def values (s : Snapshot) : (f : Field) → layout.Value f
  | .id => s.id
  | .firstName => s.firstName
  | .lastName => s.lastName
  | .email => s.email
  | .phone => s.phone
  | .profilePicture => s.profilePicture
  | .companyId => s.companyId
  | .companyName => s.companyName
  | .businessId => s.businessId
  | .businessName => s.businessName
  | .permissions => s.permissions
  | .isAdmin => s.isAdmin
  | .isFirstLogin => s.isFirstLogin
  | .lastLogin => s.lastLogin

/-- The draft of some fields, filled in one after another. -/
def draftOf (s : Snapshot) (fields : List Field) : layout.Draft :=
  fields.foldl (fun d f => d.set f (s.values f)) layout.blank

/-- The draft of all fields, in the order in which they are written. -/
abbrev draft (s : Snapshot) : layout.Draft :=
  s.draftOf layout.fields

theorem draft_apply (s : Snapshot) (f : Field) : s.draft f = some (s.values f) := by
  cases f <;> rfl

/-- How a field is written. -/
def written (s : Snapshot) : Field → Value
  | .id => .int64 s.id
  | .firstName => .text s.firstName
  | .lastName => .text s.lastName
  | .email => .text s.email
  | .phone => .optional .text s.phone
  | .profilePicture => .optional .text s.profilePicture
  | .companyId => .optional .int64 s.companyId
  | .companyName => .optional .text s.companyName
  | .businessId => .optional .int64 s.businessId
  | .businessName => .optional .text s.businessName
  | .permissions => .list (s.permissions.map .text)
  | .isAdmin => .bool s.isAdmin
  | .isFirstLogin => .bool s.isFirstLogin
  | .lastLogin => .optional stampToJson s.lastLogin

/-- Each field is read from what is written of it. -/
theorem takes_read (s : Snapshot) (f : Field) :
    (layout.read f).Takes (s.written f).write (s.values f) := by
  have htext : ∀ t, Reader.text.Takes (Value.text t).write t := fun t => by
    rw [Value.write]
    exact Reader.takes_text t
  have hopens : ∀ t, Opens (Value.text t).write := fun t => by
    rw [Value.write]
    exact opens_quote t
  have hstamp : ∀ t, Opens (stampToJson t).write := fun t => hopens _
  cases f with
  | id => exact Reader.takes_int64 s.id
  | firstName => exact htext s.firstName
  | lastName => exact htext s.lastName
  | email => exact htext s.email
  | phone => exact Reader.takes_optional htext hopens s.phone
  | profilePicture => exact Reader.takes_optional htext hopens s.profilePicture
  | companyId => exact Reader.takes_optional Reader.takes_int64 opens_int64 s.companyId
  | companyName => exact Reader.takes_optional htext hopens s.companyName
  | businessId => exact Reader.takes_optional Reader.takes_int64 opens_int64 s.businessId
  | businessName => exact Reader.takes_optional htext hopens s.businessName
  | permissions => exact Reader.takes_list htext hopens s.permissions
  | isAdmin => exact Reader.takes_bool s.isAdmin
  | isFirstLogin => exact Reader.takes_bool s.isFirstLogin
  | lastLogin => exact Reader.takes_optional takes_stamp hstamp s.lastLogin

/-- Reading the members of some fields fills these in. -/
theorem folds (s : Snapshot) (fields : List Field) (d : layout.Draft) (hdistinct : fields.Nodup)
    (hd : ∀ f ∈ fields, d f = none) :
    Reader.Folds (Layout.readMember (L := layout)) d
      (fields.map fun f => (layout.name f, s.written f))
      (fields.foldl (fun d f => d.set f (s.values f)) d) := by
  induction fields generalizing d with
  | nil => exact .nil d
  | cons f fields ih =>
    have hname : layout.fieldOf? (layout.name f) = some f := by
      cases f <;> rfl
    refine .cons (Layout.takes_field hname (hd f (by simp)) (s.takes_read f)) (ih _ ?_ ?_)
    · exact (List.nodup_cons.mp hdistinct).2
    · intro g hg
      have hne : f ≠ g := by
        rintro rfl
        exact (List.nodup_cons.mp hdistinct).1 hg
      rw [Layout.Draft.set, dif_neg hne]
      exact hd g (by simp [hg])

theorem takes_reader (s : Snapshot) : reader.Takes s.toJson.write s := by
  have hfolds := s.folds layout.fields layout.blank (by decide) fun _ _ => rfl
  have hvalue : ∀ f, s.draft.value? f = some (s.values f) := fun f => by
    rw [Layout.Draft.value?, draft_apply]
    rfl
  exact Layout.takes_reader hfolds hvalue

/-- A snapshot is read from its text. -/
theorem decode?_encode (s : Snapshot) : decode? s.encode = some s := by
  rw [decode?, Source.ofText, encode, encode_compact, s.takes_reader.whole]

end Snapshot

end SessionLedger.User
