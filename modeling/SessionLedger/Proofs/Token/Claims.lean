import SessionLedger.Proofs.Json.Ignored
import SessionLedger.Proofs.Json.Record
import SessionLedger.Token.Claims

/-! Claims are read from their own JSON text, and so are the registered claims beside them. -/
namespace SessionLedger.Token
open Json

namespace Claims

/-- What the fields of claims hold. -/
def values (c : Claims) : (f : Field) → layout.Value f
  | .user => c.user
  | .accessUuid => c.accessUuid
  | .refreshUuid => c.refreshUuid
  | .issuedAt => c.issuedAt
  | .expiry => c.expiry
  | .kind => c.kind

/-- The draft of all fields, in the order in which they are written. -/
def draft (c : Claims) : layout.Draft :=
  (((((layout.blank.set Field.user c.user).set Field.accessUuid c.accessUuid).set
    Field.refreshUuid c.refreshUuid).set Field.issuedAt c.issuedAt).set Field.expiry c.expiry).set
    Field.kind c.kind

theorem draft_apply (c : Claims) (f : Field) : c.draft f = some (c.values f) := by
  cases f <;> rfl

theorem takes_kind (kind : Kind) : Kind.reader.Takes kind.toJson.write kind := by
  rw [Kind.toJson, Value.write]
  exact Reader.takes_choice (Kind.ofName?_name kind)

theorem folds (c : Claims) : Reader.Folds (Layout.readMember (L := layout)) layout.blank
    [("uid", .int64 c.user), ("aid", .text c.accessUuid), ("rid", .text c.refreshUuid),
      ("iat", .int64 c.issuedAt), ("exp", .int64 c.expiry), ("typ", c.kind.toJson)] c.draft := by
  have htext : ∀ s, Reader.text.Takes (Value.text s).write s := fun s => by
    rw [Value.write]
    exact Reader.takes_text s
  refine .cons (Layout.takes_field (f := Field.user) rfl rfl (Reader.takes_int64 c.user)) ?_
  refine .cons (Layout.takes_field (f := Field.accessUuid) rfl rfl (htext c.accessUuid)) ?_
  refine .cons (Layout.takes_field (f := Field.refreshUuid) rfl rfl (htext c.refreshUuid)) ?_
  refine .cons (Layout.takes_field (f := Field.issuedAt) rfl rfl (Reader.takes_int64 c.issuedAt)) ?_
  refine .cons (Layout.takes_field (f := Field.expiry) rfl rfl (Reader.takes_int64 c.expiry)) ?_
  exact .cons (Layout.takes_field (f := Field.kind) rfl rfl (takes_kind c.kind)) (.nil _)

/-- Claims are read from their JSON text. -/
theorem takes_reader (c : Claims) : reader.Takes c.toJson.write c := by
  have hvalue : ∀ f, c.draft.value? f = some (c.values f) := fun f => by
    rw [Layout.Draft.value?, draft_apply]
    rfl
  exact Layout.takes_reader c.folds hvalue

end Claims

namespace RegisteredClaims

/-- What the registered claims hold beside claims. -/
def values (c : Claims) : (f : Field) → layout.Value f
  | .expiry => some (.integer c.expiry.toInt)
  | .notBefore => none
  | .subject => none
  | .issuer => none
  | .audience => none

theorem takes_number (i : Int64) :
    Reader.number.tolerate.Takes (Value.int64 i).write (some (.integer i.toInt)) := by
  intro rest hrest
  have hnumber := Number.takes_read i rest hrest
  obtain ⟨b, bs, hbs, hblank, hlead⟩ := bytes_ofInt i.toInt
  rw [Value.int64, Value.write]
  rw [hbs, List.cons_append] at hnumber ⊢
  rw [Reader.tolerate, Reader.number, skipBlanks_cons hblank]
  rcases hlead with hlead | hlead <;> simp only [hlead, hnumber]

theorem folds (c : Claims) : Reader.Folds (Layout.readMember (L := layout)) layout.blank
    [("uid", .int64 c.user), ("aid", .text c.accessUuid), ("rid", .text c.refreshUuid),
      ("iat", .int64 c.issuedAt), ("exp", .int64 c.expiry), ("typ", c.kind.toJson)]
    (layout.blank.set Field.expiry (some (.integer c.expiry.toInt))) := by
  have htext : ∀ s, Ignored.skip.Takes (Value.text s).write () := fun s => by
    rw [Value.write]
    exact Ignored.takes_text s
  refine .cons (Layout.takes_unknown rfl (Ignored.takes_int64 c.user)) ?_
  refine .cons (Layout.takes_unknown rfl (htext c.accessUuid)) ?_
  refine .cons (Layout.takes_unknown rfl (htext c.refreshUuid)) ?_
  refine .cons (Layout.takes_unknown rfl (Ignored.takes_int64 c.issuedAt)) ?_
  refine .cons (Layout.takes_field (f := Field.expiry) rfl rfl (takes_number c.expiry)) ?_
  exact .cons (Layout.takes_unknown rfl (htext c.kind.name)) (.nil _)

/-- Beside claims there is an expiry, if it is not negative, and no audience. -/
theorem takes_reader (c : Claims) :
    reader.Takes c.toJson.write ⟨0 ≤ c.expiry.toInt, false⟩ := by
  have hvalue : ∀ f, (layout.blank.set Field.expiry
      (some (.integer c.expiry.toInt))).value? f = some (values c f) := fun f => by
    cases f <;> rfl
  exact Layout.takes_reader (folds c) hvalue

end RegisteredClaims

end SessionLedger.Token
