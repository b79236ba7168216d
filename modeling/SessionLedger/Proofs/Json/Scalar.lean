import SessionLedger.Json.Ignored
import SessionLedger.Json.Scalar
import SessionLedger.Proofs.Json.Number
import SessionLedger.Proofs.Json.Quoted

/-! Strings and integers are read from their compact text, and passed over in it. -/
namespace SessionLedger.Json
open Text

/-- The octets of the compact text of a value. -/
theorem encode_compact (v : Value) : Utf8.encode v.compact = bytes v.write := by
  rw [Utf8.encode, Value.compact, String.toList_ofList]
  rfl

/-- The first octet of an integer is its sign or a digit. -/
theorem bytes_ofInt (i : Int) : ∃ b bs, bytes (Decimal.ofInt i) = b :: bs ∧
    isBlankOctet b = false ∧ (Lead.of b = .minus ∨ Lead.of b = .digit) := by
  cases i with
  | ofNat n =>
    obtain ⟨b, bs, hbs, hdigit⟩ := bytes_ofNat n
    obtain ⟨hblank, hlead, -⟩ := lead_of_isDigitOctet hdigit
    exact ⟨b, bs, hbs, hblank, .inr hlead⟩
  | negSucc n => exact ⟨minusSign, _, rfl, rfl, .inl rfl⟩

theorem bytes_quote (s : String) :
    bytes (quote s) = quoteMark :: bytes (s.toList.flatMap escape ++ ['"']) := by
  rw [quote, List.cons_append, bytes_cons]
  rfl

theorem opens_quote (s : String) : Opens (quote s) :=
  ⟨quoteMark, _, bytes_quote s, rfl, by decide, by decide⟩

theorem opens_int64 (i : Int64) : Opens (Value.int64 i).write := by
  obtain ⟨b, bs, hbs, hblank, hlead⟩ := bytes_ofInt i.toInt
  refine ⟨b, bs, by rw [Value.int64, Value.write, hbs], hblank, ?_, ?_⟩
  · rcases hlead with hlead | hlead <;> simp [hlead]
  · intro hclose
    have hnone : Lead.of closeList = .none := rfl
    rw [hclose, hnone] at hlead
    simp at hlead

namespace Reader

theorem takes_int64 (i : Int64) : int64.Takes (Value.int64 i).write i := by
  intro rest hrest
  have hnumber := Number.takes_read i rest hrest
  obtain ⟨b, bs, hbs, hblank, hlead⟩ := bytes_ofInt i.toInt
  rw [Value.int64, Value.write]
  rw [hbs, List.cons_append] at hnumber ⊢
  rw [int64, skipBlanks_cons hblank]
  simp only [if_pos hlead, hnumber, Decimal.int64?_toInt]

theorem takes_text (s : String) : text.Takes (quote s) s := by
  intro rest _
  have hread := Quoted.read_quote s rest
  rw [bytes_quote, List.cons_append, text, skipBlanks_cons rfl]
  exact hread

theorem takes_bool (b : Bool) : bool.Takes (Value.bool b).write b := by
  intro rest _
  cases b <;> rfl

/-- Null is read as nothing. -/
theorem takes_null {α : Type} (r : Reader α) : (optional r).Takes Value.null.write none := by
  intro rest _
  rfl

/-- Any other value is read as itself. -/
theorem Takes.optional {α : Type} {r : Reader α} {cs : List Char} {a : α} (h : r.Takes cs a)
    (hopens : Opens cs) : (Reader.optional r).Takes cs (some a) := by
  intro rest hrest
  have hread := h rest hrest
  obtain ⟨b, bs, hbs, hblank, hlead, -⟩ := hopens
  rw [hbs, List.cons_append] at hread ⊢
  rw [Reader.optional, skipBlanks_cons hblank]
  simp only [if_neg hlead, Reader.bind, hread]
  rfl

/-- A value that may be missing is read from its text, if every value is. -/
theorem takes_optional {α : Type} {r : Reader α} {f : α → Value}
    (h : ∀ a, r.Takes (f a).write a) (hopens : ∀ a, Opens (f a).write) (o : Option α) :
    (Reader.optional r).Takes (Value.optional f o).write o := by
  cases o with
  | none => exact takes_null r
  | some a => exact (h a).optional (hopens a)

theorem takes_optionalText (s : String) : (optional text).Takes (quote s) (some s) :=
  (takes_text s).optional (opens_quote s)

theorem takes_textAs {α : Type} {meaning : String → Option α} {s : String} {a : α}
    (h : meaning s = some a) : (textAs meaning).Takes (quote s) a := by
  intro rest hrest
  rw [textAs, takes_text s rest hrest]
  simp only [h]

theorem takes_choice {α : Type} {meaning : String → Option α} {s : String} {a : α}
    (h : meaning s = some a) : (choice meaning).Takes (quote s) a := by
  intro rest hrest
  have hread := takes_textAs h rest hrest
  rw [bytes_quote, List.cons_append] at hread ⊢
  rw [choice, skipBlanks_cons rfl]
  exact hread

theorem Takes.bind {α β : Type} {r : Reader α} {cs : List Char} {a : α} (h : r.Takes cs a)
    (f : α → β) : (r.bind fun a => .pure (f a)).Takes cs (f a) := by
  intro rest hrest
  rw [Reader.bind, h rest hrest]
  rfl

theorem Takes.afterColon {α : Type} {r : Reader α} {cs : List Char} {a : α} (h : r.Takes cs a) :
    (afterColon r).Takes (':' :: cs) a := by
  intro rest hrest
  have hmark : readMark colon (colon :: (bytes cs ++ rest)) = .value () (bytes cs ++ rest) := rfl
  have hcolon : Utf8.octets ':' = [colon] := rfl
  rw [bytes_cons, hcolon, List.singleton_append, List.cons_append, Reader.afterColon, Reader.bind,
    hmark]
  exact h rest hrest

end Reader

end SessionLedger.Json
