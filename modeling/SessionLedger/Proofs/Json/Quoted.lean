import SessionLedger.Json.Quoted
import SessionLedger.Json.Value
import SessionLedger.Proofs.Json.Reading
import SessionLedger.Proofs.Text.Utf8

/-! A string is read from its quoted form. Octet by octet, the form of each character leaves the
reading between two characters, with the octets of the character added to the string. -/
namespace SessionLedger.Json
open Text

namespace Quoted

deriving instance DecidableEq for Stage

/-- The stage after some octets of which none closes the string, and what they add to it. -/
def Stage.run? : Stage → List UInt8 → Option (Stage × List UInt8)
  | stage, [] => some (stage, [])
  | stage, b :: bs => match stage.step b with
    | .next next added => (next.run? bs).map fun (last, more) => (last, added ++ more)
    | .closed => none
    | .refused => none

theorem readFrom_append {stage last : Stage} {bs added : List UInt8}
    (h : stage.run? bs = some (last, added)) (read rest : List UInt8) :
    readFrom stage read (bs ++ rest) = readFrom last (added.reverse ++ read) rest := by
  induction bs generalizing stage added read with
  | nil =>
    cases h
    rfl
  | cons b bs ih =>
    simp only [Stage.run?] at h
    split at h
    · next next here hstep =>
      obtain ⟨⟨last', more⟩, hrun, heq⟩ := Option.map_eq_some_iff.mp h
      cases heq
      simp only [List.cons_append, readFrom, hstep, ih hrun, List.reverse_append,
        List.append_assoc]
    · cases h
    · cases h

/-- Octets beyond ASCII add themselves. -/
theorem run?_plain {bs : List UInt8} (h : ∀ b ∈ bs, 0x80 ≤ b.toNat) :
    Stage.plain.run? bs = some (.plain, bs) := by
  induction bs with
  | nil => rfl
  | cons b bs ih =>
    have hb := h b (by simp)
    have hne : ∀ n < 0x80, b ≠ UInt8.ofNat n := by
      rintro n hn rfl
      rw [UInt8.toNat_ofNat_of_lt' (by change _ < 256; omega)] at hb
      omega
    have hstep : Stage.plain.step b = .next .plain [b] := by
      have hlt : ¬ b < 0x20 := by
        rw [UInt8.lt_iff_toNat_lt]
        change ¬ b.toNat < 32
        omega
      have hquote : b ≠ quoteMark := hne 0x22 (by decide)
      have hbackslash : b ≠ backslash := hne 0x5C (by decide)
      simp only [Stage.step, if_neg hquote, if_neg hbackslash, if_neg hlt]
    simp only [Stage.run?, hstep, ih fun b hb => h b (by simp [hb])]
    rfl

theorem run?_escape_ascii :
    ∀ n < 0x80, Stage.plain.run? (bytes (escape (Char.ofNat n))) =
      some (.plain, Utf8.octets (Char.ofNat n)) := by
  decide +kernel

/-- The form of a character adds the octets of the character. -/
theorem run?_escape (c : Char) :
    Stage.plain.run? (bytes (escape c)) = some (.plain, Utf8.octets c) := by
  by_cases hc : c.toNat < 0x80
  · have h := run?_escape_ascii c.toNat hc
    rwa [Char.ofNat_toNat] at h
  · have hescape : escape c = [c] := by
      have hne : ∀ d : Char, d.toNat < 0x80 → c ≠ d := by
        rintro d hd rfl
        exact hc hd
      unfold escape
      split
      · exact absurd rfl (hne _ (by decide))
      · exact absurd rfl (hne _ (by decide))
      · exact absurd rfl (hne _ (by decide))
      · exact absurd rfl (hne _ (by decide))
      · exact absurd rfl (hne _ (by decide))
      · exact absurd rfl (hne _ (by decide))
      · exact absurd rfl (hne _ (by decide))
      · rw [if_neg (by omega)]
    rw [hescape, bytes_cons, bytes_nil, List.append_nil]
    exact run?_plain fun b => le_of_mem_octets (by omega)

theorem run?_append {stage middle last : Stage} {bs bs' added added' : List UInt8}
    (h : stage.run? bs = some (middle, added)) (h' : middle.run? bs' = some (last, added')) :
    stage.run? (bs ++ bs') = some (last, added ++ added') := by
  induction bs generalizing stage added with
  | nil =>
    cases h
    exact h'
  | cons b bs ih =>
    simp only [Stage.run?] at h
    split at h
    · next next here hstep =>
      obtain ⟨⟨middle', more⟩, hrun, heq⟩ := Option.map_eq_some_iff.mp h
      cases heq
      simp only [List.cons_append, Stage.run?, hstep, ih hrun, Option.map_some,
        List.append_assoc]
    · cases h
    · cases h

theorem run?_flatMap_escape (cs : List Char) :
    Stage.plain.run? (bytes (cs.flatMap escape)) = some (.plain, bytes cs) := by
  induction cs with
  | nil => rfl
  | cons c cs ih =>
    rw [List.flatMap_cons, bytes_append, bytes_cons]
    exact run?_append (run?_escape c) ih

/-- A string is read from its form after the opening quote. -/
theorem read_quote (s : String) (rest : Source) :
    Quoted.read (bytes (s.toList.flatMap escape ++ ['"']) ++ rest) = .value s rest := by
  have hclose : Stage.plain.step quoteMark = .closed := rfl
  have hmark : bytes ['"'] = [quoteMark] := by decide
  rw [Quoted.read, bytes_append, hmark, List.append_assoc,
    readFrom_append (run?_flatMap_escape s.toList), List.append_nil, List.singleton_append,
    readFrom, hclose]
  have hdecode : Utf8.decode? (bytes s.toList) = some s := Utf8.decode?_encode s
  simp only [List.reverse_reverse, hdecode]

end Quoted

end SessionLedger.Json
