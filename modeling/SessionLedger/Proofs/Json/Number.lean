import SessionLedger.Json.Number
import SessionLedger.Proofs.Json.Reading
import SessionLedger.Proofs.Text.Decimal

/-! An integer is read from its decimal text. -/
namespace SessionLedger.Json
open Text

/-! ## Digits -/

theorem toNat_lt_of_isDigit {c : Char} (h : c.isDigit = true) : c.toNat < 0x80 := by
  simp only [Char.isDigit, Bool.and_eq_true, decide_eq_true_eq] at h
  have h57 : c.toNat ≤ 57 := h.2
  omega

theorem octets_digit {c : Char} (h : c.isDigit = true) :
    Utf8.octets c = [UInt8.ofNat c.toNat] :=
  octets_ascii (toNat_lt_of_isDigit h)

theorem toNat_digit {c : Char} (h : c.isDigit = true) : (UInt8.ofNat c.toNat).toNat = c.toNat :=
  UInt8.toNat_ofNat_of_lt' (Nat.lt_trans (toNat_lt_of_isDigit h) (by decide))

theorem isDigitOctet_digit {c : Char} (h : c.isDigit = true) :
    isDigitOctet (UInt8.ofNat c.toNat) = true := by
  have hc : 48 ≤ c.toNat ∧ c.toNat ≤ 57 := by
    simp only [Char.isDigit, Bool.and_eq_true, decide_eq_true_eq] at h
    exact h
  simp only [isDigitOctet, Bool.and_eq_true, decide_eq_true_eq, UInt8.le_iff_toNat_le,
    toNat_digit h]
  exact hc

theorem bytes_digits {cs : List Char} (h : ∀ c ∈ cs, c.isDigit = true) :
    bytes cs = cs.map fun c => UInt8.ofNat c.toNat := by
  induction cs with
  | nil => rfl
  | cons c cs ih =>
    rw [bytes_cons, octets_digit (h c (by simp)), ih fun c' hc => h c' (by simp [hc])]
    rfl

theorem isDigitOctet_of_mem_bytes {cs : List Char} (h : ∀ c ∈ cs, c.isDigit = true) {b : UInt8}
    (hb : b ∈ bytes cs) : isDigitOctet b = true := by
  rw [bytes_digits h] at hb
  obtain ⟨c, hc, rfl⟩ := List.mem_map.mp hb
  exact isDigitOctet_digit (h c hc)

/-- The first octet of a natural number is a digit. -/
theorem bytes_ofNat (n : Nat) :
    ∃ b bs, bytes (Decimal.ofNat n) = b :: bs ∧ isDigitOctet b = true := by
  cases hcs : Decimal.ofNat n with
  | nil => exact absurd hcs Nat.toDigits_ne_nil
  | cons c cs =>
    have hc : c.isDigit = true := Decimal.isDigit_of_mem_ofNat (n := n) (by simp [hcs])
    refine ⟨UInt8.ofNat c.toNat, bytes cs, ?_, isDigitOctet_digit hc⟩
    rw [bytes_cons, octets_digit hc]
    rfl

theorem lead_of_isDigitOctet {b : UInt8} (h : isDigitOctet b = true) :
    isBlankOctet b = false ∧ Lead.of b = .digit ∧ b ≠ minusSign := by
  have hall : ∀ n < 10, isBlankOctet (UInt8.ofNat (0x30 + n)) = false ∧
      Lead.of (UInt8.ofNat (0x30 + n)) = .digit ∧ UInt8.ofNat (0x30 + n) ≠ minusSign := by
    decide
  have hrange : 0x30 ≤ b.toNat ∧ b.toNat ≤ 0x39 := by
    simpa [isDigitOctet, UInt8.le_iff_toNat_le] using h
  have hb := hall (b.toNat - 0x30) (by omega)
  rwa [Nat.add_sub_cancel' hrange.1, UInt8.ofNat_toNat] at hb

theorem not_isDigitOctet_of_ends {rest : Source} (h : Ends rest) :
    ∀ b ∈ rest.head?, isDigitOctet b = false := by
  intro b hb
  rcases h b hb with rfl | rfl | rfl <;> rfl

theorem takeWhile_digits {cs : List Char} (h : ∀ c ∈ cs, c.isDigit = true) {rest : Source}
    (hrest : Ends rest) : (bytes cs ++ rest).takeWhile isDigitOctet = bytes cs := by
  rw [List.takeWhile_append_of_pos fun b hb => isDigitOctet_of_mem_bytes h hb]
  have hnil : rest.takeWhile isDigitOctet = [] := by
    cases rest with
    | nil => rfl
    | cons b rest =>
      exact List.takeWhile_cons_of_neg (by simp [not_isDigitOctet_of_ends hrest b rfl])
  rw [hnil, List.append_nil]

theorem dropWhile_digits {cs : List Char} (h : ∀ c ∈ cs, c.isDigit = true) {rest : Source}
    (hrest : Ends rest) : (bytes cs ++ rest).dropWhile isDigitOctet = rest := by
  rw [List.dropWhile_append_of_pos fun b hb => isDigitOctet_of_mem_bytes h hb]
  cases rest with
  | nil => rfl
  | cons b rest =>
    exact List.dropWhile_cons_of_neg (by simp [not_isDigitOctet_of_ends hrest b rfl])

namespace Number

theorem foldl_digits {cs : List Char} (h : ∀ c ∈ cs, c.isDigit = true) (n : Nat) :
    (bytes cs).foldl (fun n b => 10 * n + (b.toNat - 0x30)) n = Nat.ofDigitChars 10 cs n := by
  induction cs generalizing n with
  | nil => rfl
  | cons c cs ih =>
    have hc := h c (by simp)
    rw [bytes_cons, octets_digit hc, List.singleton_append, List.foldl_cons, toNat_digit hc,
      ih fun c' hc' => h c' (by simp [hc']), Nat.ofDigitChars_cons]
    rfl

theorem ofDigits_ofNat (n : Nat) : ofDigits (bytes (Decimal.ofNat n)) = n := by
  rw [ofDigits, foldl_digits fun c => Decimal.isDigit_of_mem_ofNat, Decimal.ofNat,
    Nat.ofDigitChars_ten_toDigits]

theorem readAfterDigits_of_ends {rest : Source} (h : Ends rest) (isNegative : Bool)
    (digits : List UInt8) :
    readAfterDigits isNegative digits rest = whole isNegative (ofDigits digits) rest := by
  cases rest with
  | nil => rfl
  | cons b rest =>
    rcases h b rfl with rfl | rfl | rfl <;> rfl

/-- The digits of a positive number do not start with a zero. -/
theorem head_ofNat {n : Nat} (hn : 0 < n) : (Decimal.ofNat n).head? ≠ some '0' := by
  induction n using Nat.strongRecOn with
  | _ n ih =>
    rw [Decimal.ofNat, Nat.toDigits_eq_if (by decide)]
    split
    · next h =>
      have hdigit : ∀ m < 10, 0 < m → m.digitChar ≠ '0' := by decide
      simpa using hdigit n h hn
    · next h =>
      have hpos : 0 < n / 10 := by omega
      have hhead := ih (n / 10) (by omega) hpos
      rw [Decimal.ofNat] at hhead
      cases hcs : Nat.toDigits 10 (n / 10) with
      | nil => exact absurd hcs Nat.toDigits_ne_nil
      | cons c cs =>
        rw [hcs] at hhead
        simpa using hhead

theorem readUnsigned_ofNat (isNegative : Bool) (n : Nat) {rest : Source} (hrest : Ends rest) :
    readUnsigned isNegative (bytes (Decimal.ofNat n) ++ rest) = whole isNegative n rest := by
  have hdigits : ∀ c ∈ Decimal.ofNat n, c.isDigit = true := fun c => Decimal.isDigit_of_mem_ofNat
  have hvalue := ofDigits_ofNat n
  rcases Nat.eq_zero_or_pos n with rfl | hn
  · have hzero : bytes (Decimal.ofNat 0) = [0x30] := rfl
    rw [hzero] at hvalue ⊢
    have hnone : rest.head?.any isDigitOctet = false := by
      cases rest with
      | nil => rfl
      | cons b rest => exact not_isDigitOctet_of_ends hrest b rfl
    have hdigit : isDigitOctet 0x30 = true := rfl
    simp only [List.singleton_append, readUnsigned, hdigit, hnone, Bool.not_true,
      Bool.false_eq_true, if_false, if_true, readAfterDigits_of_ends hrest, hvalue]
  · cases hcs : Decimal.ofNat n with
    | nil => exact absurd hcs Nat.toDigits_ne_nil
    | cons c cs =>
      rw [hcs] at hdigits hvalue
      have hc := hdigits c (by simp)
      have hcs' : ∀ c ∈ cs, c.isDigit = true := fun c hc => hdigits c (by simp [hc])
      have hne : UInt8.ofNat c.toNat ≠ 0x30 := by
        intro heq
        have hnat := congrArg UInt8.toNat heq
        rw [toNat_digit hc] at hnat
        have hzero : c = '0' := Char.toNat_inj.mp hnat
        exact head_ofNat hn (by rw [hcs, hzero]; rfl)
      rw [bytes_cons, octets_digit hc, List.singleton_append] at hvalue ⊢
      simp only [List.cons_append, readUnsigned, isDigitOctet_digit hc, hne, Bool.not_true,
        Bool.false_eq_true, if_false, takeWhile_digits hcs' hrest, dropWhile_digits hcs' hrest,
        readAfterDigits_of_ends hrest, hvalue]

/-- A 64-bit integer is read from its text. -/
theorem takes_read (i : Int64) : Number.read.Takes (Decimal.ofInt i.toInt) (.integer i.toInt) := by
  intro rest hrest
  have hlow := i.minValue_le_toInt
  have hhigh := i.toInt_le
  cases hi : i.toInt with
  | ofNat n =>
    rw [hi] at hhigh
    have hn : n < Nat.pow 2 64 := by
      show n < 2 ^ 64
      have hmax : Int64.maxValue.toInt = 2 ^ 63 - 1 := rfl
      rw [hmax] at hhigh
      simp only [Int.ofNat_eq_natCast] at hhigh
      omega
    have hhead : (bytes (Decimal.ofNat n) ++ rest).head? ≠ some minusSign := by
      obtain ⟨b, bs, hbs, hdigit⟩ := bytes_ofNat n
      rw [hbs, List.cons_append, List.head?_cons]
      exact fun heq => (lead_of_isDigitOctet hdigit).2.2 (Option.some.inj heq)
    rw [Decimal.ofInt, Number.read, if_neg hhead, readUnsigned_ofNat false n hrest, whole,
      if_neg (by decide), if_neg (Nat.not_le.mpr hn)]
    rfl
  | negSucc n =>
    rw [hi] at hlow
    have hn : n + 1 ≤ 2 ^ 63 := by
      have hmin : Int64.minValue.toInt = -2 ^ 63 := rfl
      rw [hmin] at hlow
      omega
    have hminus : Utf8.octets '-' = [minusSign] := rfl
    rw [Decimal.ofInt, bytes_cons, hminus, List.singleton_append, List.cons_append,
      Number.read, List.head?_cons, List.tail_cons, if_pos rfl,
      readUnsigned_ofNat true (n + 1) hrest, whole, if_pos rfl,
      if_neg (by simp only [not_or, Nat.not_lt]; exact ⟨Nat.succ_ne_zero n, hn⟩)]
    rfl

end Number

end SessionLedger.Json
