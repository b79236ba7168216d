import SessionLedger.Proofs.Json.Scalar

/-! Strings and integers are passed over in compact text. -/
namespace SessionLedger.Json.Ignored
open Text

/-! ## Strings -/

theorem skipQuoted_plain {bs : List UInt8} (h : ∀ b ∈ bs, 0x80 ≤ b.toNat) (rest : Source) :
    skipQuoted .plain (bs ++ rest) = skipQuoted .plain rest := by
  induction bs with
  | nil => rfl
  | cons b bs ih =>
    have hb := h b (by simp)
    have hne : ∀ n < 0x80, b ≠ UInt8.ofNat n := by
      rintro n hn rfl
      rw [UInt8.toNat_ofNat_of_lt' (by change _ < 256; omega)] at hb
      omega
    have hquote : b ≠ quoteMark := hne 0x22 (by decide)
    have hbackslash : b ≠ backslash := hne 0x5C (by decide)
    have hlt : ¬ b < 0x20 := by
      rw [UInt8.lt_iff_toNat_lt]
      change ¬ b.toNat < 32
      omega
    rw [List.cons_append, skipQuoted, if_neg hquote, if_neg hbackslash, if_neg hlt]
    exact ih fun b hb => h b (by simp [hb])

/-- A character that is not escaped. -/
theorem skipQuoted_self {c : Char} (hquote : c ≠ '"') (hbackslash : c ≠ '\\')
    (hc : ¬ c.toNat < 0x20) (rest : Source) :
    skipQuoted .plain (Utf8.octets c ++ rest) = skipQuoted .plain rest := by
  by_cases hascii : c.toNat < 0x80
  · have hne : ∀ d : Char, c ≠ d → d.toNat < 0x80 → UInt8.ofNat c.toNat ≠ UInt8.ofNat d.toNat := by
      intro d hd hd' heq
      have hnat := congrArg UInt8.toNat heq
      rw [UInt8.toNat_ofNat_of_lt' (by change _ < 256; omega),
        UInt8.toNat_ofNat_of_lt' (by change _ < 256; omega)] at hnat
      exact hd (Char.toNat_inj.mp hnat)
    have hquote' : UInt8.ofNat c.toNat ≠ quoteMark := hne '"' hquote (by decide)
    have hbackslash' : UInt8.ofNat c.toNat ≠ backslash := hne '\\' hbackslash (by decide)
    have hlt : ¬ UInt8.ofNat c.toNat < 0x20 := by
      rw [UInt8.lt_iff_toNat_lt, UInt8.toNat_ofNat_of_lt' (by change _ < 256; omega)]
      exact hc
    rw [octets_ascii hascii, List.singleton_append, skipQuoted, if_neg hquote',
      if_neg hbackslash', if_neg hlt]
  · exact skipQuoted_plain (fun b => le_of_mem_octets (Nat.not_lt.mp hascii)) rest

theorem isHexDigit_hexDigit :
    ∀ n < 16, Utf8.octets (hexDigit n) = [UInt8.ofNat (hexDigit n).toNat] ∧
      isHexDigit (UInt8.ofNat (hexDigit n).toNat) = true := by
  decide

/-- The form of a character is passed over. -/
theorem skipQuoted_escape (c : Char) (rest : Source) :
    skipQuoted .plain (bytes (escape c) ++ rest) = skipQuoted .plain rest := by
  unfold escape
  split
  · rfl
  · rfl
  · rfl
  · rfl
  · rfl
  · rfl
  · rfl
  · next hquote hbackslash _ _ _ _ _ =>
    split
    · next hc =>
      obtain ⟨hhigh, hhigh'⟩ := isHexDigit_hexDigit (c.toNat / 16) (by omega)
      obtain ⟨hlow, hlow'⟩ := isHexDigit_hexDigit (c.toNat % 16) (by omega)
      have hstart : bytes ['\\', 'u', '0', '0', hexDigit (c.toNat / 16), hexDigit (c.toNat % 16)] =
          0x5C :: 0x75 :: 0x30 :: 0x30 :: UInt8.ofNat (hexDigit (c.toNat / 16)).toNat ::
            [UInt8.ofNat (hexDigit (c.toNat % 16)).toNat] := by
        simp only [bytes_cons, hhigh, hlow, bytes_nil]
        rfl
      have hzero : isHexDigit 0x30 = true := rfl
      rw [hstart]
      simp only [List.cons_append, List.nil_append]
      change skipQuoted (.digits 3) _ = _
      simp only [skipQuoted, hzero, hhigh', hlow', if_true]
    · next hc =>
      rw [bytes_cons, bytes_nil, List.append_nil]
      exact skipQuoted_self hquote hbackslash hc rest

theorem skipQuoted_quote (cs : List Char) (rest : Source) :
    skipQuoted .plain (bytes (cs.flatMap escape ++ ['"']) ++ rest) = .value () rest := by
  induction cs with
  | nil => rfl
  | cons c cs ih =>
    rw [List.flatMap_cons, List.append_assoc, bytes_append, List.append_assoc, skipQuoted_escape]
    exact ih

theorem takes_text (s : String) : skip.Takes (quote s) () := by
  intro rest _
  have hlead : Lead.of quoteMark = .text := rfl
  rw [bytes_quote, List.cons_append, skip, skipWithin, skipBlanks_cons rfl]
  simp only [hlead]
  exact skipQuoted_quote s.toList rest

/-! ## Integers -/

theorem skipFraction_of_ends {rest : Source} (h : Ends rest) :
    skipFraction rest = .value () rest := by
  cases rest with
  | nil => rfl
  | cons b rest => rcases h b rfl with rfl | rfl | rfl <;> rfl

theorem skipNumber_ofNat (n : Nat) {rest : Source} (hrest : Ends rest) :
    skipNumber (bytes (Decimal.ofNat n) ++ rest) = .value () rest := by
  have hdigits : ∀ c ∈ Decimal.ofNat n, c.isDigit = true := fun c => Decimal.isDigit_of_mem_ofNat
  rcases Nat.eq_zero_or_pos n with rfl | hn
  · have hzero : bytes (Decimal.ofNat 0) = [0x30] := rfl
    have hnone : rest.head?.any isDigitOctet = false := by
      cases rest with
      | nil => rfl
      | cons b rest => exact not_isDigitOctet_of_ends hrest b rfl
    rw [hzero, List.singleton_append, skipNumber, List.head?_cons, if_pos rfl, List.tail_cons,
      hnone, if_neg Bool.false_ne_true, skipFraction_of_ends hrest]
  · cases hcs : Decimal.ofNat n with
    | nil => exact absurd hcs Nat.toDigits_ne_nil
    | cons c cs =>
      rw [hcs] at hdigits
      have hc := hdigits c (by simp)
      have hcs' : ∀ c ∈ cs, c.isDigit = true := fun c hc => hdigits c (by simp [hc])
      have hne : some (UInt8.ofNat c.toNat) ≠ some 0x30 := by
        intro heq
        have hnat := congrArg UInt8.toNat (Option.some.inj heq)
        rw [toNat_digit hc] at hnat
        have hzero : c = '0' := Char.toNat_inj.mp hnat
        exact Number.head_ofNat hn (by rw [hcs, hzero]; rfl)
      rw [bytes_cons, octets_digit hc, List.singleton_append, List.cons_append, skipNumber,
        List.head?_cons, if_neg hne, Reader.bind, skipDigits, if_pos (isDigitOctet_digit hc),
        dropWhile_digits hcs' hrest]
      exact skipFraction_of_ends hrest

theorem takes_int64 (i : Int64) : skip.Takes (Value.int64 i).write () := by
  intro rest hrest
  rw [Value.int64, Value.write]
  cases hi : i.toInt with
  | ofNat n =>
    have hskip := skipNumber_ofNat n hrest
    obtain ⟨b, bs, hbs, hdigit⟩ := bytes_ofNat n
    obtain ⟨hblank, hlead, -⟩ := lead_of_isDigitOctet hdigit
    rw [Decimal.ofInt]
    rw [hbs, List.cons_append] at hskip ⊢
    rw [skip, skipWithin, skipBlanks_cons hblank]
    simp only [hlead]
    exact hskip
  | negSucc n =>
    have hlead : Lead.of minusSign = .minus := rfl
    have hminus : Utf8.octets '-' = [minusSign] := rfl
    rw [Decimal.ofInt, bytes_cons, hminus, List.singleton_append, List.cons_append, skip,
      skipWithin, skipBlanks_cons rfl]
    simp only [hlead]
    exact skipNumber_ofNat (n + 1) hrest

end SessionLedger.Json.Ignored
