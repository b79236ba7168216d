import SessionLedger.Proofs.Text.Decimal
import SessionLedger.Proofs.Text.Trim
import SessionLedger.Time.Rfc3339

/-! An instant is read from its own text. Each part is read off the front of the text and leaves
what follows: parts of a date and of a time have exactly two digits there, and a year ends at the
mark after it. -/
namespace SessionLedger.Time.Rfc3339
open Text

/-! ## Digits -/

theorem isSome_digit? (c : Char) : (Decimal.digit? c).isSome = c.isDigit := by
  by_cases h : c.isDigit = true
  · rw [Decimal.digit?_of_isDigit h, h]
    rfl
  · have hnone : ¬ ('0' ≤ c ∧ c ≤ '9') := by
      simpa [Char.isDigit, Char.le_def] using h
    rw [Decimal.digit?, if_neg hnone, Bool.eq_false_iff.mpr h]
    rfl

theorem isBlank_of_isDigit {c : Char} (h : c.isDigit = true) : isBlank c = false := by
  have hc : 48 ≤ c.toNat ∧ c.toNat ≤ 57 := by
    simp only [Char.isDigit, Bool.and_eq_true, decide_eq_true_eq] at h
    exact h
  rw [Bool.eq_false_iff]
  intro hblank
  simp only [isBlank, Bool.or_eq_true, Bool.and_eq_true, decide_eq_true_eq, beq_iff_eq] at hblank
  omega

theorem trimStart_digits {cs : List Char} (h : ∀ c ∈ cs, c.isDigit = true) (hne : cs ≠ [])
    (rest : List Char) : trimStart (cs ++ rest) = cs ++ rest := by
  cases cs with
  | nil => exact absurd rfl hne
  | cons c cs => exact trimStart_cons (isBlank_of_isDigit (h c (by simp))) _

/-- The digits at the front end where as many as asked for have been read, or where there are no
more. -/
theorem spanDigits_append {cs rest : List Char} {n : Nat} (h : ∀ c ∈ cs, c.isDigit = true)
    (hn : cs.length ≤ n) (hend : cs.length = n ∨ ∀ c ∈ rest.head?, c.isDigit = false) :
    spanDigits n (cs ++ rest) = (cs, rest) := by
  induction cs generalizing n with
  | nil =>
    cases n with
    | zero => cases rest <;> rfl
    | succ n =>
      cases rest with
      | nil => rfl
      | cons c rest =>
        have hc : c.isDigit = false := hend.resolve_left (by simp) c rfl
        simp [spanDigits, isSome_digit?, hc]
  | cons c cs ih =>
    cases n with
    | zero => simp at hn
    | succ n =>
      have hrest := ih (fun c' hc => h c' (by simp [hc])) (Nat.le_of_succ_le_succ hn)
        (hend.imp_left Nat.succ.inj)
      simp [spanDigits, isSome_digit?, h c (by simp), hrest]

theorem readNumber_padded {width places n : Nat} {rest : List Char}
    (hwidth : (Decimal.padded places n).length ≤ width)
    (hend : (Decimal.padded places n).length = width ∨ ∀ c ∈ rest.head?, c.isDigit = false) :
    readNumber width (Decimal.padded places n ++ rest) = some (n, rest) := by
  have hspan := spanDigits_append (fun c => Decimal.isDigit_of_mem_padded) hwidth hend
  simp only [readNumber, hspan, Decimal.digits?_padded, Option.bind_eq_bind, Option.bind_some,
    Option.pure_def]

/-! ## Parts -/

/-- A number of two digits. -/
theorem readPart_padded {n : Nat} (h : n < 100) (rest : List Char) :
    readPart (Decimal.padded 2 n ++ rest) = some (n, rest) := by
  have hlength : (Decimal.padded 2 n).length = 2 := Decimal.length_padded (by decide) h
  rw [readPart, trimStart_digits (fun c => Decimal.isDigit_of_mem_padded)
    (Decimal.padded_ne_nil 2 n)]
  exact readNumber_padded (Nat.le_of_eq hlength) (.inl hlength)

theorem readMark_cons {mark : Char} (h : isBlank mark = false) (rest : List Char) :
    readMark mark (mark :: rest) = some rest := by
  rw [readMark, trimStart_cons h]
  simp

/-- A padded number starts with a digit. -/
theorem isDigit_of_padded_eq {places n : Nat} {c : Char} {rest cs : List Char}
    (h : Decimal.padded places n ++ rest = c :: cs) : c.isDigit = true := by
  cases hdigits : Decimal.padded places n with
  | nil => exact absurd hdigits (Decimal.padded_ne_nil places n)
  | cons d ds =>
    rw [hdigits, List.cons_append, List.cons.injEq] at h
    rw [← h.1]
    have hmem : d ∈ Decimal.padded places n := by simp [hdigits]
    exact Decimal.isDigit_of_mem_padded hmem

/-- A year after whose text no digit follows. -/
theorem readYear_writeYear {year : Int} {rest : List Char}
    (hrest : ∀ c ∈ rest.head?, c.isDigit = false) :
    readYear (writeYear year ++ rest) = some (year, rest) := by
  by_cases hplain : 0 ≤ year ∧ year ≤ 9999
  · have hlt : year.toNat < 10000 := by
      omega
    have hlength : (Decimal.padded 4 year.toNat).length = 4 :=
      Decimal.length_padded (by decide) hlt
    have hnumber : readNumber 4 (Decimal.padded 4 year.toNat ++ rest) = some (year.toNat, rest) :=
      readNumber_padded (Nat.le_of_eq hlength) (.inl hlength)
    have htrim := trimStart_digits (fun c => Decimal.isDigit_of_mem_padded)
      (Decimal.padded_ne_nil 4 year.toNat) rest
    rw [writeYear, if_pos hplain, readYear, htrim]
    split
    · next heq => exact absurd (isDigit_of_padded_eq heq) (by decide)
    · next heq => exact absurd (isDigit_of_padded_eq heq) (by decide)
    · rw [hnumber]
      simp only [Option.map_some, Int.toNat_of_nonneg hplain.1]
  · have hnumber : readNumber (Decimal.padded 4 year.natAbs ++ rest).length
        (Decimal.padded 4 year.natAbs ++ rest) = some (year.natAbs, rest) :=
      readNumber_padded (by simp) (.inr hrest)
    rw [writeYear, if_neg hplain, List.cons_append]
    by_cases hnegative : year < 0
    · rw [if_pos hnegative, readYear, trimStart_cons (by decide)]
      simp only [hnumber, Option.map_some, Option.some.injEq, Prod.mk.injEq, and_true]
      omega
    · rw [if_neg hnegative, readYear, trimStart_cons (by decide)]
      simp only [hnumber, Option.map_some, Option.some.injEq, Prod.mk.injEq, and_true]
      omega

/-- The digits of a second, at the end of a text. -/
theorem readFraction_writeFraction {nano : Nat} (h : nano < 1000000000) :
    readFraction (writeFraction nano ++ ['Z']) = some (nano, ['Z']) := by
  have hpoint : ∀ places n, places ≤ 9 → 0 < places → n < 10 ^ places →
      readFraction ('.' :: Decimal.padded places n ++ ['Z']) =
        some (n * Nat.pow 10 (9 - places), ['Z']) := by
    intro places n hplaces hpos hn
    have hlength := Decimal.length_padded hpos hn
    have hdigits : ∀ c ∈ Decimal.padded places n, c.isDigit = true :=
      fun c => Decimal.isDigit_of_mem_padded
    have hspan : spanDigits 9 (Decimal.padded places n ++ ['Z']) =
        (Decimal.padded places n, ['Z']) := by
      refine spanDigits_append hdigits (by omega) (.inr fun c hc => ?_)
      cases hc
      rfl
    simp only [List.cons_append, readFraction, hspan, Decimal.digits?_padded, hlength,
      Option.bind_eq_bind, Option.bind_some, Option.pure_def]
    rfl
  unfold writeFraction
  split
  · next hzero =>
    rw [hzero]
    rfl
  · split
    · rw [hpoint 3 _ (by omega) (by omega) (by omega)]
      simp only [Nat.reducePow, Nat.reduceSub, Nat.pow_eq, Option.some.injEq, Prod.mk.injEq,
        and_true]
      omega
    · split
      · rw [hpoint 6 _ (by omega) (by omega) (by omega)]
        simp only [Nat.reducePow, Nat.reduceSub, Nat.pow_eq, Option.some.injEq, Prod.mk.injEq,
          and_true]
        omega
      · rw [hpoint 9 _ (by omega) (by omega) (by omega)]
        simp

/-! ## Dates and times -/

theorem readDate_write {d : Date} (hmonth : d.month < 100) (hday : d.dayOfMonth < 100)
    (rest : List Char) :
    readDate (writeYear d.year ++ '-' :: (Decimal.padded 2 d.month ++ '-' ::
      (Decimal.padded 2 d.dayOfMonth ++ rest))) = some (d, rest) := by
  have hdash : ∀ cs, readMark '-' ('-' :: cs) = some cs := readMark_cons (by decide)
  rw [readDate, readYear_writeYear (by simp)]
  simp only [hdash, readPart_padded hmonth, readPart_padded hday, Option.bind_eq_bind,
    Option.bind_some, Option.pure_def]

theorem readTime_write (s : Stamp) :
    readTime (Decimal.padded 2 (s.second / 3600) ++ ':' ::
      (Decimal.padded 2 (s.second / 60 % 60) ++ ':' ::
        (Decimal.padded 2 (s.second % 60 + s.nano / 1000000000) ++
          (writeFraction (s.nano % 1000000000) ++ ['Z'])))) = some (s.second, s.nano, ['Z']) := by
  have hsecond := s.second_lt
  have hnano := s.nano_lt
  have hleap := s.leap
  have hfraction := readFraction_writeFraction (Nat.mod_lt s.nano (by decide : 0 < 1000000000))
  have hcolon : ∀ cs, readMark ':' (':' :: cs) = some cs := readMark_cons (by decide)
  simp only [readTime, readPart_padded (show s.second / 3600 < 100 by omega),
    readPart_padded (show s.second / 60 % 60 < 100 by omega),
    readPart_padded (show s.second % 60 + s.nano / 1000000000 < 100 by omega),
    hcolon, hfraction, Option.bind_eq_bind, Option.bind_some,
    Option.pure_def]
  rw [if_pos (by omega)]
  simp only [Option.some.injEq, Prod.mk.injEq, and_true]
  omega

/-- An instant is the one that its date and its second of the day make up. -/
theorem assemble_parts (s : Stamp) : assemble (Date.ofDay s.day) s.second s.nano 0 = some s := by
  have hday := Date.toDay_ofDay s.day
  have hsecond := s.second_lt
  have hutc : (s.day * 86400 + s.second - 0) / 86400 = s.day := by omega
  have hrest : ((s.day * 86400 + s.second - 0) % 86400).toNat = s.second := by omega
  rw [assemble, if_pos ⟨Date.isValid_ofDay s.day, hday.symm ▸ s.isStampDay, by decide, by decide⟩]
  simp only [hday, hutc, hrest, Stamp.of?_parts]

/-- An instant is read from its text. -/
theorem read?_write (s : Stamp) : read? (write s) = some s := by
  have hvalid := Date.isValid_ofDay s.day
  have hmonth : (Date.ofDay s.day).month < 100 := Nat.lt_of_le_of_lt hvalid.2.1 (by decide)
  have hday : (Date.ofDay s.day).dayOfMonth < 100 :=
    Nat.lt_of_le_of_lt hvalid.dayOfMonth_le (by decide)
  have hoffset : readOffset (trimStart ['Z']) = some (0, []) := rfl
  have hend : trimStart [] = [] := rfl
  simp only [write, List.append_assoc, List.cons_append, read?, readDate_write hmonth hday,
    readTime_write, hoffset, hend, true_or, if_true, assemble_parts, Option.bind_eq_bind,
    Option.bind_some]

end SessionLedger.Time.Rfc3339
