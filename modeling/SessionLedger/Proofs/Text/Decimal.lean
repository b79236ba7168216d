import SessionLedger.Text.Decimal

/-! Whole numbers are read from their own text, and keep their value in 64 bits. -/
namespace SessionLedger.Text.Decimal

theorem digit?_of_isDigit {c : Char} (h : c.isDigit = true) :
    digit? c = some (c.toNat - '0'.toNat) := by
  simp only [Char.isDigit, Bool.and_eq_true, decide_eq_true_eq] at h
  exact if_pos h

theorem digitsFrom?_of_isDigit {cs : List Char} (h : ∀ c ∈ cs, c.isDigit = true) (n : Nat) :
    digitsFrom? n cs = some (Nat.ofDigitChars 10 cs n) := by
  induction cs generalizing n with
  | nil => rfl
  | cons c cs ih =>
    rw [digitsFrom?, digit?_of_isDigit (h c (by simp)), Option.bind_some,
      ih (fun c' hc => h c' (by simp [hc])), Nat.ofDigitChars_cons]

theorem isDigit_of_mem_ofNat {n : Nat} {c : Char} (h : c ∈ ofNat n) : c.isDigit = true :=
  Nat.isDigit_of_mem_toDigits (by decide) (by decide) h

theorem digits?_ofNat (n : Nat) : digits? (ofNat n) = some n := by
  have hdigits := digitsFrom?_of_isDigit (fun c => isDigit_of_mem_ofNat (n := n)) 0
  rw [ofNat, Nat.ofDigitChars_ten_toDigits] at hdigits
  cases hcs : ofNat n with
  | nil => exact absurd hcs Nat.toDigits_ne_nil
  | cons c cs =>
    rw [digits?, ← hcs]
    · exact hdigits
    · simp

/-! ## Digits with zeros in front -/

theorem isDigit_of_mem_padded {width n : Nat} {c : Char} (h : c ∈ padded width n) :
    c.isDigit = true := by
  rcases List.mem_append.mp h with hzero | hdigit
  · rw [List.eq_of_mem_replicate hzero]
    rfl
  · exact isDigit_of_mem_ofNat hdigit

theorem padded_ne_nil (width n : Nat) : padded width n ≠ [] := by
  intro h
  exact Nat.toDigits_ne_nil (List.append_eq_nil_iff.mp h).2

/-- Zeros in front make no difference. -/
theorem digits?_padded (width n : Nat) : digits? (padded width n) = some n := by
  have hzeros : ∀ k, Nat.ofDigitChars 10 (List.replicate k '0') 0 = 0 := by
    intro k
    induction k with
    | zero => rfl
    | succ k ih => simp [List.replicate_succ, Nat.ofDigitChars_cons, ih]
  have hall : ∀ c ∈ padded width n, c.isDigit = true := fun c => isDigit_of_mem_padded
  have hdigits := digitsFrom?_of_isDigit hall 0
  have hvalue : Nat.ofDigitChars 10 (padded width n) 0 = n := by
    show Nat.ofDigitChars 10 (List.replicate _ '0' ++ Nat.toDigits 10 n) 0 = n
    rw [Nat.ofDigitChars_append, hzeros, Nat.ofDigitChars_ten_toDigits]
  rw [hvalue] at hdigits
  cases hcs : padded width n with
  | nil => exact absurd hcs (padded_ne_nil width n)
  | cons c cs =>
    rw [digits?, ← hcs]
    · exact hdigits
    · simp

theorem length_padded {width n : Nat} (hwidth : 0 < width) (h : n < Nat.pow 10 width) :
    (padded width n).length = width := by
  have hlength : (ofNat n).length ≤ width := (Nat.length_toDigits_le_iff (by decide) hwidth).mpr h
  simp only [padded, List.length_append, List.length_replicate]
  omega

theorem integer?_ofInt (i : Int) : integer? (String.ofList (ofInt i)) = some i := by
  cases i with
  | ofNat n =>
    -- The first digit is no sign.
    cases hcs : ofNat n with
    | nil => exact absurd hcs Nat.toDigits_ne_nil
    | cons c cs =>
      have hc : c.isDigit = true := isDigit_of_mem_ofNat (n := n) (by simp [hcs])
      simp only [integer?, ofInt, hcs, String.toList_ofList]
      split
      · next heq =>
        cases heq
        simp at hc
      · next heq =>
        cases heq
        simp at hc
      · rw [← hcs, digits?_ofNat]
        rfl
  | negSucc n =>
    simp only [integer?, ofInt, String.toList_ofList, digits?_ofNat]
    rfl

theorem ofInt_ne_nil (i : Int) : ofInt i ≠ [] := by
  cases i with
  | ofNat n => exact Nat.toDigits_ne_nil
  | negSucc n => exact List.cons_ne_nil _ _

/-- Nothing follows the first character of a number but digits. -/
theorem isDigit_of_getElem?_ofInt {i : Int} {k : Nat} {c : Char} (hpos : 0 < k)
    (h : (ofInt i)[k]? = some c) : c.isDigit = true := by
  cases i with
  | ofNat n => exact isDigit_of_mem_ofNat (List.mem_of_getElem? h)
  | negSucc n =>
    rw [ofInt, List.getElem?_cons, if_neg (by omega)] at h
    exact isDigit_of_mem_ofNat (List.mem_of_getElem? h)

/-- A 64-bit integer is read from its text. -/
theorem signed64?_ofInt64 (i : Int64) : signed64? (ofInt64 i) = some i := by
  rw [signed64?, ofInt64, integer?_ofInt, Option.bind_some, int64?_toInt]

theorem ofInt64_inj {i j : Int64} : ofInt64 i = ofInt64 j ↔ i = j := by
  constructor
  · intro h
    have hi := signed64?_ofInt64 i
    rw [h, signed64?_ofInt64, Option.some.injEq] at hi
    exact hi.symm
  · exact congrArg ofInt64

theorem toInt_of_int64? {i : Int} {d : Int64} (h : int64? i = some d) : d.toInt = i := by
  simp only [int64?] at h
  split at h
  · next hrange =>
    cases h
    exact Int64.toInt_ofInt_of_le hrange.1 (Int.lt_add_one_of_le hrange.2)
  · cases h

end SessionLedger.Text.Decimal
