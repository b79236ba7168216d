/-! The Gregorian calendar, extended in both directions. Days are counted from 1970-01-01, which
is day 0. Main statement: the date of a day is a date of the calendar, and its day is that day. -/
namespace SessionLedger.Time

/-- The year has a 29 February. -/
def isLeapYear (year : Int) : Bool :=
  year % 4 == 0 && (year % 100 != 0 || year % 400 == 0)

/-- The lengths of the months, January first. -/
def monthLengths (year : Int) : List Nat :=
  [31, if isLeapYear year then 29 else 28, 31, 30, 31, 30, 31, 31, 30, 31, 30, 31]

/-- How many days some months have together. -/
def total : List Nat → Nat
  | [] => 0
  | length :: later => length + total later

/-- The day of 1 January. -/
def firstDay (year : Int) : Int :=
  365 * (year - 1) + (year - 1) / 4 - (year - 1) / 100 + (year - 1) / 400 - 719162

/-- The year that holds a day. The first guess, by the mean length of a year, is at most one year
off. -/
def yearOf (day : Int) : Int :=
  let guess := (day + 719162) * 400 / 146097 + 1
  if firstDay (guess + 1) ≤ day then guess + 1
  else if day < firstDay guess then guess - 1
  else guess

/-- A year, a month and a day of the month, the latter two counted from 1. -/
structure Date where
  year : Int
  month : Nat
  dayOfMonth : Nat
  deriving DecidableEq, Repr

/-- The month, counted on from `month`, and the day of the month that lie `rest` days after the
first day of `month`, given the lengths of the months from there on. -/
def monthAndDay (month rest : Nat) : List Nat → Nat × Nat
  | [] => (month, rest + 1)
  | length :: later =>
    if rest < length then (month, rest + 1) else monthAndDay (month + 1) (rest - length) later

/-- The date of a day. -/
def Date.ofDay (day : Int) : Date :=
  let year := yearOf day
  let (month, dayOfMonth) := monthAndDay 1 (day - firstDay year).toNat (monthLengths year)
  ⟨year, month, dayOfMonth⟩

/-- The month and the day of the month exist in that year. -/
def Date.IsValid (d : Date) : Prop :=
  1 ≤ d.month ∧ d.month ≤ 12 ∧ 1 ≤ d.dayOfMonth ∧
    d.dayOfMonth ≤ (monthLengths d.year).getD (d.month - 1) 0

instance (d : Date) : Decidable d.IsValid :=
  inferInstanceAs (Decidable (_ ∧ _))

/-- The day of a date. -/
def Date.toDay (d : Date) : Int :=
  firstDay d.year + total ((monthLengths d.year).take (d.month - 1)) + d.dayOfMonth - 1

/-- A year lasts 365 days, or 366 if it is a leap year. -/
theorem firstDay_succ (year : Int) :
    firstDay (year + 1) = firstDay year + total (monthLengths year) := by
  have h : (total (monthLengths year) : Int) = if isLeapYear year then 366 else 365 := by
    unfold monthLengths
    split <;> rfl
  rw [h]
  simp only [isLeapYear, firstDay, Bool.and_eq_true, Bool.or_eq_true, beq_iff_eq, bne_iff_ne]
  split <;> omega

theorem firstDay_yearOf (day : Int) :
    firstDay (yearOf day) ≤ day ∧ day < firstDay (yearOf day + 1) := by
  simp only [yearOf]
  split
  · simp only [firstDay] at *
    omega
  · split
    · simp only [firstDay] at *
      omega
    · simp only [firstDay] at *
      omega

/-- The month that holds a day is the one before whose end, and not before whose start, it lies. -/
theorem monthAndDay_eq {lengths : List Nat} {rest : Nat} (h : rest < total lengths) (month : Nat) :
    ∃ k < lengths.length, total (lengths.take k) ≤ rest ∧
      rest < total (lengths.take k) + lengths.getD k 0 ∧
      monthAndDay month rest lengths = (month + k, rest - total (lengths.take k) + 1) := by
  induction lengths generalizing rest month with
  | nil => exact absurd h (Nat.not_lt_zero rest)
  | cons length later ih =>
    by_cases hrest : rest < length
    · refine ⟨0, Nat.zero_lt_succ _, Nat.zero_le _, by simpa [total] using hrest, ?_⟩
      simp [monthAndDay, hrest, total]
    · have hlater : rest - length < total later := by
        rw [total] at h
        omega
      obtain ⟨k, hk, hle, hlt, heq⟩ := ih hlater (month + 1)
      refine ⟨k + 1, Nat.succ_lt_succ hk, ?_, ?_, ?_⟩
      · simp only [List.take_succ_cons, total]
        omega
      · simp only [List.take_succ_cons, total, List.getD_cons_succ]
        omega
      · simp only [monthAndDay, if_neg hrest, heq, List.take_succ_cons, total, Prod.mk.injEq]
        omega

/-- The date of a day, by the days of its year that come before it. -/
theorem Date.ofDay_eq (day : Int) :
    ∃ k < 12, ∃ n : Nat, 1 ≤ n ∧ n ≤ (monthLengths (yearOf day)).getD k 0 ∧
      Date.ofDay day = ⟨yearOf day, 1 + k, n⟩ ∧
      day = firstDay (yearOf day) + total ((monthLengths (yearOf day)).take k) + n - 1 := by
  obtain ⟨hfirst, hlast⟩ := firstDay_yearOf day
  rw [firstDay_succ] at hlast
  have hrest : (day - firstDay (yearOf day)).toNat < total (monthLengths (yearOf day)) := by
    omega
  obtain ⟨k, hk, hle, hlt, heq⟩ := monthAndDay_eq hrest 1
  refine ⟨k, hk, (day - firstDay (yearOf day)).toNat -
    total ((monthLengths (yearOf day)).take k) + 1, Nat.succ_pos _, by omega, ?_, by omega⟩
  simp only [Date.ofDay, heq]

theorem Date.isValid_ofDay (day : Int) : (Date.ofDay day).IsValid := by
  obtain ⟨k, hk, n, hpos, hle, heq, -⟩ := Date.ofDay_eq day
  rw [heq]
  have hmonth : 1 + k - 1 = k := by omega
  refine ⟨Nat.le_add_right 1 k, ?_, hpos, ?_⟩
  · show 1 + k ≤ 12
    omega
  · show n ≤ (monthLengths (yearOf day)).getD (1 + k - 1) 0
    rwa [hmonth]

/-- No month is longer than 31 days. -/
theorem Date.IsValid.dayOfMonth_le {d : Date} (h : d.IsValid) : d.dayOfMonth ≤ 31 := by
  obtain ⟨-, hmonth, -, hle⟩ := h
  have hall : ∀ n ∈ monthLengths d.year, n ≤ 31 := by
    simp only [monthLengths, List.mem_cons, List.not_mem_nil, or_false]
    split <;> omega
  have hlast : d.month - 1 < (monthLengths d.year).length := by
    show d.month - 1 < 12
    omega
  rw [List.getD_eq_getElem?_getD, List.getElem?_eq_getElem hlast, Option.getD_some] at hle
  exact Nat.le_trans hle (hall _ (List.getElem_mem hlast))

theorem Date.toDay_ofDay (day : Int) : (Date.ofDay day).toDay = day := by
  obtain ⟨k, -, n, -, -, heq, hday⟩ := Date.ofDay_eq day
  rw [heq, Date.toDay]
  simp only [Nat.add_sub_cancel_left]
  exact hday.symm

end SessionLedger.Time
