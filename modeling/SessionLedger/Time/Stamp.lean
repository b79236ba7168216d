import SessionLedger.Time.Calendar
/-! Instants of Coordinated Universal Time to the nanosecond, in the years -262143 to 262142. A
leap second counts as nanoseconds beyond the end of a second 59. -/
namespace SessionLedger.Time

/-- The first and the last year of an instant. -/
def firstYear : Int := -262143

@[inherit_doc firstYear]
def lastYear : Int := 262142

/-- The day lies in a year of an instant. -/
def IsStampDay (day : Int) : Prop :=
  firstDay firstYear ≤ day ∧ day < firstDay (lastYear + 1)

instance (day : Int) : Decidable (IsStampDay day) :=
  inferInstanceAs (Decidable (_ ∧ _))

/-- A day, a second of the day, and nanoseconds since that second. -/
structure Stamp where
  day : Int
  second : Nat
  nano : Nat
  isStampDay : IsStampDay day
  second_lt : second < 86400
  nano_lt : nano < 2000000000
  leap : 1000000000 ≤ nano → second % 60 = 59
  deriving DecidableEq, Repr

/-- The instant with those parts, where there is one. -/
def Stamp.of? (day : Int) (second nano : Nat) : Option Stamp :=
  if h : IsStampDay day ∧ second < 86400 ∧ nano < 2000000000 ∧
      (1000000000 ≤ nano → second % 60 = 59) then
    some ⟨day, second, nano, h.1, h.2.1, h.2.2.1, h.2.2.2⟩
  else none

/-- The instant that many milliseconds after the start of 1970. -/
def Stamp.ofMillis? (millis : Nat) : Option Stamp :=
  Stamp.of? (millis / 86400000 : Nat) (millis / 1000 % 86400) (millis % 1000 * 1000000)

/-- The start of 1970. -/
def Stamp.epoch : Stamp :=
  ⟨0, 0, 0, by decide, by decide, by decide, by decide⟩

/-- The whole seconds since the start of 1970 that an instant may be written in. -/
def IsStampSecond (second : Int) : Prop :=
  IsStampDay (second / 86400)

instance (second : Int) : Decidable (IsStampSecond second) :=
  inferInstanceAs (Decidable (IsStampDay _))

@[simp] theorem Stamp.of?_parts (s : Stamp) : Stamp.of? s.day s.second s.nano = some s := by
  simp only [Stamp.of?]
  rw [dif_pos ⟨s.isStampDay, s.second_lt, s.nano_lt, s.leap⟩]

end SessionLedger.Time
