import SessionLedger.Text.Blank
import SessionLedger.Text.Decimal
import SessionLedger.Time.Stamp
/-! Instants as text by RFC 3339. Writing uses `Z` and 0, 3, 6 or 9 digits of a second, as few as
are exact. Reading is more liberal: blanks may stand around and before each part, a part may have
fewer digits, a year outside 0 to 9999 has a sign, and the offset may be written `UTC`. -/
namespace SessionLedger.Time.Rfc3339
open Text

/-! ## Writing -/

/-- A year between 0 and 9999 has four digits; any other has a sign and at least four digits. -/
def writeYear (year : Int) : List Char :=
  if 0 ≤ year ∧ year ≤ 9999 then Decimal.padded 4 year.toNat
  else (if year < 0 then '-' else '+') :: Decimal.padded 4 year.natAbs

/-- The digits of a second, after a point. -/
def writeFraction (nano : Nat) : List Char :=
  if nano = 0 then []
  else if nano % 1000000 = 0 then '.' :: Decimal.padded 3 (nano / 1000000)
  else if nano % 1000 = 0 then '.' :: Decimal.padded 6 (nano / 1000)
  else '.' :: Decimal.padded 9 nano

/-- The text of an instant; a leap second is second 60. -/
def write (s : Stamp) : List Char :=
  let date := Date.ofDay s.day
  let leap := s.nano / 1000000000
  writeYear date.year ++ '-' :: Decimal.padded 2 date.month ++ '-' ::
    Decimal.padded 2 date.dayOfMonth ++ 'T' :: Decimal.padded 2 (s.second / 3600) ++ ':' ::
    Decimal.padded 2 (s.second / 60 % 60) ++ ':' :: Decimal.padded 2 (s.second % 60 + leap) ++
    writeFraction (s.nano % 1000000000) ++ ['Z']

/-! ## Reading -/

/-- Up to `n` leading digits and what follows them. -/
def spanDigits : Nat → List Char → List Char × List Char
  | n + 1, c :: rest =>
    if (Decimal.digit? c).isSome then
      let (digits, rest) := spanDigits n rest
      (c :: digits, rest)
    else ([], c :: rest)
  | _, cs => ([], cs)

/-- A number of at least one and at most `width` digits. -/
def readNumber (width : Nat) (cs : List Char) : Option (Nat × List Char) := do
  let (digits, rest) := spanDigits width cs
  return (← Decimal.digits? digits, rest)

/-- A number of at most two digits, after blanks. -/
def readPart (cs : List Char) : Option (Nat × List Char) :=
  readNumber 2 (trimStart cs)

/-- A year, after blanks: up to four digits, or any number of them after a sign. -/
def readYear (cs : List Char) : Option (Int × List Char) :=
  match trimStart cs with
  | '-' :: rest => (readNumber rest.length rest).map fun (n, rest) => (-(n : Int), rest)
  | '+' :: rest => (readNumber rest.length rest).map fun (n, rest) => ((n : Int), rest)
  | cs => (readNumber 4 cs).map fun (n, rest) => ((n : Int), rest)

/-- A mark between two parts, after blanks. -/
def readMark (mark : Char) (cs : List Char) : Option (List Char) :=
  match trimStart cs with
  | c :: rest => if c = mark then some rest else none
  | [] => none

/-- The nanoseconds of a second: a point and at least one digit, of which nine count. -/
def readFraction : List Char → Option (Nat × List Char)
  | '.' :: cs => do
    let (digits, rest) := spanDigits 9 cs
    let n ← Decimal.digits? digits
    return (n * Nat.pow 10 (9 - digits.length), rest.dropWhile fun c => (Decimal.digit? c).isSome)
  | cs => some (0, cs)

/-- The seconds of a written offset, given its sign: two digits of hours and two of minutes, with
colons and blanks between them. -/
def readHoursMinutes (sign : Int) : List Char → Option (Int × List Char)
  | a :: b :: rest => do
    let hours := 10 * (← Decimal.digit? a) + (← Decimal.digit? b)
    match rest.dropWhile fun c => c = ':' || isBlank c with
    | c :: d :: rest =>
      let tens ← Decimal.digit? c
      let minutes := 10 * tens + (← Decimal.digit? d)
      if tens < 6 then return (sign * (hours * 3600 + minutes * 60 : Nat), rest) else none
    | _ => none
  | _ => none

/-- The offset from Coordinated Universal Time, in seconds. -/
def readOffset : List Char → Option (Int × List Char)
  | 'Z' :: rest => some (0, rest)
  | 'z' :: rest => some (0, rest)
  | '+' :: rest => readHoursMinutes 1 rest
  | '-' :: rest => readHoursMinutes (-1) rest
  | '−' :: rest => readHoursMinutes (-1) rest
  | a :: b :: c :: rest =>
    if [a, b, c].map Char.toUpper = ['U', 'T', 'C'] then some (0, rest) else none
  | _ => none

/-- A date. -/
def readDate (cs : List Char) : Option (Date × List Char) := do
  let (year, cs) ← readYear cs
  let (month, cs) ← readPart (← readMark '-' cs)
  let (dayOfMonth, cs) ← readPart (← readMark '-' cs)
  return (⟨year, month, dayOfMonth⟩, cs)

/-- A second of the day and the nanoseconds since then; second 60 of a minute is the leap second
after second 59. -/
def readTime (cs : List Char) : Option (Nat × Nat × List Char) := do
  let (hour, cs) ← readPart cs
  let (minute, cs) ← readPart (← readMark ':' cs)
  let (second, cs) ← readPart (← readMark ':' cs)
  let (nano, cs) ← readFraction cs
  if hour < 24 ∧ minute < 60 ∧ second ≤ 60 then
    let leap := second / 60
    return (3600 * hour + 60 * minute + second - leap, nano + leap * 1000000000, cs)
  else none

/-- The instant of a local date and time at an offset; the local date has to be that of an
instant, too. -/
def assemble (date : Date) (second nano : Nat) (offset : Int) : Option Stamp :=
  if date.IsValid ∧ IsStampDay date.toDay ∧ -86400 < offset ∧ offset < 86400 then
    let utc := date.toDay * 86400 + second - offset
    Stamp.of? (utc / 86400) (utc % 86400).toNat nano
  else none

/-- The instant that a text denotes. -/
def read? (cs : List Char) : Option Stamp := do
  let (date, cs) ← readDate cs
  match cs with
  | mark :: cs =>
    if mark = 'T' ∨ mark = 't' ∨ mark = ' ' then
      let (second, nano, cs) ← readTime cs
      let (offset, cs) ← readOffset (trimStart cs)
      if trimStart cs = [] then assemble date second nano offset else none
    else none
  | [] => none

end SessionLedger.Time.Rfc3339
