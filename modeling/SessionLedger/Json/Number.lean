import SessionLedger.Json.Reading
/-! Reading a JSON number. A number without a fraction and an exponent that is not below -2^63 and
not above 2^64 - 1 is an integer; minus zero and all other numbers are fractional, and have to be
less than 2^1024 in magnitude. -/
namespace SessionLedger.Json

/-- A number; of a fractional one only that it is one, and whether its sign is a minus. -/
inductive Number where
  | integer (i : Int)
  | fractional (isNegative : Bool)
  deriving DecidableEq, Repr

namespace Number

/-- The value of a run of digits. -/
def ofDigits (digits : List UInt8) : Nat :=
  digits.foldl (fun n b => 10 * n + (b.toNat - 0x30)) 0

/-- The magnitude, times a power of ten, rounds to 2^1024 or more. -/
def isTooLarge (magnitude : Nat) (exponent : Int) : Bool :=
  magnitude != 0 && 0 ≤ exponent &&
    (308 < exponent ||
      Nat.pow 2 1024 - Nat.pow 2 970 ≤ magnitude * Nat.pow 10 exponent.toNat)

/-- The fractional number of a magnitude times a power of ten. -/
def fraction (isNegative : Bool) (magnitude : Nat) (exponent : Int) : Reader Number := fun s =>
  if isTooLarge magnitude exponent then .fault .grammar s else .value (.fractional isNegative) s

/-- The number without fraction and exponent. -/
def whole (isNegative : Bool) (magnitude : Nat) : Reader Number :=
  if isNegative then
    if magnitude = 0 ∨ Nat.pow 2 63 < magnitude then fraction true magnitude 0
    else .pure (.integer (-magnitude))
  else if Nat.pow 2 64 ≤ magnitude then fraction false magnitude 0
  else .pure (.integer magnitude)

/-- Reads the digits of an exponent whose value so far is `value`. Beyond 31 bits the number is
too large at once, unless it is zero or the exponent negative; then the further digits do not
matter. -/
def readExponentDigits (isNegative : Bool) (magnitude : Nat) (exponent : Int)
    (exponentIsNegative : Bool) : Nat → Reader Number
  | value, [] =>
    fraction isNegative magnitude
      (if exponentIsNegative then exponent - value else exponent + value) []
  | value, b :: rest =>
    if isDigitOctet b then
      let value := 10 * value + (b.toNat - 0x30)
      if Nat.pow 2 31 ≤ value then
        if magnitude != 0 && !exponentIsNegative then .fault .grammar rest
        else .value (.fractional isNegative) (rest.dropWhile isDigitOctet)
      else readExponentDigits isNegative magnitude exponent exponentIsNegative value rest
    else
      fraction isNegative magnitude
        (if exponentIsNegative then exponent - value else exponent + value) (b :: rest)

/-- Reads an exponent after its letter: an optional sign and at least one digit. -/
def readExponent (isNegative : Bool) (magnitude : Nat) (exponent : Int) : Reader Number := fun s =>
  let exponentIsNegative := s.head? == some minusSign
  match if exponentIsNegative || s.head? == some 0x2B then s.tail else s with
  | [] => .fault .grammar []
  | b :: rest =>
    if isDigitOctet b then
      readExponentDigits isNegative magnitude exponent exponentIsNegative 0 (b :: rest)
    else .fault .grammar rest

/-- An optional exponent after the digits of a number with a fraction. -/
def readAfterFraction (isNegative : Bool) (magnitude : Nat) (exponent : Int) : Reader Number :=
  fun s => match s with
  | b :: rest =>
    if isExponentLetter b then readExponent isNegative magnitude exponent rest
    else fraction isNegative magnitude exponent (b :: rest)
  | [] => fraction isNegative magnitude exponent []

/-- Reads what follows the digits before the point. -/
def readAfterDigits (isNegative : Bool) (digits : List UInt8) : Reader Number := fun s =>
  match s with
  | b :: rest =>
    if b = 0x2E then
      let places := rest.takeWhile isDigitOctet
      let rest := rest.dropWhile isDigitOctet
      if places.isEmpty then .fault .grammar rest
      else readAfterFraction isNegative (ofDigits (digits ++ places)) (-places.length) rest
    else if isExponentLetter b then readExponent isNegative (ofDigits digits) 0 rest
    else whole isNegative (ofDigits digits) (b :: rest)
  | [] => whole isNegative (ofDigits digits) []

/-- Reads a number after its sign; a zero in front of further digits is refused. -/
def readUnsigned (isNegative : Bool) : Reader Number := fun s =>
  match s with
  | [] => .fault .grammar []
  | b :: rest =>
    if !isDigitOctet b then .fault .grammar rest
    else if b = 0x30 then
      if rest.head?.any isDigitOctet then .fault .grammar rest
      else readAfterDigits isNegative [b] rest
    else readAfterDigits isNegative (b :: rest.takeWhile isDigitOctet) (rest.dropWhile isDigitOctet)

/-- Reads a number that starts with a sign or a digit. -/
def read : Reader Number := fun s =>
  if s.head? = some minusSign then readUnsigned true s.tail else readUnsigned false s

end Number

end SessionLedger.Json
