/-! Whole numbers as decimal text. Writing gives the fewest digits, with a minus sign for a
negative number. Reading takes one or more ASCII digits after an optional plus sign, and, for a
signed number, after an optional minus sign; blanks are not allowed. -/
namespace SessionLedger.Text.Decimal

/-- The value of an ASCII digit. -/
def digit? (c : Char) : Option Nat :=
  if '0' ≤ c ∧ c ≤ '9' then some (c.toNat - '0'.toNat) else none

/-- The value of a run of digits, continuing from the value of the digits before it. -/
def digitsFrom? : Nat → List Char → Option Nat
  | n, [] => some n
  | n, c :: rest => (digit? c).bind fun d => digitsFrom? (10 * n + d) rest

/-- The value of a run of at least one digit. -/
def digits? : List Char → Option Nat
  | [] => none
  | cs => digitsFrom? 0 cs

/-- A number without a minus sign that is at most `greatest`. -/
def unsigned? (greatest : Nat) (s : String) : Option Nat :=
  let digits := match s.toList with
    | '+' :: rest => rest
    | cs => cs
  (digits? digits).filter (· ≤ greatest)

/-- A number with an optional sign. -/
def integer? (s : String) : Option Int :=
  match s.toList with
  | '+' :: rest => (digits? rest).map Int.ofNat
  | '-' :: rest => (digits? rest).map fun n => -(n : Int)
  | cs => (digits? cs).map Int.ofNat

/-- The 64-bit integer of that value, where there is one. -/
def int64? (i : Int) : Option Int64 :=
  if Int64.minValue.toInt ≤ i ∧ i ≤ Int64.maxValue.toInt then some (Int64.ofInt i) else none

/-- A number with an optional sign that fits in 64 bits. -/
def signed64? (s : String) : Option Int64 :=
  (integer? s).bind int64?

/-- The digits of a natural number. -/
def ofNat (n : Nat) : List Char :=
  Nat.toDigits 10 n

/-- The text of an integer. -/
def ofInt : Int → List Char
  | .ofNat n => ofNat n
  | .negSucc n => '-' :: ofNat (n + 1)

/-- The text of a 64-bit integer. -/
def ofInt64 (i : Int64) : String :=
  String.ofList (ofInt i.toInt)

/-- The digits of `n`, with zeros in front so that there are at least `width`. -/
def padded (width n : Nat) : List Char :=
  let digits := ofNat n
  List.replicate (width - digits.length) '0' ++ digits

/-- The greatest numbers of 16, 32 and 64 bits. -/
def greatest16 : Nat := Nat.pow 2 16 - 1

@[inherit_doc greatest16]
def greatest32 : Nat := Nat.pow 2 32 - 1

@[inherit_doc greatest16]
def greatest64 : Nat := Nat.pow 2 64 - 1

theorem int64?_toInt (i : Int64) : int64? i.toInt = some i := by
  simp only [int64?]
  rw [if_pos ⟨Int64.minValue_le_toInt i, Int64.toInt_le i⟩]
  simp

end SessionLedger.Text.Decimal
