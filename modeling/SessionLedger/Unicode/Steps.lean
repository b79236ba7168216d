import SessionLedger.Text.Blank
/-! Tables of a property of characters. A table is a list of steps: a code point in hexadecimal, an
equals sign, and the value that holds from there on. -/
namespace SessionLedger.Unicode

/-- The value of a hexadecimal digit in capitals. -/
def hexDigit? (c : Char) : Option Nat :=
  if '0' ≤ c ∧ c ≤ '9' then some (c.toNat - '0'.toNat)
  else if 'A' ≤ c ∧ c ≤ 'F' then some (c.toNat - 'A'.toNat + 10)
  else none

/-- The number that hexadecimal digits denote. -/
def readHex (cs : List Char) : Nat :=
  cs.foldl (fun n c => 16 * n + (hexDigit? c).getD 0) 0

/-- Characters as their code points, separated by points. -/
def readChars (cs : List Char) : List Char :=
  ((Text.pieces (· == '.') cs).filter (!·.isEmpty)).map fun digits => Char.ofNat (readHex digits)

/-- Steps in ascending order of their code points. -/
abbrev Steps (α : Type) := Array (Nat × α)

namespace Steps
variable {α : Type}

/-- Reads a table; steps are separated by blanks. -/
def read (value : List Char → α) (text : String) : Steps α :=
  ((Text.pieces Char.isWhitespace text.toList).map fun word =>
    (readHex (word.takeWhile (· ≠ '=')), value (word.dropWhile (· ≠ '=')).tail)).toArray

/-- The last step between `low` and `high` that is not beyond `n`, in at most as many halvings as
the given number; the step at `low` is not beyond it. -/
def search (t : Steps α) (n : Nat) : Nat → Nat → Nat → Option (Nat × α)
  | 0, low, _ => t[low]?
  | k + 1, low, high =>
    if high ≤ low + 1 then t[low]?
    else
      let middle := (low + high) / 2
      if t[middle]?.any (·.1 ≤ n) then search t n k middle high else search t n k low middle

/-- The last step that is not beyond a character. -/
def last? (t : Steps α) (c : Char) : Option (Nat × α) :=
  (t.search c.toNat t.size 0 t.size).filter (·.1 ≤ c.toNat)

/-- The value that holds at a character. -/
def at? (t : Steps α) (c : Char) : Option α :=
  (t.last? c).map (·.2)

/-- The value of a step at just that character. -/
def exactly? (t : Steps α) (c : Char) : Option α :=
  ((t.last? c).filter (·.1 == c.toNat)).map (·.2)

end Steps

end SessionLedger.Unicode
