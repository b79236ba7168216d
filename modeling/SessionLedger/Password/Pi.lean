/-! The fractional digits of the number pi in base 2^32, from which the first state of a password
cipher is taken. They come from pi = 16 arctan (1/5) - 4 arctan (1/239), with each arctangent
summed as x - x^3/3 + x^5/5 - ... in whole multiples of a small unit. -/
namespace SessionLedger.Password.Pi

/-- Adds `steps` further terms of the series of arctan (1/n) to `sum`. The power of 1/n of the next
term is `power` units, and it is divided by `odd`. -/
def addTerms (n : Nat) : Nat → Nat → Nat → Int → Int
  | 0, _, _, sum => sum
  | steps + 1, power, odd, sum =>
    if power = 0 then sum
    else
      let term : Int := (power / odd : Nat)
      addTerms n steps (power / (n * n)) (odd + 2) (if odd % 4 = 1 then sum + term else sum - term)

/-- The units in arctan (1/n), given the units in one, a power of two with exponent `bits`. -/
def arctanInverse (bits n : Nat) : Int :=
  addTerms n bits (Nat.pow 2 bits / n) 1 0

/-- The bits beyond the last digit that keep it exact. -/
def guardBits : Nat := 64

/-- The first `count` digits of the fraction of pi in base 2^32. -/
def digits (count : Nat) : Array UInt32 :=
  let bits := 32 * count + guardBits
  let pi := (16 * arctanInverse bits 5 - 4 * arctanInverse bits 239).toNat
  let fraction := (pi - 3 * Nat.pow 2 bits) / Nat.pow 2 guardBits
  (Array.range count).map fun i => (fraction >>> (32 * (count - 1 - i))).toUInt32

end SessionLedger.Password.Pi
