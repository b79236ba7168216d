import SessionLedger.Text.Split
/-! Punycode: a label of any characters as ASCII. The ASCII characters come first, and after the
last hyphen stands, for each other character in ascending order, how far to go on: through the
places at which it may be inserted and, each time they are through, to the next code point. The
distances are numbers whose digits have a threshold that adapts to the distances before. -/
namespace SessionLedger.Idna.Punycode

/-- The parameters of the encoding. -/
def base : Nat := 36

@[inherit_doc base]
def leastThreshold : Nat := 1

@[inherit_doc base]
def greatestThreshold : Nat := 26

@[inherit_doc base]
def initialBias : Nat := 72

@[inherit_doc base]
def initialCodePoint : Nat := 128

/-- The greatest number of a distance, a weight or a code point. -/
def greatest : Nat := Nat.pow 2 32 - 1

/-- The threshold of the digit at a place, `place` being a multiple of the base. -/
def threshold (place bias : Nat) : Nat :=
  if place ≤ bias then leastThreshold
  else if bias + greatestThreshold ≤ place then greatestThreshold
  else place - bias

/-- Divides a distance down until it is small, adding the base to the bias each time; a distance
gets smaller with each division, so its size bounds them. -/
def settleBias : Nat → Nat → Nat → Nat
  | 0, _, bias => bias
  | steps + 1, delta, bias =>
    if (base - leastThreshold) * greatestThreshold / 2 < delta then
      settleBias steps (delta / (base - leastThreshold)) (bias + base)
    else bias + (base - leastThreshold + 1) * delta / (delta + 38)

/-- The bias after a distance, given how many characters there are now. -/
def adapt (delta count : Nat) (isFirst : Bool) : Nat :=
  let delta := if isFirst then delta / 700 else delta / 2
  settleBias delta.log2.succ (delta + delta / count) 0

/-- The digit of a character. -/
def digit? (c : Char) : Option Nat :=
  if '0' ≤ c ∧ c ≤ '9' then some (c.toNat - '0'.toNat + 26)
  else if 'A' ≤ c ∧ c ≤ 'Z' then some (c.toNat - 'A'.toNat)
  else if 'a' ≤ c ∧ c ≤ 'z' then some (c.toNat - 'a'.toNat)
  else none

/-- The character of a digit. -/
def digitChar (d : Nat) : Char :=
  if d < 26 then Char.ofNat ('a'.toNat + d) else Char.ofNat ('0'.toNat + (d - 26))

/-! ## Decoding -/

/-- Reads a distance and adds it to `i`; the characters after it are the rest. -/
def readDelta (bias : Nat) : Nat → Nat → Nat → List Char → Option (Nat × List Char)
  | _, _, _, [] => none
  | i, weight, place, c :: rest => do
    let d ← digit? c
    if (greatest - i) / weight < d then none
    let i := i + d * weight
    let t := threshold place bias
    if d < t then return (i, rest)
    if greatest / (base - t) < weight then none
    readDelta bias i (weight * (base - t)) (place + base) rest

/-- Inserts the remaining characters; each takes a digit, so their number bounds the steps. -/
def insertWithin : Nat → Nat → Nat → Nat → List Char → List Char → Option (List Char)
  | _, _, _, _, decoded, [] => some decoded
  | 0, _, _, _, _, _ :: _ => none
  | steps + 1, codePoint, i, bias, decoded, c :: rest => do
    let (next, rest) ← readDelta bias i 1 base (c :: rest)
    let count := decoded.length + 1
    let bias := adapt (next - i) count (i == 0)
    if greatest - codePoint < next / count then none
    let codePoint := codePoint + next / count
    let place := next % count
    if !codePoint.isValidChar then none
    insertWithin steps codePoint (place + 1) bias
      (decoded.take place ++ Char.ofNat codePoint :: decoded.drop place) rest

/-- The characters that an encoded label stands for. -/
def decode? (cs : List Char) : Option (List Char) :=
  match Text.splitLast? '-' cs with
  | none => insertWithin cs.length initialCodePoint 0 initialBias [] cs
  | some (basic, digits) =>
    if basic.isEmpty || basic.any (127 < ·.toNat) then none
    else insertWithin digits.length initialCodePoint 0 initialBias basic digits

/-! ## Encoding -/

/-- The digits of a distance; each digit divides it, so its size bounds them. -/
def writeDelta (bias : Nat) : Nat → Nat → Nat → List Char
  | 0, _, _ => []
  | steps + 1, place, q =>
    let t := threshold place bias
    if q < t then [digitChar q]
    else
      digitChar (t + (q - t) % (base - t)) ::
        writeDelta bias steps (place + base) ((q - t) / (base - t))

/-- Goes through the characters of a label for one code point: those before it add one to the
distance, and each that is it writes the distance and starts anew. -/
def writeRound (codePoint basicCount : Nat) :
    List Char → Nat → Nat → Nat → List Char × Nat × Nat × Nat
  | [], delta, bias, handled => ([], delta, bias, handled)
  | c :: rest, delta, bias, handled =>
    if c.toNat < codePoint then writeRound codePoint basicCount rest (delta + 1) bias handled
    else if c.toNat = codePoint then
      let digits := writeDelta bias (delta + 1) base delta
      let bias := adapt delta (handled + 1) (handled == basicCount)
      let (later, state) := writeRound codePoint basicCount rest 0 bias (handled + 1)
      (digits ++ later, state)
    else writeRound codePoint basicCount rest delta bias handled

/-- Writes the code points that are left, the smallest first; each round handles a character, so
their number bounds the rounds. -/
def writeRounds (cs : List Char) (basicCount : Nat) : Nat → Nat → Nat → Nat → Nat → List Char
  | 0, _, _, _, _ => []
  | steps + 1, codePoint, delta, bias, handled =>
    match ((cs.map Char.toNat).filter (codePoint ≤ ·)).min? with
    | none => []
    | some next =>
      let delta := delta + (next - codePoint) * (handled + 1)
      let (digits, delta, bias, handled) := writeRound next basicCount cs delta bias handled
      digits ++ writeRounds cs basicCount steps (next + 1) (delta + 1) bias handled

/-- The encoded form of a label. -/
def encode (cs : List Char) : List Char :=
  let basic := cs.filter (·.toNat < 128)
  (if basic.isEmpty then [] else basic ++ ['-']) ++
    writeRounds cs basic.length cs.length initialCodePoint 0 initialBias basic.length

end SessionLedger.Idna.Punycode
