import SessionLedger.Password.Pi
/-! The cipher under the password hash: it turns 64 bits, taken as two words, into others by sixteen
rounds. Its state is an array of 18 round keys followed by four tables of 256 words, which a key
and a salt are mixed into. -/
namespace SessionLedger.Password.Blowfish

/-- Round keys and tables. -/
abbrev State := Array UInt32

/-- The number of round keys. -/
def roundKeys : Nat := 18

/-- The number of words of a state. -/
def stateSize : Nat := roundKeys + 4 * 256

/-- The state before any key: the digits of pi. -/
def start : State :=
  Pi.digits stateSize

/-- The word that a round makes of half a block. -/
def mix (s : State) (x : UInt32) : UInt32 :=
  let a := s.getD (18 + (x >>> 24).toNat) 0
  let b := s.getD (274 + ((x >>> 16) &&& 0xFF).toNat) 0
  let c := s.getD (530 + ((x >>> 8) &&& 0xFF).toNat) 0
  let d := s.getD (786 + (x &&& 0xFF).toNat) 0
  ((a + b) ^^^ c) + d

/-- The last `n` rounds on the halves of a block; each round exchanges them. -/
def rounds (s : State) : Nat → UInt32 → UInt32 → UInt32 × UInt32
  | 0, l, r => (l, r)
  | n + 1, l, r =>
    let l := l ^^^ s.getD (15 - n) 0
    rounds s n (r ^^^ mix s l) l

/-- Enciphers a block. -/
def encipher (s : State) (l r : UInt32) : UInt32 × UInt32 :=
  let (l, r) := rounds s 16 l r
  (r ^^^ s.getD 17 0, l ^^^ s.getD 16 0)

/-- The word of four octets that starts at a place of a key, which is repeated without end. -/
def wordAt (key : Array UInt8) (place : Nat) : UInt32 :=
  let octet (i : Nat) : UInt32 := (key.getD ((place + i) % key.size) 0).toUInt32
  (octet 0 <<< 24) ||| (octet 1 <<< 16) ||| (octet 2 <<< 8) ||| octet 3

/-- Mixes a key into the last `n` of the round keys. -/
def addKey (key : Array UInt8) : Nat → State → State
  | 0, s => s
  | n + 1, s =>
    let i := roundKeys - 1 - n
    addKey key n (s.modify i (· ^^^ wordAt key (4 * i)))

/-- Replaces the last `2 * n` words of a state by blocks that are enciphered one after the other,
each mixed with the next two words of the salt. -/
def refill (salt : Array UInt8) : Nat → UInt32 → UInt32 → State → State
  | 0, _, _, s => s
  | n + 1, l, r, s =>
    let i := stateSize - 2 * (n + 1)
    let (l, r) := encipher s (l ^^^ wordAt salt (4 * i)) (r ^^^ wordAt salt (4 * (i + 1)))
    refill salt n l r ((s.setIfInBounds i l).setIfInBounds (i + 1) r)

/-- Mixes a salt and a key into a state. -/
def expand (salt key : Array UInt8) (s : State) : State :=
  refill salt (stateSize / 2) 0 0 (addKey key roundKeys s)

end SessionLedger.Password.Blowfish
