import SessionLedger.Encoding.Base64
import SessionLedger.Password.Blowfish
import SessionLedger.Text.Blank
import SessionLedger.Text.Decimal
import SessionLedger.Text.Utf8
/-! Password hashes. A hash is written as a version, the binary logarithm of the number of passes,
and 53 symbols in base 64: 22 of the salt and 31 of the digest, with dollar signs around and
between them. A password counts as its octets and one zero octet, of which at most 72 matter. -/
namespace SessionLedger.Password
open Encoding Text

/-- The least and the greatest cost, the binary logarithm of the number of passes. -/
def leastCost : Nat := 4

@[inherit_doc leastCost]
def greatestCost : Nat := 31

/-- The cost is allowed. -/
def isCost (cost : Nat) : Bool :=
  leastCost ≤ cost && cost ≤ greatestCost

/-- The parts of a written hash. -/
structure Hash where
  cost : Nat
  salt : List UInt8
  digest : List UInt8
  deriving DecidableEq, Repr

/-- Mixes key and salt into a state by turns, `n` times. -/
def passes (key salt : Array UInt8) : Nat → Blowfish.State → Blowfish.State
  | 0, s => s
  | n + 1, s => passes key salt n (Blowfish.expand #[] salt (Blowfish.expand #[] key s))

/-- Enciphers a block `n` times. -/
def encipherTimes (s : Blowfish.State) : Nat → UInt32 → UInt32 → UInt32 × UInt32
  | 0, l, r => (l, r)
  | n + 1, l, r =>
    let (l, r) := Blowfish.encipher s l r
    encipherTimes s n l r

/-- The octets of a word, the most significant first. -/
def octets (w : UInt32) : List UInt8 :=
  [(w >>> 24).toUInt8, (w >>> 16).toUInt8, (w >>> 8).toUInt8, w.toUInt8]

/-- The text that is enciphered: "OrpheanBeholderScryDoubt" in blocks of two words. -/
def plainBlocks : List (UInt32 × UInt32) :=
  [(0x4F727068, 0x65616E42), (0x65686F6C, 0x64657253), (0x63727944, 0x6F756274)]

/-- The octets of a password that matter. -/
def keyOf (password : String) : List UInt8 :=
  (Utf8.encode password ++ [0]).take 72

/-- The digest of a password, 23 octets. -/
def digest (password : String) (cost : Nat) (salt : List UInt8) : List UInt8 :=
  let key := (keyOf password).toArray
  let salt := salt.toArray
  let s := passes key salt (Nat.pow 2 cost) (Blowfish.expand salt key Blowfish.start)
  (plainBlocks.flatMap fun (l, r) =>
    let (l, r) := encipherTimes s 64 l r
    octets l ++ octets r).take 23

/-- The versions of written hashes; they do not differ in the digest. -/
def versions : List String := ["2a", "2b", "2x", "2y"]

/-- Reads a written hash. Empty parts between dollar signs do not count. -/
def Hash.read? (written : String) : Option Hash := do
  match (pieces (· == '$') written.toList).filter (!·.isEmpty) with
  | [version, cost, symbols] =>
    if !versions.contains (String.ofList version) then none
    let cost ← Decimal.unsigned? Decimal.greatest32 (String.ofList cost)
    if symbols.length ≠ 53 || !isCost cost then none
    let salt ← Base64.decode? Base64.dotSlash (symbols.take 22)
    let digest ← Base64.decode? Base64.dotSlash (symbols.drop 22)
    return ⟨cost, salt, digest⟩
  | _ => none

/-- What a comparison of a password with a text comes to. A text that is no hash is unusable: it is
not compared with at all. -/
inductive Verdict where
  | fits
  | differs
  | unusable
  deriving DecidableEq, Repr

/-- Compares a password with a text that is to be a written hash. -/
def accepts (password written : String) : Verdict :=
  match Hash.read? written with
  | some h => if digest password h.cost h.salt == h.digest then .fits else .differs
  | none => .unusable

end SessionLedger.Password
