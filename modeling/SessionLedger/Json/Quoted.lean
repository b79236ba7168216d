import SessionLedger.Json.Reading
/-! Reading a JSON string after its opening quote, one octet at a time. Escapes of surrogates have
to come in pairs, and what the octets and escapes amount to has to be UTF-8. -/
namespace SessionLedger.Json.Quoted
open Text

/-- Where the reading of a string stands. -/
inductive Stage where
  /-- Between characters. -/
  | plain
  /-- After a backslash. -/
  | escaped
  /-- Within the four digits of an escape, which are given latest first; it may be the second of
  a pair of surrogates. -/
  | digits (high : Option Nat) (read : List UInt8)
  /-- After the first surrogate of a pair. -/
  | paired (high : Nat)
  /-- After the first surrogate of a pair and a backslash. -/
  | pairedEscape (high : Nat)

/-- What an octet does. -/
inductive Step where
  /-- It moves on and adds octets to the string. -/
  | next (stage : Stage) (added : List UInt8)
  /-- It closes the string. -/
  | closed
  /-- It is out of place. -/
  | refused

/-- The octet that a letter after a backslash stands for. -/
def letter? (b : UInt8) : Option UInt8 :=
  if b = quoteMark ∨ b = backslash ∨ b = 0x2F then some b
  else if b = 0x62 then some 0x08
  else if b = 0x66 then some 0x0C
  else if b = 0x6E then some 0x0A
  else if b = 0x72 then some 0x0D
  else if b = 0x74 then some 0x09
  else none

/-- The value of a hexadecimal digit. -/
def hexValue? (b : UInt8) : Option Nat :=
  if 0x30 ≤ b ∧ b ≤ 0x39 then some (b.toNat - 0x30)
  else if 0x41 ≤ b ∧ b ≤ 0x46 then some (b.toNat - 0x37)
  else if 0x61 ≤ b ∧ b ≤ 0x66 then some (b.toNat - 0x57)
  else none

/-- The number that four digits denote. -/
def hexNumber? (bs : List UInt8) : Option Nat :=
  bs.foldl (fun n b => do return (← n) * 16 + (← hexValue? b)) (some 0)

/-- What an escaped number adds: a first surrogate waits for the second, a second one counts only
after the first, any other number is a character. -/
def escapedNumber (high : Option Nat) (n : Nat) : Step :=
  match high with
  | some h =>
    if 0xDC00 ≤ n ∧ n ≤ 0xDFFF then
      .next .plain (Utf8.octets (Char.ofNat (0x10000 + (h - 0xD800) * 0x400 + (n - 0xDC00))))
    else .refused
  | none =>
    if 0xDC00 ≤ n ∧ n ≤ 0xDFFF then .refused
    else if 0xD800 ≤ n ∧ n ≤ 0xDBFF then .next (.paired n) []
    else .next .plain (Utf8.octets (Char.ofNat n))

/-- What an octet does at a stage. -/
def Stage.step : Stage → UInt8 → Step
  | .plain, b =>
    if b = quoteMark then .closed
    else if b = backslash then .next .escaped []
    else if b < 0x20 then .refused
    else .next .plain [b]
  | .escaped, b =>
    if b = 0x75 then .next (.digits none []) []
    else match letter? b with
      | some octet => .next .plain [octet]
      | none => .refused
  | .digits high read, b =>
    if read.length < 3 then .next (.digits high (b :: read)) []
    else match hexNumber? (b :: read).reverse with
      | some n => escapedNumber high n
      | none => .refused
  | .paired high, b => if b = backslash then .next (.pairedEscape high) [] else .refused
  | .pairedEscape high, b => if b = 0x75 then .next (.digits (some high) []) [] else .refused

/-- Reads on to the closing quote; `read` is what the string holds so far, latest first. -/
def readFrom : Stage → List UInt8 → Reader String
  | _, _, [] => .fault .grammar []
  | stage, read, b :: rest => match stage.step b with
    | .next stage added => readFrom stage (added.reverse ++ read) rest
    | .closed => match Utf8.decode? read.reverse with
      | some s => .value s rest
      | none => .fault .grammar rest
    | .refused => .fault .grammar rest

/-- Reads a string after its opening quote. -/
def read : Reader String :=
  readFrom .plain []

end SessionLedger.Json.Quoted
