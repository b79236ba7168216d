import SessionLedger.Text.Utf8
/-! Reading JSON from the front of a sequence of octets. A reading ends with a value or with a
fault, and both tell what has not been read: a caller that tolerates a fault goes on from there. -/
namespace SessionLedger.Json

/-- The octets still to be read. -/
abbrev Source := List UInt8

/-- The octets of a text. -/
def Source.ofText (s : String) : Source :=
  Text.Utf8.encode s

/-- Why a reading failed: the octets are no JSON text, or the value has not the shape asked
for. -/
inductive Fault where
  | grammar
  | shape
  deriving DecidableEq, Repr

/-- How a reading ended and what is left. -/
inductive Reading (α : Type) where
  | value (a : α) (rest : Source)
  | fault (f : Fault) (rest : Source)

/-- What is left after a reading. -/
def Reading.rest {α : Type} : Reading α → Source
  | .value _ rest => rest
  | .fault _ rest => rest

/-- A way to read an `α`. -/
def Reader (α : Type) : Type :=
  Source → Reading α

namespace Reader
variable {α β : Type}

/-- Reads nothing. -/
def pure (a : α) : Reader α :=
  fun s => .value a s

/-- Reads on with what was read. -/
def bind (r : Reader α) (next : α → Reader β) : Reader β := fun s =>
  match r s with
  | .value a rest => next a rest
  | .fault f rest => .fault f rest

instance : Monad Reader where
  pure := pure
  bind := bind

/-- Fails where it stands. -/
def fail (f : Fault) : Reader α :=
  fun s => .fault f s

/-- Accepts a fault of `r` in place of a value and goes on from there. -/
def tolerate (r : Reader α) : Reader (Option α) := fun s =>
  match r s with
  | .value a rest => .value (some a) rest
  | .fault _ rest => .value none rest

end Reader

/-! ## Marks and blanks -/

/-- The double quote. -/
abbrev quoteMark : UInt8 := 0x22

/-- The backslash. -/
abbrev backslash : UInt8 := 0x5C

/-- The mark between two items or members. -/
abbrev comma : UInt8 := 0x2C

/-- The mark between the name and the value of a member. -/
abbrev colon : UInt8 := 0x3A

/-- The mark that opens a list. -/
abbrev openList : UInt8 := 0x5B

/-- The mark that closes a list. -/
abbrev closeList : UInt8 := 0x5D

/-- The mark that opens an object. -/
abbrev openObject : UInt8 := 0x7B

/-- The mark that closes an object. -/
abbrev closeObject : UInt8 := 0x7D

/-- The sign of a negative number. -/
abbrev minusSign : UInt8 := 0x2D

/-- Space, tab, line feed or carriage return. -/
def isBlankOctet (b : UInt8) : Bool :=
  b == 0x20 || b == 0x09 || b == 0x0A || b == 0x0D

/-- What follows the leading blanks. -/
def skipBlanks (s : Source) : Source :=
  s.dropWhile isBlankOctet

/-- An ASCII digit. -/
def isDigitOctet (b : UInt8) : Bool :=
  0x30 ≤ b && b ≤ 0x39

/-- The letter that starts an exponent. -/
def isExponentLetter (b : UInt8) : Bool :=
  b == 0x45 || b == 0x65

/-- The kind of value that an octet starts. -/
inductive Lead where
  | null
  | isTrue
  | isFalse
  | minus
  | digit
  | text
  | list
  | object
  | none
  deriving DecidableEq, Repr

/-- The kind of value that starts with that octet. -/
def Lead.of (b : UInt8) : Lead :=
  if b = quoteMark then .text
  else if b = openObject then .object
  else if b = openList then .list
  else if isDigitOctet b then .digit
  else if b = minusSign then .minus
  else if b = 0x6E then .null
  else if b = 0x74 then .isTrue
  else if b = 0x66 then .isFalse
  else .none

/-- Reads the rest of a literal such as `null`, octet by octet; the octet that differs is read. -/
def readWord : List UInt8 → Reader Unit
  | [], s => .value () s
  | _ :: _, [] => .fault .grammar []
  | w :: ws, b :: rest => if b = w then readWord ws rest else .fault .grammar rest

/-- The rest of the literals after their first letter. -/
def restOfNull : List UInt8 := "ull".toList.map fun c => c.toNat.toUInt8

@[inherit_doc restOfNull]
def restOfTrue : List UInt8 := "rue".toList.map fun c => c.toNat.toUInt8

@[inherit_doc restOfNull]
def restOfFalse : List UInt8 := "alse".toList.map fun c => c.toNat.toUInt8

/-- Reads one mark, after blanks. -/
def readMark (mark : UInt8) : Reader Unit := fun s =>
  match skipBlanks s with
  | b :: rest => if b = mark then .value () rest else .fault .grammar (b :: rest)
  | [] => .fault .grammar []

/-- Ends a list: the closing bracket. A comma in its place is read, too. -/
def endList : Reader Unit := fun s =>
  match skipBlanks s with
  | b :: rest =>
    if b = closeList then .value () rest
    else if b = comma then .fault .grammar (skipBlanks rest)
    else .fault .grammar (b :: rest)
  | [] => .fault .grammar []

/-- Ends an object: the closing brace. -/
def endObject : Reader Unit :=
  readMark closeObject

/-- Reads the inside of a list or an object and then its end; where the inside is at fault, the
end is read all the same, as far as it is there. -/
def enclosed {α : Type} (inside : Reader α) (ending : Reader Unit) : Reader α := fun s =>
  match inside s with
  | .value a rest => match ending rest with
    | .value _ rest => .value a rest
    | .fault f rest => .fault f rest
  | .fault f rest => .fault f (ending rest).rest

/-- The value of a whole text: only blanks may follow it. -/
def Reader.whole {α : Type} (r : Reader α) (s : Source) : Option α :=
  match r s with
  | .value a rest => if (skipBlanks rest).isEmpty then some a else none
  | .fault _ _ => none

end SessionLedger.Json
