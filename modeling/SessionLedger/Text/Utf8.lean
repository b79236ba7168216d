/-! UTF-8: the octets of a text, and the text that a sequence of octets encodes. Reading refuses
overlong forms, surrogates and numbers beyond the last code point, so a text has one encoding. -/
namespace SessionLedger.Text.Utf8

/-- The octets of a character. -/
abbrev octets (c : Char) : List UInt8 :=
  String.utf8EncodeChar c

/-- The octets of a text. -/
def encode (s : String) : List UInt8 :=
  s.toList.flatMap octets

/-- The character of that number, unless it is a surrogate or too large. -/
def scalar? (n : Nat) : Option Char :=
  if h : n.isValidChar then some (Char.ofNatAux n h) else none

/-- The six bits that a continuation octet carries. -/
def tail? (b : UInt8) : Option Nat :=
  if 0x80 ≤ b ∧ b ≤ 0xBF then some (b.toNat - 0x80) else none

/-- The first character of a sequence of octets and what follows it. -/
def next? : List UInt8 → Option (Char × List UInt8)
  | [] => none
  | a :: rest =>
    if a < 0x80 then some (Char.ofNat a.toNat, rest)
    else if a < 0xC2 then none
    else if a < 0xE0 then match rest with
      | b :: rest => do
        let b ← tail? b
        return (← scalar? ((a.toNat - 0xC0) * 64 + b), rest)
      | _ => none
    else if a < 0xF0 then match rest with
      | b :: c :: rest => do
        let b ← tail? b
        let c ← tail? c
        let n := (a.toNat - 0xE0) * 4096 + b * 64 + c
        if n < 0x800 then none else return (← scalar? n, rest)
      | _ => none
    else if a < 0xF5 then match rest with
      | b :: c :: d :: rest => do
        let b ← tail? b
        let c ← tail? c
        let d ← tail? d
        let n := (a.toNat - 0xF0) * 262144 + b * 4096 + c * 64 + d
        if n < 0x10000 then none else return (← scalar? n, rest)
      | _ => none
    else none

/-- The characters of a sequence of octets; a character takes at least one of them, so their
number bounds the steps. -/
def decodeWithin : Nat → List UInt8 → Option (List Char)
  | _, [] => some []
  | 0, _ :: _ => none
  | n + 1, bs => do
    let (c, rest) ← next? bs
    return c :: (← decodeWithin n rest)

/-- The text that the octets encode. -/
def decode? (bs : List UInt8) : Option String :=
  (decodeWithin bs.length bs).map String.ofList

end SessionLedger.Text.Utf8
