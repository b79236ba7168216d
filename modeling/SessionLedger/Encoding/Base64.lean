/-! Base 64 without padding over any alphabet of 64 characters. Three octets become four symbols;
one or two left over become two or three. Reading is strict: the bits of the last symbol beyond
the last octet are zero, so a sequence of octets has one written form. -/
namespace SessionLedger.Encoding.Base64

/-- Sixty-four characters, the digits 0 to 63 in order. -/
abbrev Alphabet := List Char

/-- Letters, digits, hyphen and underscore. -/
def urlSafe : Alphabet :=
  "ABCDEFGHIJKLMNOPQRSTUVWXYZabcdefghijklmnopqrstuvwxyz0123456789-_".toList

/-- The alphabet of password hashes: dot, slash, letters and digits. -/
def dotSlash : Alphabet :=
  "./ABCDEFGHIJKLMNOPQRSTUVWXYZabcdefghijklmnopqrstuvwxyz0123456789".toList

/-- The digit that a symbol stands for. -/
def value? (alphabet : Alphabet) (c : Char) : Option Nat :=
  alphabet.idxOf? c

/-- The digits of a sequence of octets. -/
def digits : List UInt8 → List Nat
  | a :: b :: c :: rest =>
    a.toNat / 4 :: (a.toNat % 4 * 16 + b.toNat / 16) :: (b.toNat % 16 * 4 + c.toNat / 64) ::
      c.toNat % 64 :: digits rest
  | [a, b] => [a.toNat / 4, a.toNat % 4 * 16 + b.toNat / 16, b.toNat % 16 * 4]
  | [a] => [a.toNat / 4, a.toNat % 4 * 16]
  | [] => []

/-- The octets that the digits stand for; a single digit left over is refused, and so are bits
that belong to no octet. -/
def octets? : List Nat → Option (List UInt8)
  | p :: q :: r :: s :: rest => do
    let bs ← octets? rest
    return UInt8.ofNat (p * 4 + q / 16) :: UInt8.ofNat (q % 16 * 16 + r / 4) ::
      UInt8.ofNat (r % 4 * 64 + s) :: bs
  | [p, q, r] =>
    if r % 4 = 0 then some [UInt8.ofNat (p * 4 + q / 16), UInt8.ofNat (q % 16 * 16 + r / 4)]
    else none
  | [p, q] => if q % 16 = 0 then some [UInt8.ofNat (p * 4 + q / 16)] else none
  | [_] => none
  | [] => some []

/-- The written form of a sequence of octets. -/
def encode (alphabet : Alphabet) (bs : List UInt8) : List Char :=
  (digits bs).map (alphabet.getD · ' ')

/-- The octets that a written form stands for. -/
def decode? (alphabet : Alphabet) (cs : List Char) : Option (List UInt8) :=
  (cs.mapM (value? alphabet)).bind octets?

private theorem ofNat_eq {n : Nat} {a : UInt8} (h : n = a.toNat) : UInt8.ofNat n = a := by
  subst h
  simp

/-- The digits of octets stand for those octets again. -/
theorem octets?_digits (bs : List UInt8) : octets? (digits bs) = some bs := by
  fun_induction digits bs with
  | case1 a b c rest ih =>
    have hb := b.toNat_lt
    have hc := c.toNat_lt
    simp only [octets?, ih, Option.bind_eq_bind, Option.bind_some, Option.pure_def]
    rw [ofNat_eq (a := a), ofNat_eq (a := b), ofNat_eq (a := c)] <;> omega
  | case2 a b =>
    have h : b.toNat % 16 * 4 % 4 = 0 := by omega
    simp only [octets?, h, if_true]
    have hb := b.toNat_lt
    rw [ofNat_eq (a := a), ofNat_eq (a := b)] <;> omega
  | case3 a =>
    have h : a.toNat % 4 * 16 % 16 = 0 := by omega
    simp only [octets?, h, if_true]
    rw [ofNat_eq (a := a)]
    omega
  | case4 => rfl

end SessionLedger.Encoding.Base64
