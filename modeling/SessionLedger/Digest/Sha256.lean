/-! SHA-256 of a sequence of octets: the message is padded to blocks of 64 octets, and each block
is mixed into eight words by 64 rounds. -/
namespace SessionLedger.Digest.Sha256

/-- The constants of the 64 rounds: the first 32 bits of the fractional parts of the cube roots
of the first 64 primes. -/
def roundConstants : List UInt32 :=
  [0x428a2f98, 0x71374491, 0xb5c0fbcf, 0xe9b5dba5, 0x3956c25b, 0x59f111f1, 0x923f82a4, 0xab1c5ed5,
   0xd807aa98, 0x12835b01, 0x243185be, 0x550c7dc3, 0x72be5d74, 0x80deb1fe, 0x9bdc06a7, 0xc19bf174,
   0xe49b69c1, 0xefbe4786, 0x0fc19dc6, 0x240ca1cc, 0x2de92c6f, 0x4a7484aa, 0x5cb0a9dc, 0x76f988da,
   0x983e5152, 0xa831c66d, 0xb00327c8, 0xbf597fc7, 0xc6e00bf3, 0xd5a79147, 0x06ca6351, 0x14292967,
   0x27b70a85, 0x2e1b2138, 0x4d2c6dfc, 0x53380d13, 0x650a7354, 0x766a0abb, 0x81c2c92e, 0x92722c85,
   0xa2bfe8a1, 0xa81a664b, 0xc24b8b70, 0xc76c51a3, 0xd192e819, 0xd6990624, 0xf40e3585, 0x106aa070,
   0x19a4c116, 0x1e376c08, 0x2748774c, 0x34b0bcb5, 0x391c0cb3, 0x4ed8aa4a, 0x5b9cca4f, 0x682e6ff3,
   0x748f82ee, 0x78a5636f, 0x84c87814, 0x8cc70208, 0x90befffa, 0xa4506ceb, 0xbef9a3f7, 0xc67178f2]

/-- The eight words that carry the digest from block to block. -/
structure Words where
  a : UInt32
  b : UInt32
  c : UInt32
  d : UInt32
  e : UInt32
  f : UInt32
  g : UInt32
  h : UInt32

/-- The words before the first block: the first 32 bits of the fractional parts of the square
roots of the first eight primes. -/
def Words.start : Words :=
  ⟨0x6a09e667, 0xbb67ae85, 0x3c6ef372, 0xa54ff53a, 0x510e527f, 0x9b05688c, 0x1f83d9ab, 0x5be0cd19⟩

/-- A word turned to the right by `n` bits, `0 < n < 32`. -/
def turn (n w : UInt32) : UInt32 :=
  (w >>> n) ||| (w <<< (32 - n))

/-- One round on the words, with the constant and the message word of the round added. -/
def Words.round (s : Words) (added : UInt32) : Words :=
  let s1 := turn 6 s.e ^^^ turn 11 s.e ^^^ turn 25 s.e
  let choice := (s.e &&& s.f) ^^^ ((~~~ s.e) &&& s.g)
  let t1 := s.h + s1 + choice + added
  let s0 := turn 2 s.a ^^^ turn 13 s.a ^^^ turn 22 s.a
  let majority := (s.a &&& s.b) ^^^ (s.a &&& s.c) ^^^ (s.b &&& s.c)
  ⟨t1 + (s0 + majority), s.a, s.b, s.c, s.d + t1, s.e, s.f, s.g⟩

/-- Word by word sum. -/
def Words.add (s t : Words) : Words :=
  ⟨s.a + t.a, s.b + t.b, s.c + t.c, s.d + t.d, s.e + t.e, s.f + t.f, s.g + t.g, s.h + t.h⟩

/-- The four octets of a word, the most significant first. -/
def octets (w : UInt32) : List UInt8 :=
  [(w >>> 24).toUInt8, (w >>> 16).toUInt8, (w >>> 8).toUInt8, w.toUInt8]

/-- The octets of the eight words. -/
def Words.toOctets (s : Words) : List UInt8 :=
  [s.a, s.b, s.c, s.d, s.e, s.f, s.g, s.h].flatMap octets

/-- The words of a sequence of octets whose length is a multiple of four. -/
def wordsOf : List UInt8 → List UInt32
  | p :: q :: r :: s :: rest =>
    ((p.toUInt32 <<< 24) ||| (q.toUInt32 <<< 16) ||| (r.toUInt32 <<< 8) ||| s.toUInt32) ::
      wordsOf rest
  | _ => []

/-- Puts `n` more words in front of the message words, which are given latest first. -/
def extend : Nat → List UInt32 → List UInt32
  | 0, latest => latest
  | n + 1, latest =>
    let x := latest.getD 14 0
    let y := latest.getD 1 0
    let s0 := turn 7 x ^^^ turn 18 x ^^^ (x >>> 3)
    let s1 := turn 17 y ^^^ turn 19 y ^^^ (y >>> 10)
    extend n ((latest.getD 15 0 + s0 + latest.getD 6 0 + s1) :: latest)

/-- Mixes a block of 64 octets into the words. -/
def Words.mix (s : Words) (block : List UInt8) : Words :=
  let message := (extend 48 (wordsOf block).reverse).reverse
  s.add ((List.zipWith (· + ·) roundConstants message).foldl Words.round s)

/-- The first `n` blocks of 64 octets, mixed in order. -/
def mixBlocks : Nat → Words → List UInt8 → Words
  | 0, s, _ => s
  | n + 1, s, bs => mixBlocks n (s.mix (bs.take 64)) (bs.drop 64)

/-- The eight octets of a number, the most significant first. -/
def lengthOctets (n : Nat) : List UInt8 :=
  (List.range 8).map fun i => UInt8.ofNat (n / Nat.pow 256 (7 - i))

/-- A one bit, zeros, and the length in bits, so that the length becomes a multiple of 64
octets. -/
def padding (length : Nat) : List UInt8 :=
  0x80 :: List.replicate ((119 - length % 64) % 64) 0 ++ lengthOctets (8 * length)

/-- The digest, 32 octets. -/
def digest (message : List UInt8) : List UInt8 :=
  let padded := message ++ padding message.length
  (mixBlocks (padded.length / 64) .start padded).toOctets

end SessionLedger.Digest.Sha256
