import SessionLedger.Unicode.CombiningClass
import SessionLedger.Unicode.Decomposition
/-! Normalization form C: characters are decomposed, marks put into the order of their combining
classes, and what composes is composed. -/
namespace SessionLedger.Unicode

/-! ## Hangul syllables -/

/-- The first syllable, and the first leading, vowel and trailing letter less one. -/
def hangulBase : Nat := 0xAC00

@[inherit_doc hangulBase]
def leadingBase : Nat := 0x1100

@[inherit_doc hangulBase]
def vowelBase : Nat := 0x1161

@[inherit_doc hangulBase]
def trailingBase : Nat := 0x11A7

/-- The letters of a syllable. -/
def hangulParts? (c : Char) : Option (List Char) :=
  let n := c.toNat - hangulBase
  if c.toNat < hangulBase ∨ 11172 ≤ n then none
  else
    let leading := Char.ofNat (leadingBase + n / 588)
    let vowel := Char.ofNat (vowelBase + n % 588 / 28)
    if n % 28 = 0 then some [leading, vowel]
    else some [leading, vowel, Char.ofNat (trailingBase + n % 28)]

/-- The syllable that two parts compose to. -/
def hangulCompose? (a b : Char) : Option Char :=
  let leading := a.toNat - leadingBase
  let vowel := b.toNat - vowelBase
  let n := a.toNat - hangulBase
  let trailing := b.toNat - trailingBase
  if leadingBase ≤ a.toNat ∧ leading < 19 ∧ vowelBase ≤ b.toNat ∧ vowel < 21 then
    some (Char.ofNat (hangulBase + (leading * 21 + vowel) * 28))
  else if hangulBase ≤ a.toNat ∧ n < 11172 ∧ n % 28 = 0 ∧ trailingBase < b.toNat ∧ trailing < 28
  then some (Char.ofNat (a.toNat + trailing))
  else none

/-! ## Decomposing -/

/-- The full decomposition of a character; no character takes more than the given number of
steps. -/
def decomposeWithin : Nat → Char → List Char
  | 0, c => [c]
  | n + 1, c => match decomposition? c with
    | some d => d.parts.flatMap (decomposeWithin n)
    | none => (hangulParts? c).getD [c]

/-- The most steps that a full decomposition takes. -/
def decompositionSteps : Nat := 8

/-- Puts a mark behind the marks whose class is not greater. -/
def place (c : Char) : List Char → List Char
  | [] => [c]
  | d :: rest =>
    if combiningClass d ≤ combiningClass c then d :: place c rest else c :: d :: rest

/-- Puts each run of marks into the order of their classes; `marks` is the run read so far. -/
def reorder : List Char → List Char → List Char
  | marks, [] => marks
  | marks, c :: rest =>
    if combiningClass c = 0 then marks ++ c :: reorder [] rest
    else reorder (place c marks) rest

/-- The canonical decomposition of a text. -/
def decomposed (cs : List Char) : List Char :=
  reorder [] (cs.flatMap (decomposeWithin decompositionSteps))

/-! ## Composing -/

/-- The pairs that compose, each with what it composes to. -/
def compositions : List ((Char × Char) × Char) :=
  decompositions.toList.filterMap fun (n, d) => match d.parts, d.composes with
    | [a, b], true => some ((a, b), Char.ofNat n)
    | _, _ => none

/-- What two characters compose to. -/
def compose? (a b : Char) : Option Char :=
  (hangulCompose? a b).or (compositions.lookup (a, b))

/-- Composes what follows a starter. `kept` are the marks after it that stay, latest first; a
character composes with the starter unless a mark that stays, of its class or a greater one,
stands between them. -/
def composeFrom (starter : Char) : List Char → List Char → List Char
  | kept, [] => starter :: kept.reverse
  | kept, c :: rest =>
    let isBlocked := match kept with
      | [] => false
      | d :: _ => combiningClass c ≤ combiningClass d
    match if isBlocked then none else compose? starter c with
    | some composed => composeFrom composed kept rest
    | none =>
      if combiningClass c = 0 then starter :: kept.reverse ++ composeFrom c [] rest
      else composeFrom starter (c :: kept) rest

/-- Composes a text that is decomposed. -/
def compose : List Char → List Char
  | [] => []
  | c :: rest => if combiningClass c = 0 then composeFrom c [] rest else c :: compose rest

/-- Normalization form C of a text. -/
def normalized (cs : List Char) : List Char :=
  compose (decomposed cs)

end SessionLedger.Unicode
