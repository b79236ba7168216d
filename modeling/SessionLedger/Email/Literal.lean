import SessionLedger.Text.Decimal
/-! Addresses of the Internet Protocol as text: four decimal numbers joined by points, or up to
eight hexadecimal numbers joined by colons, of which the last two may be written as four decimal
ones and a run of zeros as two colons. -/
namespace SessionLedger.Email.Literal
open Text

/-- A hexadecimal digit. -/
def isHexDigit (c : Char) : Bool :=
  (Decimal.digit? c).isSome || ('a' ≤ c && c ≤ 'f') || ('A' ≤ c && c ≤ 'F')

/-- Reads a number up to 255 of at most three digits and without needless zeros. -/
def readOctet (cs : List Char) : Option (List Char) :=
  let digits := cs.takeWhile fun c => (Decimal.digit? c).isSome
  let isPlain := digits.length ≤ 3 && (digits.length ≤ 1 || digits.head? != some '0')
  if isPlain && (Decimal.digits? digits).any (· ≤ 255) then some (cs.drop digits.length)
  else none

/-- Reads one character. -/
def readMark (mark : Char) : List Char → Option (List Char)
  | c :: rest => if c = mark then some rest else none
  | [] => none

/-- Reads four numbers joined by points. -/
def readV4 (cs : List Char) : Option (List Char) := do
  let cs ← readOctet cs
  let cs ← readOctet (← readMark '.' cs)
  let cs ← readOctet (← readMark '.' cs)
  readOctet (← readMark '.' cs)

/-- Reads a group of one to four hexadecimal digits. -/
def readGroup (cs : List Char) : Option (List Char) :=
  let digits := cs.takeWhile isHexDigit
  if 1 ≤ digits.length ∧ digits.length ≤ 4 then some (cs.drop digits.length) else none

/-- Reads at most `room` further groups joined by colons, and four decimal numbers in place of the
last two. Gives how many groups were read, whether they end in decimal numbers, and the rest. -/
def readGroups : Nat → Bool → List Char → Nat × Bool × List Char
  | 0, _, cs => (0, false, cs)
  | room + 1, isFirst, cs =>
    let start := if isFirst then some cs else readMark ':' cs
    match if room = 0 then none else start.bind readV4 with
    | some rest => (2, true, rest)
    | none => match start.bind readGroup with
      | some rest =>
        let (n, hasV4, rest) := readGroups room false rest
        (n + 1, hasV4, rest)
      | none => (0, false, cs)

/-- Reads an address of eight groups, or fewer around two colons. -/
def readV6 (cs : List Char) : Option (List Char) := do
  let (n, hasV4, rest) := readGroups 8 true cs
  if n = 8 then return rest
  if hasV4 then none
  let rest ← readMark ':' (← readMark ':' rest)
  return (readGroups (7 - n) true rest).2.2

/-- The text is an address. -/
def isAddress (cs : List Char) : Bool :=
  ((readV4 cs).or (readV6 cs)).any (·.isEmpty)

end SessionLedger.Email.Literal
