import SessionLedger.Idna.Bidi
import SessionLedger.Idna.Mapping
import SessionLedger.Idna.Punycode
import SessionLedger.Unicode.Composed
import SessionLedger.Unicode.Mark
/-! International domain names as ASCII. The characters of a name are mapped and normalized, and
each label is checked; a label that is not ASCII is then encoded. -/
namespace SessionLedger.Idna
open Unicode

/-- The start of an encoded label. -/
def encodedStart : List Char := "xn--".toList

/-- The name with its characters mapped; there is none if one of them is disallowed. -/
def mapped? : List Char → Option (List Char)
  | [] => some []
  | c :: rest => match mapping c with
    | .valid => (mapped? rest).map (c :: ·)
    | .mapped replacement => (mapped? rest).map (replacement ++ ·)
    | .disallowed => none

/-- The label does not start with a mark, and all its characters are valid as they are. -/
def isValidLabel (label : List Char) : Bool :=
  !label.head?.any isMark && label.all fun c => mapping c == .valid

/-- The characters of a label of a mapped name: an encoded label is decoded, and what it stands
for has to be normalized. -/
def label? (label : List Char) : Option (List Char) :=
  if encodedStart.isPrefixOf label then do
    let decoded ← Punycode.decode? (label.drop encodedStart.length)
    if normalized decoded = decoded && isValidLabel decoded then some decoded else none
  else if isValidLabel label then some label
  else none

/-- A label as ASCII. -/
def labelToAscii (label : List Char) : List Char :=
  if label.all (·.toNat < 128) then label else encodedStart ++ Punycode.encode label

/-- Labels joined by points. -/
def joinLabels : List (List Char) → List Char
  | [] => []
  | [label] => label
  | label :: rest => label ++ '.' :: joinLabels rest

/-- A name as ASCII, if all its labels are in order. -/
def toAscii? (name : List Char) : Option (List Char) := do
  let labels ← (Text.pieces (· == '.') (normalized (← mapped? name))).mapM label?
  if labels.any isRightToLeft && !labels.all obeysBidi then none
  return joinLabels (labels.map labelToAscii)

end SessionLedger.Idna
