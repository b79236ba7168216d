import SessionLedger.Json.Reading
/-! Reading past a value that nobody asks for. Only its grammar counts: it may be nested to any
depth, its numbers may be of any size, and its strings need neither be UTF-8 nor pair their
surrogates. -/
namespace SessionLedger.Json.Ignored

/-- Where the reading past a string stands: in it, after a backslash, or before that many more
hexadecimal digits. -/
inductive Stage where
  | plain
  | escaped
  | digits (left : Nat)

/-- The octet may follow a backslash on its own. -/
def isEscapeLetter (b : UInt8) : Bool :=
  [0x22, 0x5C, 0x2F, 0x62, 0x66, 0x6E, 0x72, 0x74].contains b

/-- The octet is a hexadecimal digit. -/
def isHexDigit (b : UInt8) : Bool :=
  isDigitOctet b || (0x41 ≤ b && b ≤ 0x46) || (0x61 ≤ b && b ≤ 0x66)

/-- Reads past a string after its opening quote. -/
def skipQuoted : Stage → Reader Unit
  | _, [] => .fault .grammar []
  | .plain, b :: rest =>
    if b = quoteMark then .value () rest
    else if b = backslash then skipQuoted .escaped rest
    else if b < 0x20 then .fault .grammar rest
    else skipQuoted .plain rest
  | .escaped, b :: rest =>
    if b = 0x75 then skipQuoted (.digits 3) rest
    else if isEscapeLetter b then skipQuoted .plain rest
    else .fault .grammar rest
  | .digits left, b :: rest =>
    if isHexDigit b then
      match left with
      | 0 => skipQuoted .plain rest
      | left + 1 => skipQuoted (.digits left) rest
    else .fault .grammar rest

/-- Reads past a run of at least one digit. -/
def skipDigits : Reader Unit := fun s =>
  match s with
  | b :: rest =>
    if isDigitOctet b then .value () (rest.dropWhile isDigitOctet) else .fault .grammar s
  | [] => .fault .grammar []

/-- Reads past an optional exponent. -/
def skipExponent : Reader Unit := fun s =>
  match s with
  | b :: rest =>
    if isExponentLetter b then
      skipDigits (if rest.head? = some minusSign ∨ rest.head? = some 0x2B then rest.tail else rest)
    else .value () (b :: rest)
  | [] => .value () []

/-- Reads past an optional fraction and an optional exponent. -/
def skipFraction : Reader Unit := fun s =>
  if s.head? = some 0x2E then skipDigits.bind (fun _ => skipExponent) s.tail else skipExponent s

/-- Reads past a number after its sign. -/
def skipNumber : Reader Unit := fun s =>
  if s.head? = some 0x30 then
    if s.tail.head?.any isDigitOctet then .fault .grammar s.tail else skipFraction s.tail
  else skipDigits.bind (fun _ => skipFraction) s

mutual
/-- Reads past a value. Each call takes an octet or is followed by one that does, so twice the
number of octets bounds the depth of the calls. -/
def skipWithin : Nat → Reader Unit
  | 0, s => .fault .grammar s
  | n + 1, s => match skipBlanks s with
    | [] => .fault .grammar []
    | b :: rest => match Lead.of b with
      | .null => readWord restOfNull rest
      | .isTrue => readWord restOfTrue rest
      | .isFalse => readWord restOfFalse rest
      | .minus => skipNumber rest
      | .digit => skipNumber (b :: rest)
      | .text => skipQuoted .plain rest
      | .list =>
        let rest := skipBlanks rest
        if rest.head? = some closeList then .value () rest.tail else skipItems n rest
      | .object =>
        let rest := skipBlanks rest
        if rest.head? = some closeObject then .value () rest.tail else skipMembers n rest
      | .none => .fault .grammar (b :: rest)

/-- Reads past the items of a list and its closing bracket. -/
def skipItems : Nat → Reader Unit
  | 0, s => .fault .grammar s
  | n + 1, s => match skipWithin n s with
    | .value _ rest =>
      let rest := skipBlanks rest
      if rest.head? = some comma then skipItems n rest.tail
      else if rest.head? = some closeList then .value () rest.tail
      else .fault .grammar rest
    | fault => fault

/-- Reads past the members of an object and its closing brace. -/
def skipMembers : Nat → Reader Unit
  | 0, s => .fault .grammar s
  | n + 1, s =>
    let name := (readMark quoteMark).bind fun _ => (skipQuoted .plain).bind fun _ => readMark colon
    match name s with
    | .value _ rest => match skipWithin n rest with
      | .value _ rest =>
        let rest := skipBlanks rest
        if rest.head? = some comma then skipMembers n rest.tail
        else if rest.head? = some closeObject then .value () rest.tail
        else .fault .grammar rest
      | fault => fault
    | fault => fault
end

/-- Reads past a value. -/
def skip : Reader Unit := fun s =>
  skipWithin (2 * s.length + 1) s

end SessionLedger.Json.Ignored
