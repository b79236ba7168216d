import SessionLedger.Text.Decimal
import SessionLedger.Json.Number
import SessionLedger.Json.Quoted
/-! Reading a value of a known shape. A value of another shape is a fault of shape; if it is a
scalar it has been read by then, if it is a list or an object not even its first mark has. -/
namespace SessionLedger.Json.Reader

/-- Fails on a value that has not the shape asked for. -/
def mismatch {α : Type} : Reader α := fun s =>
  let refuse {β : Type} : Reading β → Reading α
    | .value _ rest => .fault .shape rest
    | .fault f rest => .fault f rest
  match skipBlanks s with
  | [] => .fault .grammar []
  | b :: rest => match Lead.of b with
    | .null => refuse (readWord restOfNull rest)
    | .isTrue => refuse (readWord restOfTrue rest)
    | .isFalse => refuse (readWord restOfFalse rest)
    | .minus => refuse (Number.read (b :: rest))
    | .digit => refuse (Number.read (b :: rest))
    | .text => refuse (Quoted.read rest)
    | .list => .fault .shape (b :: rest)
    | .object => .fault .shape (b :: rest)
    | .none => .fault .grammar (b :: rest)

/-- Reads a string. -/
def text : Reader String := fun s =>
  match skipBlanks s with
  | [] => .fault .grammar []
  | b :: rest => if b = quoteMark then Quoted.read rest else mismatch (b :: rest)

/-- Reads a string that stands for an `α`. -/
def textAs {α : Type} (meaning : String → Option α) : Reader α := fun s =>
  match text s with
  | .value t rest => match meaning t with
    | some a => .value a rest
    | none => .fault .shape rest
  | .fault f rest => .fault f rest

/-- Reads a boolean. -/
def bool : Reader Bool := fun s =>
  match skipBlanks s with
  | [] => .fault .grammar []
  | b :: rest => match Lead.of b with
    | .isTrue => (readWord restOfTrue).bind (fun _ => .pure true) rest
    | .isFalse => (readWord restOfFalse).bind (fun _ => .pure false) rest
    | _ => mismatch (b :: rest)

/-- Reads an integer of 64 bits. -/
def int64 : Reader Int64 := fun s =>
  match skipBlanks s with
  | [] => .fault .grammar []
  | b :: rest =>
    if Lead.of b = .minus ∨ Lead.of b = .digit then
      match Number.read (b :: rest) with
      | .value (.integer i) rest => match Text.Decimal.int64? i with
        | some n => .value n rest
        | none => .fault .shape rest
      | .value (.fractional _) rest => .fault .shape rest
      | .fault f rest => .fault f rest
    else mismatch (b :: rest)

/-- Reads null. -/
def null : Reader Unit := fun s =>
  match skipBlanks s with
  | [] => .fault .grammar []
  | b :: rest => if Lead.of b = .null then readWord restOfNull rest else mismatch (b :: rest)

/-- Reads null or what `r` reads. -/
def optional {α : Type} (r : Reader α) : Reader (Option α) := fun s =>
  match skipBlanks s with
  | [] => .fault .grammar []
  | b :: rest =>
    if Lead.of b = .null then (readWord restOfNull).bind (fun _ => .pure none) rest
    else r.bind (fun a => .pure (some a)) (b :: rest)

/-! ## Lists and objects -/

/-- Reads up to the next item of a list whose opening bracket has been read; there is none before
the closing bracket, which stays. -/
def hasItem (isFirst : Bool) : Reader Bool := fun s =>
  match skipBlanks s with
  | [] => .fault .grammar []
  | b :: rest =>
    if b = closeList then .value false (b :: rest)
    else if isFirst then .value true (b :: rest)
    else if b = comma then match skipBlanks rest with
      | [] => .fault .grammar []
      | c :: rest => if c = closeList then .fault .grammar (c :: rest) else .value true (c :: rest)
    else .fault .grammar (b :: rest)

/-- Reads the items of a list up to its closing bracket; each takes an octet, so their number
bounds the steps. -/
def itemsWithin {α : Type} (item : Reader α) (isFirst : Bool) : Nat → Reader (List α)
  | 0, s => .fault .grammar s
  | n + 1, s => match hasItem isFirst s with
    | .value true rest => match item rest with
      | .value a rest => match itemsWithin item false n rest with
        | .value as rest => .value (a :: as) rest
        | .fault f rest => .fault f rest
      | .fault f rest => .fault f rest
    | .value false rest => .value [] rest
    | .fault f rest => .fault f rest

/-- Reads a list after its opening bracket. -/
def listBody {α : Type} (item : Reader α) : Reader (List α) :=
  enclosed (fun s => itemsWithin item true (s.length + 1) s) endList

/-- Reads a list. -/
def list {α : Type} (item : Reader α) : Reader (List α) := fun s =>
  match skipBlanks s with
  | [] => .fault .grammar []
  | b :: rest => if b = openList then listBody item rest else mismatch (b :: rest)

/-- Reads the name of the next member of an object whose opening brace has been read; there is
none before the closing brace, which stays. -/
def memberName (isFirst : Bool) : Reader (Option String) := fun s =>
  let name (s : Source) : Reading (Option String) := match s with
    | [] => .fault .grammar []
    | b :: rest =>
      if b = quoteMark then Quoted.read.bind (fun n => .pure (some n)) rest
      else .fault .grammar (b :: rest)
  match skipBlanks s with
  | [] => .fault .grammar []
  | b :: rest =>
    if b = closeObject then .value none (b :: rest)
    else if isFirst then name (b :: rest)
    else if b = comma then name (skipBlanks rest)
    else .fault .grammar (b :: rest)

/-- Reads the members of an object up to its closing brace: `member` is given what the members
before amount to and the name, and reads the colon and the value. Each member takes an octet, so
their number bounds the steps. -/
def membersWithin {σ : Type} (member : σ → String → Reader σ) (isFirst : Bool) :
    Nat → σ → Reader σ
  | 0, _, s => .fault .grammar s
  | n + 1, state, s => match memberName isFirst s with
    | .value (some name) rest => match member state name rest with
      | .value state rest => membersWithin member false n state rest
      | .fault f rest => .fault f rest
    | .value none rest => .value state rest
    | .fault f rest => .fault f rest

/-- Reads an object after its opening brace. -/
def objectBody {σ : Type} (member : σ → String → Reader σ) (start : σ) : Reader σ :=
  enclosed (fun s => membersWithin member true (s.length + 1) start s) endObject

/-- Reads the colon after a name and then the value. -/
def afterColon {α : Type} (r : Reader α) : Reader α :=
  (readMark colon).bind fun _ => r

/-! ## Names of a closed set -/

/-- Reads one of a closed set of names: the name as a string, or an object whose only member has
that name and the value null. -/
def choice {α : Type} (meaning : String → Option α) : Reader α := fun s =>
  match skipBlanks s with
  | [] => .fault .grammar []
  | b :: rest =>
    if b = quoteMark then textAs meaning (b :: rest)
    else if b = openObject then
      (textAs meaning).bind (fun a => (afterColon null).bind fun _ =>
        endObject.bind fun _ => .pure a) rest
    else .fault .grammar (b :: rest)

/-- Reads a value for its number, if it is one: a list or an object is at fault but for its
marks, any other value has been read when it turns out to be none. -/
def number : Reader Number := fun s =>
  match skipBlanks s with
  | [] => .fault .grammar []
  | b :: rest => match Lead.of b with
    | .minus => Number.read (b :: rest)
    | .digit => Number.read (b :: rest)
    | .list => enclosed (.fail .shape) endList rest
    | .object => enclosed (.fail .shape) endObject rest
    | _ => mismatch (b :: rest)

end SessionLedger.Json.Reader
