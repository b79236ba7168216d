import SessionLedger.Text.Decimal
/-! JSON values and their compact text: no blanks, the members of an object in the order given,
and in strings only what has to be escaped is escaped. -/
namespace SessionLedger.Json
open Text

/-- A JSON value whose numbers are integers. -/
inductive Value where
  | null
  | bool (b : Bool)
  | int (i : Int)
  | text (s : String)
  | list (items : List Value)
  | object (members : List (String × Value))

/-- A value that may be absent is written as null. -/
def Value.optional {α : Type} (f : α → Value) : Option α → Value
  | none => .null
  | some a => f a

/-- A 64-bit integer. -/
def Value.int64 (i : Int64) : Value :=
  .int i.toInt

/-- The digit of value `n < 16`, in lower case. -/
def hexDigit (n : Nat) : Char :=
  "0123456789abcdef".toList.getD n '0'

/-- How a character is written inside a string: quotes, backslashes and the characters below
U+0020 are escaped, by a letter where there is one. -/
def escape (c : Char) : List Char :=
  match c with
  | '"' => ['\\', '"']
  | '\\' => ['\\', '\\']
  | '\x08' => ['\\', 'b']
  | '\t' => ['\\', 't']
  | '\n' => ['\\', 'n']
  | '\x0c' => ['\\', 'f']
  | '\r' => ['\\', 'r']
  | c =>
    if c.toNat < 0x20 then ['\\', 'u', '0', '0', hexDigit (c.toNat / 16), hexDigit (c.toNat % 16)]
    else [c]

/-- A string between quotes. -/
def quote (s : String) : List Char :=
  '"' :: s.toList.flatMap escape ++ ['"']

mutual
/-- The compact text of a value. -/
def Value.write : Value → List Char
  | .null => "null".toList
  | .bool true => "true".toList
  | .bool false => "false".toList
  | .int i => Decimal.ofInt i
  | .text s => quote s
  | .list [] => "[]".toList
  | .list (v :: vs) => '[' :: v.write ++ writeItems vs ++ [']']
  | .object [] => "\x7b\x7d".toList
  | .object ((k, v) :: ms) => '{' :: quote k ++ ':' :: v.write ++ writeMembers ms ++ ['}']

/-- The text of further items of a list. -/
def writeItems : List Value → List Char
  | [] => []
  | v :: vs => ',' :: v.write ++ writeItems vs

/-- The text of further members of an object. -/
def writeMembers : List (String × Value) → List Char
  | [] => []
  | (k, v) :: ms => ',' :: quote k ++ ':' :: v.write ++ writeMembers ms
end

/-- The compact text of a value, as a string. -/
def Value.compact (v : Value) : String :=
  String.ofList v.write

end SessionLedger.Json
