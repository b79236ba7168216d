import SessionLedger.Json.Scalar
/-! Reading a value of any shape and keeping it, for a caller that decides on the shape later. The
value may be nested to a given depth. -/
namespace SessionLedger.Json

/-- A value of any shape. Members keep their order and may share a name. -/
inductive Content where
  | null
  | bool (b : Bool)
  | number (n : Number)
  | text (s : String)
  | list (items : List Content)
  | object (members : List (String × Content))

/-- Reads a value that is nested to less than the given depth. -/
def Content.read : Nat → Reader Content
  | depth, s => match skipBlanks s with
    | [] => .fault .grammar []
    | b :: rest => match Lead.of b with
      | .null => (readWord restOfNull).bind (fun _ => .pure .null) rest
      | .isTrue => (readWord restOfTrue).bind (fun _ => .pure (.bool true)) rest
      | .isFalse => (readWord restOfFalse).bind (fun _ => .pure (.bool false)) rest
      | .minus => Number.read.bind (fun n => .pure (.number n)) (b :: rest)
      | .digit => Number.read.bind (fun n => .pure (.number n)) (b :: rest)
      | .text => Quoted.read.bind (fun t => .pure (.text t)) rest
      | .list => match depth with
        | depth + 1 => (Reader.listBody (Content.read depth)).bind (fun l => .pure (.list l)) rest
        | 0 => .fault .grammar (b :: rest)
      | .object => match depth with
        | depth + 1 =>
          let member (members : List (String × Content)) (name : String) :=
            (Reader.afterColon (Content.read depth)).bind fun v => .pure ((name, v) :: members)
          (Reader.objectBody member []).bind (fun ms => .pure (.object ms.reverse)) rest
        | 0 => .fault .grammar (b :: rest)
      | .none => .fault .grammar (b :: rest)

/-- The string, if it is one. -/
def Content.text? : Content → Option String
  | .text s => some s
  | _ => none

/-- The strings of a list of nothing but strings. -/
def Content.texts? : Content → Option (List String)
  | .list items => items.mapM Content.text?
  | _ => none

/-- The members of an object. -/
def Content.members? : Content → Option (List (String × Content))
  | .object members => some members
  | _ => none

end SessionLedger.Json
