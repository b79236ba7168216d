import SessionLedger.Json.Ignored
import SessionLedger.Json.Scalar
/-! Reading records. A record is written as an object, whose members may come in any order and
whose unknown members are passed over, or as a list of all its fields in order. A field that is
given twice is a fault of shape, and so is one that is missing and has no value of its own. -/
namespace SessionLedger.Json

/-- The fields of a record: their order, their names, and how each is read. -/
structure Layout (φ : Type) [DecidableEq φ] where
  /-- What a field holds. -/
  Value : φ → Type
  /-- The fields in order. -/
  fields : List φ
  /-- The name of a field. -/
  name : φ → String
  /-- How a field is read. -/
  read : (f : φ) → Reader (Value f)
  /-- What a field holds that is missing. -/
  absent : (f : φ) → Option (Value f)
  /-- All fields are listed. -/
  mem_fields : ∀ f, f ∈ fields

namespace Layout
variable {φ : Type} [DecidableEq φ] (L : Layout φ)

/-- The fields that have been read. -/
def Draft : Type :=
  (f : φ) → Option (L.Value f)

/-- No field. -/
def blank : L.Draft :=
  fun _ => none

variable {L}

/-- Fills in a field. -/
def Draft.set (d : L.Draft) (f : φ) (v : L.Value f) : L.Draft := fun g =>
  if h : f = g then some (h ▸ v) else d g

/-- The field of that name. -/
def fieldOf? (L : Layout φ) (name : String) : Option φ :=
  L.fields.find? fun f => L.name f == name

/-- What a field holds, after all have been read. -/
def Draft.value? (d : L.Draft) (f : φ) : Option (L.Value f) :=
  d f <|> L.absent f

/-- All fields, once none is missing. -/
def Draft.complete? (d : L.Draft) : Option ((f : φ) → L.Value f) :=
  if h : ∀ f ∈ L.fields, (d.value? f).isSome then
    some fun f => (d.value? f).get (h f (L.mem_fields f))
  else none

/-- Reads a member of an object. -/
def readMember (d : L.Draft) (name : String) : Reader L.Draft :=
  match L.fieldOf? name with
  | some f =>
    if (d f).isSome then .fail .shape
    else (Reader.afterColon (L.read f)).bind fun v => .pure (d.set f v)
  | none => (Reader.afterColon Ignored.skip).bind fun _ => .pure d

/-- Reads the fields as items of a list. -/
def readItems : Bool → List φ → L.Draft → Reader L.Draft
  | _, [], d => .pure d
  | isFirst, f :: fs, d => (Reader.hasItem isFirst).bind fun
    | true => (L.read f).bind fun v => readItems false fs (d.set f v)
    | false => .fail .shape

/-- Turns a complete draft into a record. -/
def finish {α : Type} (build : ((f : φ) → L.Value f) → α) (d : L.Draft) : Reader α :=
  match d.complete? with
  | some values => .pure (build values)
  | none => .fail .shape

/-- Reads a record. -/
def reader {α : Type} (L : Layout φ) (build : ((f : φ) → L.Value f) → α) : Reader α := fun s =>
  match skipBlanks s with
  | [] => .fault .grammar []
  | b :: rest =>
    if b = openList then
      (enclosed (readItems true L.fields L.blank) endList).bind (finish build) rest
    else if b = openObject then
      (Reader.objectBody (readMember (L := L)) L.blank).bind (finish build) rest
    else Reader.mismatch (b :: rest)

end Layout

end SessionLedger.Json
