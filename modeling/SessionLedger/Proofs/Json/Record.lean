import SessionLedger.Json.Record
import SessionLedger.Proofs.Json.Scalar

/-! A record is read from the compact text of an object that has its fields as members. Each
member takes the reading from one state to the next; the last state amounts to the record. -/
namespace SessionLedger.Json
open Text

namespace Reader

/-- Reading the members of an object leads from one state to another. -/
inductive Folds {σ : Type} (member : σ → String → Reader σ) :
    σ → List (String × Value) → σ → Prop
  | nil (a : σ) : Folds member a [] a
  | cons {a b c : σ} {name : String} {v : Value} {ms : List (String × Value)}
      (h : (member a name).Takes (':' :: v.write) b) (hms : Folds member b ms c) :
      Folds member a ((name, v) :: ms) c

variable {σ : Type} {member : σ → String → Reader σ} {a b : σ} {ms : List (String × Value)}

theorem read_name (name : String) (rest : Source) :
    (Quoted.read.bind fun n => pure (some n))
      (bytes (name.toList.flatMap escape ++ ['"']) ++ rest) = .value (some name) rest := by
  rw [Reader.bind, Quoted.read_quote name rest]
  rfl

theorem memberName_first (name : String) (rest : Source) :
    memberName true (bytes (quote name) ++ rest) = .value (some name) rest := by
  rw [bytes_quote, List.cons_append, memberName, skipBlanks_cons rfl]
  exact read_name name rest

theorem memberName_further (name : String) (rest : Source) :
    memberName false (comma :: (bytes (quote name) ++ rest)) = .value (some name) rest := by
  rw [bytes_quote, List.cons_append, memberName, skipBlanks_cons rfl]
  exact read_name name rest

theorem bytes_writeMembers (name : String) (v : Value) (ms : List (String × Value)) :
    bytes (writeMembers ((name, v) :: ms)) =
      comma :: (bytes (quote name) ++ (bytes (':' :: v.write) ++ bytes (writeMembers ms))) := by
  rw [writeMembers, List.append_assoc, List.cons_append, bytes_cons, bytes_append, bytes_append]
  rfl

theorem bytes_object (name : String) (v : Value) (ms : List (String × Value)) :
    bytes (Value.object ((name, v) :: ms)).write.tail =
      bytes (quote name) ++
        (bytes (':' :: v.write) ++ (bytes (writeMembers ms) ++ [closeObject])) := by
  have hclose : bytes ['}'] = [closeObject] := rfl
  simp only [Value.write, List.cons_append, List.tail_cons, List.append_assoc, bytes_append]
  rw [← List.cons_append, bytes_append, bytes_append, hclose]

theorem ends_writeMembers (ms : List (String × Value)) (rest : Source) :
    Ends (bytes (writeMembers ms) ++ closeObject :: rest) := by
  cases ms with
  | nil => exact ends_closeObject rest
  | cons m ms =>
    rw [bytes_writeMembers]
    exact ends_comma _

theorem membersWithin_further (h : Folds member a ms b) {n : Nat} (hn : ms.length < n)
    (rest : Source) :
    membersWithin member false n a (bytes (writeMembers ms) ++ closeObject :: rest) =
      .value b (closeObject :: rest) := by
  induction h generalizing n with
  | nil a =>
    cases n with
    | zero => cases hn
    | succ n => rfl
  | @cons a b c name v ms h hms ih =>
    cases n with
    | zero => cases hn
    | succ n =>
      have hmember := h _ (ends_writeMembers ms rest)
      rw [bytes_writeMembers, List.cons_append, List.append_assoc, List.append_assoc,
        membersWithin, memberName_further]
      simp only [hmember]
      exact ih (Nat.lt_of_succ_lt_succ hn)

theorem length_le_writeMembers (ms : List (String × Value)) :
    ms.length ≤ (bytes (writeMembers ms)).length := by
  induction ms with
  | nil => exact Nat.zero_le _
  | cons m ms ih =>
    rw [bytes_writeMembers]
    simp only [List.length_cons, List.length_append]
    omega

/-- An object is read after its opening brace. -/
theorem objectBody_write (h : Folds member a ms b) (rest : Source) :
    objectBody member a (bytes (Value.object ms).write.tail ++ rest) = .value b rest := by
  have hend : endObject (closeObject :: rest) = .value () rest := rfl
  have hmembers : membersWithin member true
      ((bytes (Value.object ms).write.tail ++ rest).length + 1) a
      (bytes (Value.object ms).write.tail ++ rest) = .value b (closeObject :: rest) := by
    cases h with
    | nil => rfl
    | @cons _ c _ name v ms h hms =>
      have hlength := length_le_writeMembers ms
      have hmember := h _ (ends_writeMembers ms rest)
      rw [bytes_object, List.append_assoc, List.append_assoc, List.append_assoc,
        List.singleton_append, membersWithin, memberName_first]
      simp only [hmember]
      refine membersWithin_further hms ?_ rest
      simp only [List.length_append, List.length_cons]
      omega
  simp only [objectBody, enclosed, hmembers, hend]

end Reader

namespace Layout
variable {φ : Type} [DecidableEq φ] {L : Layout φ} {d : L.Draft} {f : φ}

/-- A member with the name of a field fills it in. -/
theorem takes_field {name : String} {v : Json.Value} {x : L.Value f} (hf : L.fieldOf? name = some f)
    (hd : d f = none) (h : (L.read f).Takes v.write x) :
    (readMember d name).Takes (':' :: v.write) (d.set f x) := by
  have hread := h.afterColon.bind (d.set f ·)
  simpa only [readMember, hf, hd, Option.isSome_none, Bool.false_eq_true, if_false] using hread

/-- A member with another name is passed over. -/
theorem takes_unknown {name : String} {v : Json.Value} (hf : L.fieldOf? name = none)
    (h : Ignored.skip.Takes v.write ()) : (readMember d name).Takes (':' :: v.write) d := by
  have hread := h.afterColon.bind fun _ => d
  simpa only [readMember, hf] using hread

theorem finish_complete {α : Type} {build : ((f : φ) → L.Value f) → α}
    {values : (f : φ) → L.Value f} (h : ∀ f, d.value? f = some (values f)) :
    finish build d = .pure (build values) := by
  have hall : ∀ f ∈ L.fields, (d.value? f).isSome := fun f _ => by simp [h f]
  have hcomplete : d.complete? = some values := by
    rw [Draft.complete?, dif_pos hall]
    simp only [h, Option.get_some]
  rw [finish, hcomplete]

/-- A record is read from an object whose members amount to all its fields. -/
theorem takes_reader {α : Type} {build : ((f : φ) → L.Value f) → α}
    {values : (f : φ) → L.Value f} {ms : List (String × Json.Value)}
    (hms : Reader.Folds readMember L.blank ms d) (h : ∀ f, d.value? f = some (values f)) :
    (L.reader build).Takes (Json.Value.object ms).write (build values) := by
  intro rest _
  have hopen : ∃ cs, (Json.Value.object ms).write = '{' :: cs := by
    cases ms with
    | nil => exact ⟨_, rfl⟩
    | cons m ms => exact ⟨_, rfl⟩
  obtain ⟨cs, hcs⟩ := hopen
  have hbody := Reader.objectBody_write hms rest
  have hmark : Utf8.octets '{' = [openObject] := rfl
  rw [hcs, List.tail_cons] at hbody
  rw [hcs, bytes_cons, hmark, List.singleton_append, List.cons_append, reader,
    skipBlanks_cons rfl]
  have hbind : ((Reader.objectBody readMember L.blank).bind (finish build)) (bytes cs ++ rest) =
      .value (build values) rest := by
    rw [Reader.bind, hbody]
    simp only [finish_complete h]
    rfl
  exact hbind

end Layout

end SessionLedger.Json
