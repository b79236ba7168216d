import SessionLedger.Proofs.Json.Scalar

/-! A list is read from its compact text, item by item. -/
namespace SessionLedger.Json.Reader
open Text

variable {α : Type} {item : Reader α} {f : α → Value} {as : List α}

theorem hasItem_first {cs : List Char} (h : Opens cs) (rest : Source) :
    hasItem true (bytes cs ++ rest) = .value true (bytes cs ++ rest) := by
  obtain ⟨b, bs, hbs, hblank, -, hclose⟩ := h
  rw [hbs, List.cons_append, hasItem, skipBlanks_cons hblank]
  simp only [if_neg hclose, if_true]

theorem hasItem_further {cs : List Char} (h : Opens cs) (rest : Source) :
    hasItem false (comma :: (bytes cs ++ rest)) = .value true (bytes cs ++ rest) := by
  obtain ⟨b, bs, hbs, hblank, -, hclose⟩ := h
  have hcomma : comma ≠ closeList := by decide
  rw [hbs, List.cons_append, hasItem, skipBlanks_cons rfl]
  simp only [if_neg hcomma, Bool.false_eq_true, if_false, if_true, skipBlanks_cons hblank,
    if_neg hclose]

theorem bytes_writeItems (v : Value) (vs : List Value) :
    bytes (writeItems (v :: vs)) = comma :: (bytes v.write ++ bytes (writeItems vs)) := by
  rw [writeItems, List.cons_append, bytes_cons, bytes_append]
  rfl

theorem length_le_writeItems (vs : List Value) :
    vs.length ≤ (bytes (writeItems vs)).length := by
  induction vs with
  | nil => exact Nat.zero_le _
  | cons v vs ih =>
    rw [bytes_writeItems]
    simp only [List.length_cons, List.length_append]
    omega

theorem ends_writeItems (vs : List Value) (rest : Source) :
    Ends (bytes (writeItems vs) ++ closeList :: rest) := by
  cases vs with
  | nil => exact ends_closeList rest
  | cons v vs =>
    rw [bytes_writeItems]
    exact ends_comma _

section
variable (h : ∀ a, item.Takes (f a).write a) (hopens : ∀ a, Opens (f a).write)
include h hopens

theorem itemsWithin_further {n : Nat} (hn : as.length < n) (rest : Source) :
    itemsWithin item false n (bytes (writeItems (as.map f)) ++ closeList :: rest) =
      .value as (closeList :: rest) := by
  induction as generalizing n with
  | nil =>
    cases n with
    | zero => cases hn
    | succ n => rfl
  | cons a as ih =>
    cases n with
    | zero => cases hn
    | succ n =>
      have hitem := h a _ (ends_writeItems (as.map f) rest)
      rw [List.map_cons, bytes_writeItems, List.cons_append, List.append_assoc, itemsWithin,
        hasItem_further (hopens a)]
      simp only [hitem, ih (Nat.lt_of_succ_lt_succ hn)]

/-- A list is read from its text, if every item is. -/
theorem takes_list (as : List α) : (Reader.list item).Takes (Value.list (as.map f)).write as := by
  intro rest _
  cases as with
  | nil => rfl
  | cons a as =>
    have hopen : Utf8.octets '[' = [openList] := rfl
    have hclose : bytes [']'] = [closeList] := rfl
    have hend : endList (closeList :: rest) = .value () rest := rfl
    have hitem := h a _ (ends_writeItems (as.map f) rest)
    have hlength := length_le_writeItems (as.map f)
    have hitems : itemsWithin item true ((bytes (f a).write ++ (bytes (writeItems (as.map f)) ++
        closeList :: rest)).length + 1) (bytes (f a).write ++ (bytes (writeItems (as.map f)) ++
        closeList :: rest)) = .value (a :: as) (closeList :: rest) := by
      rw [itemsWithin, hasItem_first (hopens a)]
      simp only [hitem]
      rw [itemsWithin_further h hopens]
      rw [List.length_map] at hlength
      simp only [List.length_append, List.length_cons]
      omega
    simp only [List.map_cons, Value.write, List.cons_append, List.append_assoc, bytes_cons,
      bytes_append, hopen, hclose, List.nil_append]
    rw [Reader.list, skipBlanks_cons rfl]
    simp only [if_true, listBody, enclosed, hitems, hend]

end

end SessionLedger.Json.Reader
