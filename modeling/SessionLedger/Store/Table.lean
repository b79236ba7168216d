/-! Finite maps from texts, as lists of pairs in which the first pair with a key counts. -/
namespace SessionLedger.Store

/-- A finite map from texts. -/
abbrev Table (β : Type) := List (String × β)

namespace Table
variable {β : Type}

/-- What is kept under a key. -/
def find? (t : Table β) (key : String) : Option β :=
  t.lookup key

/-- Removes a key. -/
def erase (t : Table β) (key : String) : Table β :=
  t.filter fun p => p.1 != key

/-- Puts a value under a key in place of the one kept there. -/
def insert (t : Table β) (key : String) (b : β) : Table β :=
  (key, b) :: t.erase key

@[simp] theorem find?_nil (key : String) : find? ([] : Table β) key = none := rfl

theorem find?_cons (p : String × β) (t : Table β) (key : String) :
    find? (p :: t) key = if key = p.1 then some p.2 else find? t key := by
  obtain ⟨other, b⟩ := p
  by_cases h : key = other
  · subst h
    simp [find?]
  · simp [find?, List.lookup_cons, beq_false_of_ne h, h]

theorem find?_erase (t : Table β) (key other : String) :
    (t.erase key).find? other = if other = key then none else t.find? other := by
  induction t with
  | nil => simp [erase]
  | cons p t ih =>
    simp only [erase] at ih ⊢
    rw [List.filter_cons]
    by_cases h : p.1 = key
    · simp only [h, bne_self_eq_false, Bool.false_eq_true, if_false, ih, find?_cons]
      split <;> simp_all
    · simp only [bne_iff_ne, ne_eq, h, not_false_eq_true, if_true, find?_cons, ih]
      split <;> simp_all

theorem find?_insert (t : Table β) (key other : String) (b : β) :
    (t.insert key b).find? other = if other = key then some b else t.find? other := by
  simp only [insert, find?_cons, find?_erase]
  split <;> simp_all

end Table

end SessionLedger.Store
