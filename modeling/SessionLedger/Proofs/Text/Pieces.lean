import SessionLedger.Text.Blank

/-! A list is its pieces with marks between them. -/
namespace SessionLedger.Text
variable {α : Type} [DecidableEq α] {mark : α} {xs : List α} {parts : List (List α)}

/-- A list is split at its marks: it consists of the parts with marks between them, and these are
all the marks that it has. -/
structure IsSplit (mark : α) (xs : List α) (parts : List (List α)) : Prop where
  ne_nil : parts ≠ []
  joined : [mark].intercalate parts = xs
  not_mem : ∀ part ∈ parts, mark ∉ part

theorem pieces_eq_splitOn (mark : α) (xs : List α) : pieces (· == mark) xs = xs.splitOn mark := by
  induction xs with
  | nil => rfl
  | cons a rest ih =>
    rw [List.splitOn_cons_eq_if_modifyHead, pieces, ih]
    split
    · rfl
    · split
      next h => exact absurd h (List.splitOn_ne_nil mark rest)
      next h =>
        rw [h]
        rfl

theorem not_mem_of_mem_splitOn {part : List α} (h : part ∈ xs.splitOn mark) : mark ∉ part := by
  induction xs generalizing part with
  | nil =>
    rw [List.splitOn_nil, List.mem_singleton] at h
    rw [h]
    exact List.not_mem_nil
  | cons a rest ih =>
    rw [List.splitOn_cons_eq_if_modifyHead] at h
    split at h
    · rcases List.mem_cons.mp h with rfl | h
      · exact List.not_mem_nil
      · exact ih h
    next ha =>
      obtain ⟨first, more, hrest⟩ := List.exists_cons_of_ne_nil (List.splitOn_ne_nil mark rest)
      rw [hrest] at h ih
      rcases List.mem_cons.mp h with rfl | h
      · have hne : mark ≠ a := fun heq => ha (beq_iff_eq.mpr heq.symm)
        exact List.not_mem_cons_of_ne_of_not_mem hne (ih (.head _))
      · exact ih (.tail _ h)

/-- A list is split into its pieces, and in no other way. -/
theorem isSplit_iff : IsSplit mark xs parts ↔ pieces (· == mark) xs = parts := by
  rw [pieces_eq_splitOn]
  constructor
  · rintro ⟨hne, rfl, hmem⟩
    exact List.splitOn_intercalate mark hmem hne
  · rintro rfl
    exact ⟨List.splitOn_ne_nil mark xs, List.intercalate_splitOn mark,
      fun _ => not_mem_of_mem_splitOn⟩

end SessionLedger.Text
