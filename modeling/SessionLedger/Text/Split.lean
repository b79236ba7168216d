/-! Splitting a list at the first or the last place of an element. Main statements: nothing is lost,
and the element is not in the part beyond its first or last place. -/
namespace SessionLedger.Text
variable {α : Type} [DecidableEq α]

/-- What stands before and after the first `mark`. -/
def splitFirst? (mark : α) : List α → Option (List α × List α)
  | [] => none
  | a :: rest =>
    if a = mark then some ([], rest)
    else (splitFirst? mark rest).map fun (before, after) => (a :: before, after)

/-- What stands before and after the last `mark`. -/
def splitLast? (mark : α) (xs : List α) : Option (List α × List α) :=
  (splitFirst? mark xs.reverse).map fun (after, before) => (before.reverse, after.reverse)

theorem splitFirst?_eq_some_iff {mark : α} {xs before after : List α} :
    splitFirst? mark xs = some (before, after) ↔
      xs = before ++ mark :: after ∧ mark ∉ before := by
  induction xs generalizing before with
  | nil => simp [splitFirst?]
  | cons a rest ih =>
    simp only [splitFirst?]
    by_cases h : a = mark
    · subst h
      cases before with
      | nil => simp
      | cons b bs => simp; rintro rfl; simp
    · cases before with
      | nil => simp [h]
      | cons b bs =>
        simp only [h, if_false, Option.map_eq_some_iff, Prod.exists, Prod.mk.injEq, List.cons.injEq]
        constructor
        · rintro ⟨front, back, hsplit, ⟨rfl, rfl⟩, rfl⟩
          obtain ⟨rfl, hmem⟩ := ih.mp hsplit
          simp [hmem, Ne.symm h]
        · rintro ⟨⟨rfl, rfl⟩, hmem⟩
          simp only [List.mem_cons, not_or] at hmem
          exact ⟨bs, after, ih.mpr ⟨rfl, hmem.2⟩, ⟨rfl, rfl⟩, rfl⟩

theorem splitLast?_eq_some_iff {mark : α} {xs before after : List α} :
    splitLast? mark xs = some (before, after) ↔
      xs = before ++ mark :: after ∧ mark ∉ after := by
  simp only [splitLast?, Option.map_eq_some_iff, Prod.exists, Prod.mk.injEq]
  constructor
  · rintro ⟨back, front, hsplit, rfl, rfl⟩
    obtain ⟨hxs, hmem⟩ := splitFirst?_eq_some_iff.mp hsplit
    refine ⟨?_, by simpa using hmem⟩
    rw [← List.reverse_inj, hxs]
    simp
  · rintro ⟨rfl, hmem⟩
    exact ⟨after.reverse, before.reverse,
      splitFirst?_eq_some_iff.mpr ⟨by simp, by simpa using hmem⟩, by simp, by simp⟩

theorem splitFirst?_eq_none_iff {mark : α} {xs : List α} :
    splitFirst? mark xs = none ↔ mark ∉ xs := by
  induction xs with
  | nil => simp [splitFirst?]
  | cons a rest ih =>
    simp only [splitFirst?]
    split
    · next h => simp [h]
    · next h => simp [ih, Ne.symm h]

theorem splitLast?_eq_none_iff {mark : α} {xs : List α} :
    splitLast? mark xs = none ↔ mark ∉ xs := by
  rw [splitLast?, Option.map_eq_none_iff, splitFirst?_eq_none_iff, List.mem_reverse]

end SessionLedger.Text
