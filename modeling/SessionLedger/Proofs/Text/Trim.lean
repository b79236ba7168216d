import SessionLedger.Text.Blank

/-! Trimming takes away the blanks around a list of characters, and what is left is known by this:
only blanks stood before and after it, and it has none at its own ends. -/
namespace SessionLedger.Text
variable {before after cs left : List Char}

/-- No blank stands at either end. -/
structure IsTrimmed (cs : List Char) : Prop where
  head : ∀ c ∈ cs.head?, isBlank c = false
  last : ∀ c ∈ cs.getLast?, isBlank c = false

theorem isTrimmed_iff :
    IsTrimmed cs ↔ cs.head?.any isBlank = false ∧ cs.getLast?.any isBlank = false := by
  rw [Option.any_eq_false, Option.any_eq_false]
  exact ⟨fun h => ⟨h.head, h.last⟩, fun h => ⟨h.1, h.2⟩⟩

instance : Decidable (IsTrimmed cs) :=
  decidable_of_iff' _ isTrimmed_iff

/-- What is left of a list without the blanks around it. -/
structure IsStripped (cs left : List Char) : Prop where
  around : ∃ before after, before.all isBlank = true ∧ after.all isBlank = true ∧
    cs = before ++ left ++ after
  trimmed : IsTrimmed left

/-! ## The start -/

theorem trimStart_append (h : before.all isBlank = true) (cs : List Char) :
    trimStart (before ++ cs) = trimStart cs :=
  List.dropWhile_append_of_pos (List.all_eq_true.mp h)

theorem trimStart_cons {c : Char} (h : isBlank c = false) (cs : List Char) :
    trimStart (c :: cs) = c :: cs :=
  List.dropWhile_cons_of_neg (by simp [h])

theorem trimStart_of_head (h : ∀ c ∈ cs.head?, isBlank c = false) : trimStart cs = cs := by
  cases cs with
  | nil => rfl
  | cons c cs => exact trimStart_cons (h c rfl) cs

theorem trimStart_of_all (h : cs.all isBlank = true) : trimStart cs = [] := by
  have happend := trimStart_append h []
  rwa [List.append_nil] at happend

theorem exists_trimStart (cs : List Char) :
    ∃ before, before.all isBlank = true ∧ cs = before ++ trimStart cs :=
  ⟨cs.takeWhile isBlank, List.all_takeWhile, List.takeWhile_append_dropWhile.symm⟩

theorem head_trimStart (cs : List Char) : ∀ c ∈ (trimStart cs).head?, isBlank c = false := by
  intro c hc
  have hhead := List.head?_dropWhile_not isBlank cs
  rw [trimStart, Option.mem_def] at hc
  rw [hc] at hhead
  exact hhead

/-! ## The end, which is the start of the reversed list -/

theorem trimEnd_eq (cs : List Char) : trimEnd cs = (trimStart cs.reverse).reverse :=
  rfl

theorem trimEnd_append (cs : List Char) (h : after.all isBlank = true) :
    trimEnd (cs ++ after) = trimEnd cs := by
  rw [trimEnd_eq, List.reverse_append, trimStart_append (by rwa [List.all_reverse]), ← trimEnd_eq]

theorem trimEnd_of_last (h : ∀ c ∈ cs.getLast?, isBlank c = false) : trimEnd cs = cs := by
  rw [← List.head?_reverse] at h
  rw [trimEnd_eq, trimStart_of_head h, List.reverse_reverse]

theorem exists_trimEnd (cs : List Char) :
    ∃ after, after.all isBlank = true ∧ cs = trimEnd cs ++ after := by
  obtain ⟨before, hbefore, hcs⟩ := exists_trimStart cs.reverse
  refine ⟨before.reverse, by rwa [List.all_reverse], ?_⟩
  rw [trimEnd_eq, ← List.reverse_append, ← hcs, List.reverse_reverse]

theorem last_trimEnd (cs : List Char) : ∀ c ∈ (trimEnd cs).getLast?, isBlank c = false := by
  rw [trimEnd_eq, List.getLast?_reverse]
  exact head_trimStart cs.reverse

/-! ## Both ends -/

theorem isTrimmed_trim (cs : List Char) : IsTrimmed (trim cs) where
  head := by
    intro c hc
    -- What is left starts as the list did before its end was trimmed.
    obtain ⟨after, -, hstart⟩ := exists_trimEnd (trimStart cs)
    apply head_trimStart cs c
    rw [hstart, List.head?_append, ← trim, Option.mem_def.mp hc]
    rfl
  last := last_trimEnd (trimStart cs)

theorem isStripped_trim (cs : List Char) : IsStripped cs (trim cs) where
  around := by
    obtain ⟨before, hbefore, hcs⟩ := exists_trimStart cs
    obtain ⟨after, hafter, hstart⟩ := exists_trimEnd (trimStart cs)
    refine ⟨before, after, hbefore, hafter, ?_⟩
    calc cs = before ++ trimStart cs := hcs
      _ = before ++ (trim cs ++ after) := by rw [trim, ← hstart]
      _ = before ++ trim cs ++ after := (List.append_assoc ..).symm
  trimmed := isTrimmed_trim cs

/-- Trimming leaves what stands between the outer blanks, and nothing else would do. -/
theorem trim_eq_iff : trim cs = left ↔ IsStripped cs left := by
  constructor
  · rintro rfl
    exact isStripped_trim cs
  · rintro ⟨⟨before, after, hbefore, hafter, rfl⟩, htrimmed⟩
    rw [trim, List.append_assoc, trimStart_append hbefore]
    cases left with
    | nil =>
      rw [List.nil_append, trimStart_of_all hafter]
      rfl
    | cons c left =>
      have hstart : trimStart (c :: left ++ after) = c :: left ++ after :=
        trimStart_of_head htrimmed.head
      rw [hstart, trimEnd_append _ hafter, trimEnd_of_last htrimmed.last]

theorem IsStripped.subset (h : IsStripped cs left) : left ⊆ cs := by
  obtain ⟨before, after, -, -, rfl⟩ := h.around
  intro c hc
  exact List.mem_append_left _ (List.mem_append_right _ hc)

theorem trim_eq_nil_iff : trim cs = [] ↔ cs.all isBlank = true := by
  rw [trim_eq_iff]
  constructor
  · rintro ⟨⟨before, after, hbefore, hafter, rfl⟩, -⟩
    rw [List.append_nil, List.all_append, hbefore, hafter]
    rfl
  · intro h
    exact ⟨⟨cs, [], h, rfl, by simp⟩, ⟨nofun, nofun⟩⟩

theorem IsStripped.all_isBlank_iff (h : IsStripped cs left) :
    cs.all isBlank = true ↔ left = [] := by
  rw [← trim_eq_nil_iff, trim_eq_iff.mpr h]

end SessionLedger.Text
