import SessionLedger.User.Directory

/-! What the store of users answers, and which rows a call leaves as they are: a login that is kept
changes the row of its user, and nothing else changes any. -/
namespace SessionLedger.User.Directory

variable {d : Directory} {a : Account} {user : Int64} {c : Call} {e : DirectoryError}

theorem id_of_find? (h : d.find? user = some a) : a.user.id = user := by
  simpa using List.find?_some h

@[simp] theorem find?_count (d : Directory) (m : Method) (user : Int64) :
    (d.count m).find? user = d.find? user := rfl

@[simp] theorem fault_count (d : Directory) (m : Method) : (d.count m).fault = d.fault := rfl

theorem answer_of_fault (h : d.fault c.method = some e) :
    d.answer c = (d.count c.method, .error e) := by
  simp only [answer, fault_count, h]

theorem answer_of_sound (h : d.fault c.method = none) :
    d.answer c = (d.count c.method).answerSound c := by
  simp only [answer, fault_count, h]

/-- An answer changes nothing of a store of users but its accounts and its counts. -/
theorem answer_eq (d : Directory) (c : Call) :
    (d.answer c).1 =
      { d with accounts := (d.answer c).1.accounts, calls := (d.answer c).1.calls } := by
  cases hfault : d.fault c.method with
  | some e =>
    rw [answer_of_fault hfault]
    rfl
  | none =>
    rw [answer_of_sound hfault]
    cases c with
    | recordLogin id instant =>
      simp only [answerSound]
      split <;> rfl
    | _ => rfl

/-- The projection that is answered is that of the row. -/
theorem answer_project {p : Projection} (h : (d.answer (.project user)).2 = .ok p) :
    ∃ a, d.find? user = some a ∧ p = a.projection := by
  cases hfault : d.fault (Call.project user).method with
  | some e =>
    rw [answer_of_fault hfault] at h
    cases h
  | none =>
    rw [answer_of_sound hfault] at h
    simp only [answerSound, find?_count] at h
    cases hfind : d.find? user with
    | none =>
      rw [hfind] at h
      cases h
    | some a =>
      rw [hfind] at h
      cases h
      exact ⟨a, rfl, rfl⟩

/-- An account that is put into its place leaves those of other users where they are. -/
theorem find?_place (h : a.user.id ≠ user) (accounts : List Account) :
    (place a accounts).find? (fun b => b.user.id == user) =
      accounts.find? fun b => b.user.id == user := by
  induction accounts with
  | nil => simp [place, h]
  | cons b rest ih =>
    unfold place
    split
    · simp [h]
    · split
      · next heq => simp [h, ← heq]
      · simp only [List.find?_cons, ih]

/-- The row of a user is changed only by a login of theirs that is kept. -/
theorem find?_answer
    (h : ∀ instant, c = .recordLogin user instant → ∃ e, (d.answer c).2 = .error e) :
    (d.answer c).1.find? user = d.find? user := by
  cases hfault : d.fault c.method with
  | some e =>
    rw [answer_of_fault hfault]
    rfl
  | none =>
    rw [answer_of_sound hfault] at h ⊢
    cases c with
    | recordLogin id instant =>
      simp only [answerSound, find?_count] at h ⊢
      cases hfind : d.find? id with
      | none => rfl
      | some a =>
        simp only [hfind] at h ⊢
        refine find?_place ?_ _
        intro hid
        obtain ⟨e, he⟩ := h instant (by rw [← hid, ← id_of_find? hfind]; rfl)
        cases he
    | _ => rfl

/-! ## Users without a row -/

/-- The identifier that a call is about. -/
def Call.id? : Call → Option Int64
  | .findByEmail _ => none
  | .findById id | .project id | .recordLogin id _ => some id

/-- A call about a user without a row fails. -/
theorem exists_answer_eq_error (hnone : d.find? user = none) (hc : c.id? = some user) :
    ∃ e, (d.answer c).2 = .error e := by
  cases hfault : d.fault c.method with
  | some e =>
    rw [answer_of_fault hfault]
    exact ⟨e, rfl⟩
  | none =>
    rw [answer_of_sound hfault]
    cases c with
    | findByEmail email => cases hc
    | findById id | project id | recordLogin id instant =>
      cases hc
      simp only [answerSound, find?_count, hnone]
      exact ⟨.notFound, rfl⟩

/-- No call makes a row. -/
theorem find?_answer_eq_none (hnone : d.find? user = none) (c : Call) :
    (d.answer c).1.find? user = none := by
  rw [find?_answer, hnone]
  rintro instant rfl
  exact exists_answer_eq_error hnone rfl

theorem answer_findById_of_find?_eq_none (h : d.fault .findById = none)
    (hnone : d.find? user = none) : (d.answer (.findById user)).2 = .error .notFound := by
  rw [answer_of_sound (show d.fault (Call.findById user).method = none from h)]
  simp only [answerSound, find?_count, hnone]
  rfl

/-! ## Accounts in order -/

/-- The accounts stand in ascending order of their identifiers, no two of which are the same. -/
def IsAscending (accounts : List Account) : Prop :=
  accounts.Pairwise fun a b => a.user.id < b.user.id

variable {accounts : List Account}

/-- In order, an account is the one of its identifier. -/
theorem IsAscending.find?_of_mem (h : IsAscending accounts) (ha : a ∈ accounts) :
    accounts.find? (fun b => b.user.id == a.user.id) = some a := by
  induction accounts with
  | nil => cases ha
  | cons b rest ih =>
    obtain ⟨hfirst, hrest⟩ := List.pairwise_cons.mp h
    rcases List.mem_cons.mp ha with rfl | ha
    · simp
    · have hne : b.user.id ≠ a.user.id := Int64.ne_of_lt (hfirst a ha)
      rw [List.find?_cons, beq_false_of_ne hne, ih hrest ha]

theorem mem_of_mem_place {b : Account} (h : b ∈ place a accounts) : b = a ∨ b ∈ accounts := by
  induction accounts with
  | nil => exact .inl (List.mem_singleton.mp h)
  | cons c rest ih =>
    unfold place at h
    split at h
    · exact List.mem_cons.mp h
    · split at h
      · exact (List.mem_cons.mp h).imp_right (List.mem_cons_of_mem c)
      · rcases List.mem_cons.mp h with rfl | h
        · exact .inr (List.mem_cons_self ..)
        · exact (ih h).imp_right (List.mem_cons_of_mem c)

theorem IsAscending.place (h : IsAscending accounts) (a : Account) :
    IsAscending (place a accounts) := by
  induction accounts with
  | nil => exact List.pairwise_singleton _ _
  | cons b rest ih =>
    obtain ⟨hfirst, hrest⟩ := List.pairwise_cons.mp h
    unfold Directory.place
    split
    next hlt =>
      refine List.pairwise_cons.mpr ⟨fun c hc => ?_, h⟩
      rcases List.mem_cons.mp hc with rfl | hc
      · exact hlt
      · exact Int64.lt_trans hlt (hfirst c hc)
    next hnlt =>
      split
      next heq =>
        exact List.pairwise_cons.mpr ⟨fun c hc => heq ▸ hfirst c hc, hrest⟩
      next hne =>
        refine List.pairwise_cons.mpr ⟨fun c hc => ?_, ih hrest⟩
        rcases mem_of_mem_place hc with rfl | hc
        · exact Int64.lt_of_le_of_ne (Int64.not_lt.mp hnlt) (Ne.symm hne)
        · exact hfirst c hc

/-- A call leaves the accounts in order. -/
theorem IsAscending.answer (h : IsAscending d.accounts) (c : Call) :
    IsAscending (d.answer c).1.accounts := by
  cases hfault : d.fault c.method with
  | some e =>
    rw [answer_of_fault hfault]
    exact h
  | none =>
    rw [answer_of_sound hfault]
    cases c with
    | recordLogin id instant =>
      simp only [answerSound]
      split
      · exact h.place _
      · exact h
    | _ => exact h

/-- An account that is put into its place is found there. -/
theorem find?_place_self (a : Account) (accounts : List Account) :
    (place a accounts).find? (fun b => b.user.id == a.user.id) = some a := by
  induction accounts with
  | nil => simp [place]
  | cons b rest ih =>
    unfold place
    split
    · simp
    · split
      · simp
      next hne => rw [List.find?_cons, beq_false_of_ne (Ne.symm hne), ih]

/-! ## Answers without a fault -/

theorem answer_findByEmail {email : String} (h : d.fault .findByEmail = none)
    (ha : d.accounts.find? (fun b => b.user.email == email) = some a) :
    (d.answer (.findByEmail email)).2 = .ok a.user := by
  rw [answer_of_sound (show d.fault (Call.findByEmail email).method = none from h)]
  simp only [answerSound, count, ha]
  rfl

theorem answer_project_of_find? (h : d.fault .project = none) (ha : d.find? user = some a) :
    (d.answer (.project user)).2 = .ok a.projection := by
  rw [answer_of_sound (show d.fault (Call.project user).method = none from h)]
  simp only [answerSound, find?_count, ha]
  rfl

theorem answer_recordLogin (instant : Time.Stamp) (h : d.fault .recordLogin = none)
    (ha : d.find? user = some a) :
    d.answer (.recordLogin user instant) =
      ((d.count .recordLogin).insert (a.loggedIn instant), .ok ()) := by
  rw [answer_of_sound (show d.fault (Call.recordLogin user instant).method = none from h)]
  simp only [answerSound, find?_count, ha]
  rfl

/-- A login that is kept is found in the row of its user. -/
theorem find?_answer_recordLogin (instant : Time.Stamp) (h : d.fault .recordLogin = none)
    (ha : d.find? user = some a) :
    (d.answer (.recordLogin user instant)).1.find? user = some (a.loggedIn instant) := by
  rw [answer_recordLogin instant h ha, ← id_of_find? ha]
  exact find?_place_self (a.loggedIn instant) _

end SessionLedger.User.Directory
