import SessionLedger.Store.State

/-! What the answers of the key-value store tell about its entries. A write puts its entry, a
removal leaves none of its keys and counts the live ones, and everything else keeps each entry,
unless it is dead. -/
namespace SessionLedger.Store

/-- An entry that is live has been live before. -/
theorem Entry.isLive_of_le {e : Entry} {now later : Nat} (h : e.isLive later = true)
    (hle : now ≤ later) : e.isLive now = true := by
  cases hx : e.expiry with
  | none => simp [isLive, hx]
  | some instant =>
    simp only [isLive, hx, Option.all_some, decide_eq_true_eq] at h ⊢
    omega

namespace State
variable {m : State} {now : Nat} {key : String}

/-- An entry that is written is live at that moment. -/
theorem isLive_expiryAt (value : String) (now lifetime : Nat) :
    (⟨value, expiryAt now lifetime⟩ : Entry).isLive now = true := by
  by_cases hzero : lifetime = 0
  · simp [expiryAt, Entry.isLive, hzero]
  · simp only [expiryAt, Entry.isLive, hzero, if_false, Option.all_some, decide_eq_true_eq]
    omega

/-- It lives until its lifetime is over, or for good if it has none. -/
theorem isLive_expiryAt_iff {value : String} {written lifetime : Nat} :
    (⟨value, expiryAt written lifetime⟩ : Entry).isLive now = true ↔
      lifetime = 0 ∨ now < written + 1000 * lifetime := by
  by_cases hzero : lifetime = 0
  · simp [expiryAt, Entry.isLive, hzero]
  · simp [expiryAt, Entry.isLive, hzero]

/-- An entry that is written later and to last no shorter outlives the one before. -/
theorem isLive_of_expiryAt {x y : Entry} {written written' lifetime lifetime' : Nat}
    (hx : x.expiry = expiryAt written lifetime) (hy : y.expiry = expiryAt written' lifetime')
    (hwritten : written ≤ written') (hpos : 0 < lifetime) (hle : lifetime ≤ lifetime')
    (h : x.isLive now = true) : y.isLive now = true := by
  have hne : lifetime ≠ 0 := by omega
  have hne' : lifetime' ≠ 0 := by omega
  simp only [Entry.isLive, hx, hy, expiryAt, hne, hne', if_false, Option.all_some,
    decide_eq_true_eq] at h ⊢
  omega

theorem find?_deleteAll (keys : List String) (t : Table Entry) (key : String) :
    (deleteAll now keys t).1.find? key = if key ∈ keys then none else t.find? key := by
  induction keys generalizing t with
  | nil => simp [deleteAll]
  | cons k ks ih =>
    simp only [deleteAll, ih, Table.find?_erase, List.mem_cons]
    by_cases hk : key = k <;> by_cases hks : key ∈ ks <;> simp [hk, hks]

/-- A removal counts nothing just if none of its keys is live. -/
theorem deleteAll_eq_zero_iff (keys : List String) (t : Table Entry) :
    (deleteAll now keys t).2 = 0 ↔
      ∀ key ∈ keys, ∀ e, t.find? key = some e → e.isLive now = false := by
  induction keys generalizing t with
  | nil => simp [deleteAll]
  | cons k ks ih =>
    simp only [deleteAll, List.mem_cons, forall_eq_or_imp]
    have hrest : (∀ key ∈ ks, ∀ e, (t.erase k).find? key = some e → e.isLive now = false) ↔
        ∀ key ∈ ks, key ≠ k → ∀ e, t.find? key = some e → e.isLive now = false := by
      refine forall₂_congr fun key _ => ?_
      rw [Table.find?_erase]
      by_cases hk : key = k <;> simp [hk]
    have hk : (t.find? k).any (·.isLive now) = false ↔
        ∀ e, t.find? k = some e → e.isLive now = false := by
      cases t.find? k <;> simp
    split
    · next hlive =>
      rw [← hk, hlive]
      simp
    · next hdead =>
      have hdead := hk.mp (by simpa using hdead)
      rw [ih, hrest]
      constructor
      · intro h
        refine ⟨hdead, fun key hmem e he => ?_⟩
        by_cases heq : key = k
        · subst heq
          exact hdead e he
        · exact h key hmem heq e he
      · exact fun h key hmem _ => h.2 key hmem

theorem live?_eq_none_iff :
    m.live? now key = none ↔ ∀ e, m.entries.find? key = some e → e.isLive now = false := by
  simp only [live?]
  cases m.entries.find? key <;> simp

theorem live?_eq_some_iff {e : Entry} :
    m.live? now key = some e ↔ m.entries.find? key = some e ∧ e.isLive now = true := by
  simp [live?, Option.filter_eq_some_iff]

theorem live?_eq_none_of_le {later : Nat} (h : m.live? now key = none) (hle : now ≤ later) :
    m.live? later key = none := by
  rw [live?_eq_none_iff] at h ⊢
  intro e he
  rw [Bool.eq_false_iff]
  intro hlive
  have hearlier := e.isLive_of_le hlive hle
  rw [h e he] at hearlier
  cases hearlier

/-- An answer changes nothing of a store but its entries. -/
theorem answer_eq (m : State) (now : Nat) (c : Call) :
    (m.answer now c).1 = { m with entries := (m.answer now c).1.entries } := by
  cases c with
  | ping => rfl
  | _ =>
    simp only [answer]
    repeat' split
    all_goals rfl

/-- A store that is there and refuses neither writes nor removals. -/
structure IsSound (m : State) : Prop where
  available : m.isAvailable = true
  writes : m.failingPrefix = none
  deletes : m.deletesFail = false

theorem IsSound.answer (h : m.IsSound) (now : Nat) (c : Call) : (m.answer now c).1.IsSound := by
  rw [answer_eq]
  exact ⟨h.available, h.writes, h.deletes⟩

/-- It removes what it is asked to. -/
theorem IsSound.delete (h : m.IsSound) (now : Nat) (keys : List String) :
    ∃ n, (m.answer now (.delete keys)).2 = .ok n := by
  simp [State.answer, h.available, h.deletes]

/-- It keeps what it is asked to. -/
theorem IsSound.answer_set (h : m.IsSound) (value : String) {lifetime : Nat}
    (hlifetime : lifetime ≤ longestLifetime) :
    m.answer now (.set key value lifetime) =
      ({ m with entries := m.entries.insert key ⟨value, expiryAt now lifetime⟩ }, .ok ()) := by
  simp only [State.answer, h.available, h.writes, Bool.not_true, Bool.false_eq_true, if_false,
    Option.any_none, Nat.not_lt.mpr hlifetime]

theorem IsSound.answer_delete (h : m.IsSound) (now : Nat) (keys : List String) :
    m.answer now (.delete keys) =
      ({ m with entries := (deleteAll now keys m.entries).1 },
        .ok (deleteAll now keys m.entries).2) := by
  simp only [State.answer, h.available, h.deletes, Bool.not_true, Bool.false_eq_true, if_false]

/-- Asking for a live entry changes nothing. -/
theorem answer_get_of_live {e : Entry} (h : m.isAvailable = true)
    (he : m.live? now key = some e) : m.answer now (.get key) = (m, .ok (some e.value)) := by
  simp only [live?, Option.filter_eq_some_iff] at he
  simp only [answer, h, he.1, he.2, Bool.not_true, Bool.false_eq_true, if_false, if_true]

theorem answer_get_of_find?_eq_none (h : m.isAvailable = true)
    (hnone : m.entries.find? key = none) :
    m.answer now (.get key) = (m, .ok none) := by
  simp only [answer, h, hnone, Bool.not_true, Bool.false_eq_true, if_false]

theorem answer_error {c : Call} {r : Refusal} (h : (m.answer now c).2 = .error r) :
    (m.answer now c).1 = m := by
  cases c with
  | set k v l =>
    simp only [answer] at h ⊢
    repeat' split
    all_goals simp_all
  | get k =>
    simp only [answer] at h ⊢
    repeat' split
    all_goals simp_all
  | delete ks =>
    simp only [answer] at h ⊢
    repeat' split
    all_goals simp_all
  | ping => rfl

theorem answer_set {k v : String} {l : Nat} (h : (m.answer now (.set k v l)).2 = .ok ()) :
    (m.answer now (.set k v l)).1.entries = m.entries.insert k ⟨v, expiryAt now l⟩ := by
  simp only [answer] at h ⊢
  repeat' split
  all_goals simp_all

/-- Which writes are accepted. -/
theorem answer_set_eq_ok_iff {k v : String} {l : Nat} :
    (m.answer now (.set k v l)).2 = .ok () ↔
      m.isAvailable = true ∧ m.failingPrefix.any (k.startsWith ·) = false ∧
        l ≤ longestLifetime := by
  simp only [answer]
  by_cases havailable : m.isAvailable = true
  · by_cases hprefix : m.failingPrefix.any (k.startsWith ·) = true
    · simp [havailable, hprefix]
    · by_cases hlifetime : longestLifetime < l
      · simp [havailable, hprefix, hlifetime]
      · simp [havailable, hprefix, hlifetime, Nat.not_lt.mp hlifetime]
  · simp [havailable]

theorem answer_get {k : String} {found : Option String}
    (h : (m.answer now (.get k)).2 = .ok found) : found = (m.live? now k).map (·.value) := by
  simp only [answer] at h
  split at h
  · cases h
  · split at h
    · next e he =>
      split at h
      · next hl =>
        cases h
        rw [live?_eq_some_iff.mpr ⟨he, hl⟩]
        rfl
      · next hl =>
        cases h
        rw [live?_eq_none_iff.mpr]
        · rfl
        · rintro e' he'
          cases he.symm.trans he'
          simpa using hl
    · next he =>
      cases h
      rw [live?_eq_none_iff.mpr]
      · rfl
      · rintro e' he'
        cases he.symm.trans he'

/-- A store that is available answers what is live. -/
theorem answer_get_of_available (h : m.isAvailable = true) :
    (m.answer now (.get key)).2 = .ok (m.peek? now key) := by
  cases hr : (m.answer now (.get key)).2 with
  | ok found => rw [answer_get hr, peek?]
  | error r =>
    simp only [answer, h, Bool.not_true, Bool.false_eq_true, if_false] at hr
    repeat' split at hr
    all_goals cases hr

theorem answer_delete {ks : List String} {n : Nat}
    (h : (m.answer now (.delete ks)).2 = .ok n) :
    (m.answer now (.delete ks)).1.entries = (deleteAll now ks m.entries).1 ∧
      n = (deleteAll now ks m.entries).2 := by
  simp only [answer] at h ⊢
  repeat' split
  all_goals simp_all

/-- A call that neither writes nor removes a key keeps its entry, unless that is dead. -/
theorem find?_answer {c : Call} (hset : ∀ v l, c ≠ .set key v l)
    (hdel : ∀ ks, c = .delete ks → key ∉ ks) :
    (m.answer now c).1.entries.find? key = m.entries.find? key ∨
      (m.answer now c).1.entries.find? key = none ∧ m.live? now key = none := by
  cases hr : (m.answer now c).2 with
  | error r => exact .inl (by rw [answer_error hr])
  | ok a =>
    cases c with
    | set k v l =>
      have hne : key ≠ k := by
        rintro rfl
        exact hset v l rfl
      exact .inl (by rw [answer_set hr, Table.find?_insert, if_neg hne])
    | get k =>
      simp only [answer] at hr ⊢
      split
      · exact .inl rfl
      · split
        · next e he =>
          split
          · exact .inl rfl
          · next hl =>
            -- A read drops the entry that it finds dead.
            by_cases hk : key = k
            · subst hk
              refine .inr ⟨by simp [Table.find?_erase], live?_eq_none_iff.mpr ?_⟩
              rintro e' he'
              cases he.symm.trans he'
              simpa using hl
            · exact .inl (by simp [Table.find?_erase, hk])
        · exact .inl rfl
    | delete ks =>
      exact .inl (by rw [(answer_delete hr).1, find?_deleteAll, if_neg (hdel ks rfl)])
    | ping => exact .inl rfl

/-- Such a call makes no difference to what is live under the key, then or later. -/
theorem live?_answer {c : Call} {later : Nat} (hset : ∀ v l, c ≠ .set key v l)
    (hdel : ∀ ks, c = .delete ks → key ∉ ks) (hle : now ≤ later) :
    (m.answer now c).1.live? later key = m.live? later key := by
  rcases find?_answer hset hdel with heq | ⟨hnone, hdead⟩
  · exact congrArg (Option.filter _) heq
  · rw [live?_eq_none_of_le hdead hle]
    simp only [live?, hnone, Option.filter_none]

/-- To be asked for a key makes no difference to what is live under any. -/
theorem live?_answer_get {key' : String} {later : Nat} (hle : now ≤ later) :
    (m.answer now (.get key')).1.live? later key = m.live? later key :=
  live?_answer (by simp) (by simp) hle

/-- A removal leaves none of its keys, and the other keys as they are. -/
theorem live?_delete {ks : List String} {n : Nat} {later : Nat}
    (h : (m.answer now (.delete ks)).2 = .ok n) :
    (m.answer now (.delete ks)).1.live? later key =
      if key ∈ ks then none else m.live? later key := by
  simp only [live?, (answer_delete h).1, find?_deleteAll]
  split <;> rfl

/-- A removal that counts nothing makes no difference to what is live. -/
theorem live?_delete_of_zero {ks : List String} {later : Nat}
    (h : (m.answer now (.delete ks)).2 = .ok 0) (hle : now ≤ later) :
    (m.answer now (.delete ks)).1.live? later key = m.live? later key := by
  rw [live?_delete h]
  split
  · next hkey =>
    have hzero := (deleteAll_eq_zero_iff ks m.entries).mp (answer_delete h).2.symm
    exact (live?_eq_none_of_le (live?_eq_none_iff.mpr (hzero key hkey)) hle).symm
  · rfl

end State

end SessionLedger.Store
