import SessionLedger.Proofs.Traffic.Run

/-! What the log of a run says about one operation. Each operation in flight is where its own
exchanges have brought its program, so what the program keeps to for all replies holds of every
call and every result of the operation in the log. -/
namespace SessionLedger

/-- The exchanges of a session operation, in order. -/
abbrev Diary := Effect.interface.Diary

/-- The exchange of an operation in an event. -/
def Event.exchange? (i : Nat) : Event → Option Effect.interface.Exchange
  | .called j c reply => if j = i then some ⟨c, reply⟩ else none
  | _ => none

/-- The operation that an event is about. -/
def Event.flight? : Event → Option Nat
  | .started i _ | .called i _ _ | .returned i _ _ | .expired i _ _ => some i
  | .passed _ | .altered => none

/-- The operation that ends in an event. -/
def Event.ends? : Event → Option Nat
  | .returned i _ _ | .expired i _ _ => some i
  | _ => none

/-- The exchanges of one operation in a log. -/
def diary (log : List Event) (i : Nat) : Diary :=
  log.filterMap (Event.exchange? i)

@[simp] theorem diary_nil (i : Nat) : diary [] i = [] := rfl

@[simp] theorem diary_append (log log' : List Event) (i : Nat) :
    diary (log ++ log') i = diary log i ++ diary log' i :=
  List.filterMap_append

@[simp] theorem diary_cons_called (i : Nat) (c : Effect.Call) (reply : c.Reply)
    (log : List Event) : diary (.called i c reply :: log) i = ⟨c, reply⟩ :: diary log i := by
  simp [diary, Event.exchange?]

theorem diary_snoc_of_none {i : Nat} {e : Event} (h : e.exchange? i = none)
    (log : List Event) : diary (log ++ [e]) i = diary log i := by
  simp [diary, h]

theorem diary_cons_of_none {i : Nat} {e : Event} (h : e.exchange? i = none)
    (log : List Event) : diary (e :: log) i = diary log i :=
  List.filterMap_cons_none h

theorem mem_diary {log : List Event} {i : Nat} {c : Effect.Call} {reply : c.Reply} :
    ⟨c, reply⟩ ∈ diary log i ↔ .called i c reply ∈ log := by
  simp only [diary, List.mem_filterMap]
  constructor
  · rintro ⟨e, he, heq⟩
    cases e with
    | called j c' reply' =>
      simp only [Event.exchange?] at heq
      split at heq
      · next hj =>
        subst hj
        cases heq
        exact he
      · cases heq
    | _ => cases heq
  · intro h
    exact ⟨_, h, by simp [Event.exchange?]⟩

/-- A diary is cut where the log is cut at an exchange of the operation. -/
theorem diary_eq_append_cons {log : List Event} {i : Nat} {c : Effect.Call} {reply : c.Reply}
    {d d' : Diary} (h : diary log i = d ++ ⟨c, reply⟩ :: d') :
    ∃ log₁ log₂, log = log₁ ++ .called i c reply :: log₂ ∧ diary log₁ i = d ∧
      diary log₂ i = d' := by
  obtain ⟨front, back, rfl, hfront, hback⟩ := List.filterMap_eq_append_iff.mp h
  obtain ⟨quiet, e, log₂, rfl, hquiet, he, hlog₂⟩ := List.filterMap_eq_cons_iff.mp hback
  have heq : e = .called i c reply := by
    cases e with
    | called j c' reply' =>
      simp only [Event.exchange?] at he
      split at he
      · next hj =>
        subst hj
        cases he
        rfl
      · cases he
    | _ => cases he
  subst heq
  refine ⟨front ++ quiet, log₂, by simp, ?_, hlog₂⟩
  rw [diary_append, ← hfront]
  simpa [diary] using List.filterMap_eq_nil_iff.mpr hquiet

namespace Traffic
open Session
variable {s : Issuer} {w : World} {T : Traffic} {log log₁ log₂ : List Event} {i : Nat}
variable {op op' : Operation}

/-- What an operation does takes no time. -/
theorem Step.clock_eq {U : Traffic} {e : Event} (h : Step s T e U) (he : e.flight? = some i) :
    U.world.clock = T.world.clock := by
  cases h with
  | start => rfl
  | answer hi hr => exact hr.clock_eq
  | finish => rfl
  | expire => rfl
  | pass => cases he
  | alter => cases he

/-- What holds between the log of a run and the operations in flight after it. -/
structure Orderly (s : Issuer) (log : List Event) (T : Traffic) : Prop where
  /-- An operation in flight has been started, and it is where its exchanges have brought it. -/
  flight : ∀ {i op rest}, T.flight? i = some ⟨op, rest⟩ →
    op.IsSession ∧ .started i op ∈ log ∧ (op.task s).After (diary log i) rest
  /-- The log is about operations that have been started. -/
  lt_count : ∀ {e i}, e ∈ log → e.flight? = some i → i < T.count
  started_unique : ∀ {i op op'}, .started i op ∈ log → .started i op' ∈ log → op = op'
  ended : ∀ {e i}, e ∈ log → e.ends? = some i → T.flight? i = none

theorem Orderly.idle (s : Issuer) (w : World) : Orderly s [] (idle w) where
  flight h := by simp [Traffic.idle] at h
  lt_count h := by simp at h
  started_unique h := by simp at h
  ended h := by simp at h

/-- The diary of an operation that has not been started is empty. -/
theorem Orderly.diary_eq_nil (h : Orderly s log T) (hi : T.count ≤ i) : diary log i = [] := by
  rw [List.eq_nil_iff_forall_not_mem]
  rintro ⟨c, reply⟩ hmem
  have hlt := h.lt_count (mem_diary.mp hmem) rfl
  omega

theorem flight?_of_ends? {e : Event} (h : e.ends? = some i) : e.flight? = some i := by
  cases e with
  | returned => exact h
  | expired => exact h
  | _ => cases h

theorem Orderly.start (h : Orderly s log T) (hop : op.IsSession) :
    Orderly s (log ++ [.started T.count op])
      { T.put T.count (some ⟨op, op.task s⟩) with count := T.count + 1 } where
  flight {i op' rest} hi := by
    simp only [put] at hi
    split at hi
    · next hcount =>
      -- The new operation has done nothing: nothing in the log has its number.
      cases hi
      subst hcount
      refine ⟨hop, by simp, ?_⟩
      rw [diary_snoc_of_none rfl, h.diary_eq_nil (Nat.le_refl T.count)]
      exact .start
    · obtain ⟨hs, hstart, hafter⟩ := h.flight hi
      exact ⟨hs, List.mem_append_left _ hstart, by rwa [diary_snoc_of_none rfl]⟩
  lt_count {e i} he hi := by
    rcases List.mem_append.mp he with he | he
    · exact Nat.lt_succ_of_lt (h.lt_count he hi)
    · obtain rfl := List.mem_singleton.mp he
      cases hi
      exact Nat.lt_succ_self _
  started_unique {i op₁ op₂} h₁ h₂ := by
    -- The number of the new operation is not in the log before.
    have hnew : ∀ op', .started T.count op' ∉ log := fun op' hmem =>
      Nat.lt_irrefl _ (h.lt_count hmem rfl)
    simp only [List.mem_append, List.mem_singleton, Event.started.injEq] at h₁ h₂
    rcases h₁ with h₁ | ⟨rfl, rfl⟩ <;> rcases h₂ with h₂ | ⟨h₂, rfl⟩
    · exact h.started_unique h₁ h₂
    · subst h₂
      exact absurd h₁ (hnew _)
    · exact absurd h₂ (hnew _)
    · rfl
  ended {e i} he hi := by
    rcases List.mem_append.mp he with he | he
    · have hne : i ≠ T.count := Nat.ne_of_lt (h.lt_count he (flight?_of_ends? hi))
      simpa [put, hne] using h.ended he hi
    · obtain rfl := List.mem_singleton.mp he
      cases hi

theorem Orderly.answer (h : Orderly s log T) {c : Effect.Call} {reply : c.Reply}
    {next : c.Reply → Task op.Result} {w : World}
    (hi : T.flight? i = some ⟨op, .call c next⟩) :
    Orderly s (log ++ [.called i c reply])
      { T.put i (some ⟨op, next reply⟩) with world := w } where
  flight {j op' rest} hj := by
    simp only [put] at hj
    split at hj
    · next hji =>
      cases hj
      subst hji
      obtain ⟨hs, hstart, hafter⟩ := h.flight hi
      exact ⟨hs, List.mem_append_left _ hstart, by simpa using hafter.reply reply⟩
    · next hji =>
      obtain ⟨hs, hstart, hafter⟩ := h.flight hj
      refine ⟨hs, List.mem_append_left _ hstart, ?_⟩
      rwa [diary_snoc_of_none (by simp [Event.exchange?, Ne.symm hji])]
  lt_count {e j} he hj := by
    rcases List.mem_append.mp he with he | he
    · exact h.lt_count he hj
    · obtain rfl := List.mem_singleton.mp he
      cases hj
      exact h.lt_count (h.flight hi).2.1 rfl
  started_unique {j op₁ op₂} h₁ h₂ := h.started_unique (by simpa using h₁) (by simpa using h₂)
  ended {e j} he hj := by
    rcases List.mem_append.mp he with he | he
    · have hend := h.ended he hj
      -- The operation that is answered is in flight, so it is not one that has ended.
      have hne : j ≠ i := by
        rintro rfl
        simp [hi] at hend
      simpa [put, hne] using hend
    · obtain rfl := List.mem_singleton.mp he
      cases hj

theorem Orderly.close (h : Orderly s log T) {rest : Task op.Result} {e : Event}
    (hi : T.flight? i = some ⟨op, rest⟩) (he : e.flight? = some i)
    (hnone : ∀ j, e.exchange? j = none) (hstart : ∀ j op', e ≠ .started j op') :
    Orderly s (log ++ [e]) (T.put i none) where
  flight {j op' rest'} hj := by
    simp only [put] at hj
    split at hj
    · cases hj
    · obtain ⟨hs, hmem, hafter⟩ := h.flight hj
      exact ⟨hs, List.mem_append_left _ hmem, by rwa [diary_snoc_of_none (hnone j)]⟩
  lt_count {e' j} he' hj := by
    rcases List.mem_append.mp he' with he' | he'
    · exact h.lt_count he' hj
    · obtain rfl := List.mem_singleton.mp he'
      rw [he] at hj
      cases hj
      exact h.lt_count (h.flight hi).2.1 rfl
  started_unique {j op₁ op₂} h₁ h₂ := by
    simp only [List.mem_append, List.mem_singleton, Ne.symm (hstart _ _), or_false] at h₁ h₂
    exact h.started_unique h₁ h₂
  ended {e' j} he' hj := by
    simp only [put]
    split
    · rfl
    · next hji =>
      rcases List.mem_append.mp he' with he' | he'
      · exact h.ended he' hj
      · obtain rfl := List.mem_singleton.mp he'
        rw [flight?_of_ends? hj, Option.some.injEq] at he
        exact absurd he hji

theorem Orderly.quiet (h : Orderly s log T) {e : Event} {w : World} (he : e.flight? = none) :
    Orderly s (log ++ [e]) { T with world := w } where
  flight {j op' rest'} hj := by
    obtain ⟨hs, hmem, hafter⟩ := h.flight hj
    refine ⟨hs, List.mem_append_left _ hmem, ?_⟩
    rwa [diary_snoc_of_none (by cases e <;> first | rfl | cases he)]
  lt_count {e' j} he' hj := by
    rcases List.mem_append.mp he' with he' | he'
    · exact h.lt_count he' hj
    · obtain rfl := List.mem_singleton.mp he'
      rw [he] at hj
      cases hj
  started_unique {j op₁ op₂} h₁ h₂ := by
    have hne : ∀ op', e ≠ .started j op' := by
      rintro op' rfl
      cases he
    simp only [List.mem_append, List.mem_singleton, Ne.symm (hne _), or_false] at h₁ h₂
    exact h.started_unique h₁ h₂
  ended {e' j} he' hj := by
    rcases List.mem_append.mp he' with he' | he'
    · exact h.ended he' hj
    · obtain rfl := List.mem_singleton.mp he'
      rw [flight?_of_ends? hj] at he
      cases he

/-- Runs are orderly. -/
theorem Steps.orderly (h : Run s w log T) : Orderly s log T := by
  induction h with
  | refl => exact .idle s w
  | snoc _ he ih =>
    cases he with
    | start hop => exact ih.start hop
    | answer hi hr => exact ih.answer hi
    | finish hi => exact ih.close hi rfl (fun _ => rfl) (by simp)
    | expire hi hd => exact ih.close hi rfl (fun _ => rfl) (by simp)
    | pass millis => exact ih.quiet rfl
    | alter h => exact ih.quiet rfl

/-! ## Events and programs -/

/-- Each call in the log of a run is the one that the program of its operation has come to. -/
theorem Steps.called {c : Effect.Call} {reply : c.Reply}
    (h : Run s w (log₁ ++ .called i c reply :: log₂) T) :
    ∃ op next, op.IsSession ∧ .started i op ∈ log₁ ∧
      (op.task s).After (diary log₁ i) (.call c next) := by
  obtain ⟨U, V, h₁, he, -⟩ := h.at
  cases he with
  | answer hi hr => exact ⟨_, _, h₁.orderly.flight hi⟩

theorem Steps.started_of_called {c : Effect.Call} {reply : c.Reply} (h : Run s w log T)
    (hmem : .called i c reply ∈ log) : ∃ op, .started i op ∈ log := by
  obtain ⟨log₁, log₂, rfl⟩ := List.append_of_mem hmem
  obtain ⟨op, next, -, hstart, -⟩ := h.called
  exact ⟨op, List.mem_append_left _ hstart⟩

/-- Each result in the log of a run is the one that the program of its operation has come to. -/
theorem Steps.returned {result : op.Result}
    (h : Run s w (log₁ ++ .returned i op result :: log₂) T) :
    op.IsSession ∧ .started i op ∈ log₁ ∧ (op.task s).After (diary log₁ i) (.done result) := by
  obtain ⟨U, V, h₁, he, -⟩ := h.at
  cases he with
  | finish hi => exact h₁.orderly.flight hi

/-- Before its start an operation does nothing. -/
theorem Steps.diary_eq_nil_of_started (h : Run s w (log₁ ++ log₂) T)
    (hstart : .started i op ∈ log₂) : diary log₁ i = [] := by
  obtain ⟨mid, last, rfl⟩ := List.append_of_mem hstart
  rw [← List.append_assoc] at h
  obtain ⟨U, V, h₁, he, -⟩ := h.at
  cases he with
  | start hop =>
    have hnil := h₁.orderly.diary_eq_nil (Nat.le_refl _)
    rw [diary_append, List.append_eq_nil_iff] at hnil
    exact hnil.1

/-- After its end an operation does nothing more. -/
theorem Steps.flight?_ne_of_end {e e' : Event} (h : Run s w (log₁ ++ e :: log₂) T)
    (he : e.ends? = some i) (hmem : e' ∈ log₂) : e'.flight? ≠ some i := by
  obtain ⟨mid, last, rfl⟩ := List.append_of_mem hmem
  rw [← List.cons_append, ← List.append_assoc] at h
  obtain ⟨U, V, h₁, hstep, -⟩ := h.at
  have hlog : e ∈ log₁ ++ e :: mid := by simp
  have hend := h₁.orderly.ended hlog he
  intro hi
  cases hstep with
  | start hop =>
    cases hi
    exact Nat.lt_irrefl _ (h₁.orderly.lt_count hlog (flight?_of_ends? he))
  | answer hj hr =>
    cases hi
    simp [hj] at hend
  | finish hj =>
    cases hi
    simp [hj] at hend
  | expire hj hd =>
    cases hi
    simp [hj] at hend
  | pass => cases hi
  | alter => cases hi

theorem Steps.diary_of_end {e : Event} (h : Run s w (log₁ ++ e :: log₂) T)
    (he : e.ends? = some i) : diary (log₁ ++ e :: log₂) i = diary log₁ i := by
  have hnil : diary log₂ i = [] := by
    rw [List.eq_nil_iff_forall_not_mem]
    rintro ⟨c, reply⟩ hmem
    exact h.flight?_ne_of_end he (mem_diary.mp hmem) rfl
  have hnone : e.exchange? i = none := by
    cases e with
    | called => cases he
    | _ => rfl
  rw [diary_append, diary_cons_of_none hnone, hnil, List.append_nil]

/-- An operation ends once. -/
theorem Steps.end_unique {e e' : Event} (h : Run s w log T) (hmem : e ∈ log) (hmem' : e' ∈ log)
    (he : e.ends? = some i) (he' : e'.ends? = some i) : e = e' := by
  obtain ⟨A, B, rfl⟩ := List.append_of_mem hmem
  rcases List.mem_append.mp hmem' with hA | hB
  · obtain ⟨A, mid, rfl⟩ := List.append_of_mem hA
    rw [List.append_assoc, List.cons_append] at h
    exact absurd (flight?_of_ends? he) (h.flight?_ne_of_end he'
      (List.mem_append_right mid (List.mem_cons_self ..)))
  · rcases List.mem_cons.mp hB with rfl | hB
    · rfl
    · exact absurd (flight?_of_ends? he') (h.flight?_ne_of_end he hB)

/-- An operation has one result. -/
theorem Steps.result_unique {result result' : op.Result} (h : Run s w log T)
    (hi : .returned i op result ∈ log) (hj : .returned i op result' ∈ log) : result = result' := by
  cases h.end_unique hi hj rfl rfl
  rfl

/-- An operation that has been started and is not in flight has ended. -/
theorem Steps.exists_end (h : Run s w log T) (hstart : .started i op ∈ log)
    (hi : T.flight? i = none) : ∃ e ∈ log, e.ends? = some i := by
  induction h with
  | refl => cases hstart
  | @snoc log U e V h he ih =>
    -- It has ended in the last step, or it was not in flight before.
    have hearlier : U.flight? i = none → .started i op ∈ log →
        ∃ e' ∈ log ++ [e], e'.ends? = some i := fun hU hmem => by
      obtain ⟨e', he', hends⟩ := ih hmem hU
      exact ⟨e', List.mem_append_left _ he', hends⟩
    have hlast : e.ends? = some i → ∃ e' ∈ log ++ [e], e'.ends? = some i := fun hends =>
      ⟨e, by simp, hends⟩
    cases he with
    | start hop =>
      simp only [put] at hi
      split at hi
      · cases hi
      · next hne => exact hearlier hi (by simpa [hne] using hstart)
    | answer hj hr =>
      simp only [put] at hi
      split at hi
      · cases hi
      · exact hearlier hi (by simpa using hstart)
    | @finish j op' result hj =>
      by_cases hij : i = j
      · exact hlast (by rw [hij]; rfl)
      · exact hearlier (by simpa [put, hij] using hi) (by simpa using hstart)
    | @expire j op' rest limit late hj hd =>
      by_cases hij : i = j
      · exact hlast (by rw [hij]; rfl)
      · exact hearlier (by simpa [put, hij] using hi) (by simpa using hstart)
    | pass millis => exact hearlier hi (by simpa using hstart)
    | alter h => exact hearlier hi (by simpa using hstart)

/-- An operation was dropped at its deadline while it waited for a reply. One that has come to its
result is not dropped any more. -/
def CutShort (s : Issuer) (log : List Event) (i : Nat) (op : Operation) : Prop :=
  ∃ before late after c next, log = before ++ .expired i op late :: after ∧
    (op.task s).After (diary before i) (.call c next)

end Traffic

end SessionLedger
