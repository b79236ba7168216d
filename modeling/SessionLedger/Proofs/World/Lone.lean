import SessionLedger.Proofs.Traffic.Performed

/-! A program that runs alone, part by part. A deadline only cuts it short: what a program comes to
in time it comes to without a deadline, too. -/
namespace SessionLedger.World
open Session

variable {α β : Type} {w w' : World} {deadline : Option Nat}

/-! ## Without a deadline -/

/-- If a program that runs alone and without a deadline comes to a value, something holds of the
surroundings and the value then. -/
def Ends (p : Task α) (w : World) (Q : World → α → Prop) : Prop :=
  ∀ w' a, run none p w = (w', .finished a) → Q w' a

@[simp] theorem ends_done {a : α} {Q : World → α → Prop} : Ends (.done a) w Q ↔ Q w a := by
  simp [Ends, run]

@[simp] theorem ends_halt {Q : World → α → Prop} : Ends (.halt : Task α) w Q ↔ True := by
  simp [Ends, run]

@[simp] theorem ends_orHalt {o : Option α} {Q : World → α → Prop} :
    Ends (Program.orHalt o : Task α) w Q ↔ ∀ a, o = some a → Q w a := by
  cases o <;> simp [Program.orHalt]

/-- Without a deadline every call gets its reply. -/
theorem exists_settle (w : World) (c : Effect.Call) :
    ∃ w' reply, w.settle none c = (w', some reply) := by
  match hsettle : w.settle none c with
  | (w', some reply) => exact ⟨w', reply, rfl⟩
  | (w', none) => exact absurd rfl (deadline_of_settle hsettle).1

theorem run_call {c : Effect.Call} {next : c.Reply → Task α} {reply : c.Reply}
    (h : w.settle deadline c = (w', some reply)) :
    run deadline (.call c next) w = run deadline (next reply) w' := by
  rw [run, h]

/-- A program in two parts goes on with the second where the first has come to a value. -/
theorem run_bind {p : Task α} {f : α → Task β} {a : α}
    (h : run deadline p w = (w', .finished a)) :
    run deadline (p.bind f) w = run deadline (f a) w' := by
  induction p generalizing w with
  | done b =>
    cases h
    rfl
  | halt => cases h
  | call c next ih =>
    rw [run] at h
    split at h
    next U reply hsettle => exact (run_call hsettle).trans (ih reply h)
    next => cases h

theorem ends_call {c : Effect.Call} {next : c.Reply → Task α} {Q : World → α → Prop} :
    Ends (.call c next) w Q ↔
      ∀ w' reply, w.settle none c = (w', some reply) → Ends (next reply) w' Q := by
  obtain ⟨U, r, hU⟩ := w.exists_settle c
  have hrun : run none (.call c next) w = run none (next r) U := run_call hU
  constructor
  · intro h w' reply hreply
    rw [hU] at hreply
    cases hreply
    simpa only [Ends, hrun] using h
  · intro h
    simpa only [Ends, hrun] using h U r hU

/-- A program in two parts ends as its second part does. -/
theorem ends_bind (p : Task α) (f : α → Task β) {Q : World → β → Prop} :
    Ends (p.bind f) w Q ↔ Ends p w fun w' a => Ends (f a) w' Q := by
  induction p generalizing w with
  | done a => simp
  | halt => simp
  | call c next ih => simp only [Program.call_bind, ends_call, ih]

theorem Ends.imp {p : Task α} {Q R : World → α → Prop} (h : Ends p w Q)
    (hR : ∀ w' a, Q w' a → R w' a) : Ends p w R :=
  fun w' a hrun => hR w' a (h w' a hrun)

theorem ends_clock {f : Nat → Task α} {Q : World → α → Prop} :
    Ends (Task.clock.bind f) w Q ↔ Ends (f w.clock) w Q := Iff.rfl

theorem ends_uuid {f : String → Task α} {Q : World → α → Prop} :
    Ends (Task.uuid.bind f) w Q ↔
      Ends (f (w.supply w.drawn)) { w with drawn := w.drawn + 1 } Q := Iff.rfl

/-! ## Deadlines -/

/-- An answer that takes no longer than its limit and the deadline allow is waited for. -/
theorem await_of_le {c : Remote.Call} {limit span : Nat} (hlimit : w.latency c ≤ limit)
    (hspan : w.latency c ≤ span) :
    w.await c (some limit) (some (w.clock + span)) =
      (w.advanceTo (w.clock + w.latency c), .answered) := by
  by_cases hzero : w.latency c = 0
  · simp [await, hzero, advanceTo]
  · simp [await, hzero, arrival, notAfter, hlimit, hspan]

theorem arrival_of_deadline {wake : Nat} {stop : Option Nat}
    (h : (arrival wake stop deadline).2 ≠ .expired) :
    arrival wake stop none = arrival wake stop deadline := by
  unfold arrival at h ⊢
  cases stop <;> cases deadline <;> simp only [notAfter, Option.all_none, Option.all_some] at * <;>
    grind

/-- A wait that does not end at the deadline ends as it would without one. -/
theorem await_of_deadline {c : Remote.Call} {limit : Option Nat} {how : Arrival}
    (h : w.await c limit deadline = (w', how)) (hhow : how ≠ .expired) :
    w.await c limit none = (w', how) := by
  by_cases hzero : w.latency c = 0
  · simpa only [await, if_pos hzero] using h
  · simp only [await, if_neg hzero, Prod.mk.injEq] at h ⊢
    obtain ⟨hclock, rfl⟩ := h
    rw [arrival_of_deadline hhow]
    exact ⟨hclock, rfl⟩

theorem settle_of_deadline {c : Effect.Call} {reply : c.Reply}
    (h : w.settle deadline c = (w', some reply)) : w.settle none c = (w', some reply) := by
  cases c with
  | clock => exact h
  | uuid => exact h
  | compare c =>
    simp only [settle] at h ⊢
    split at h
    · cases h
    · simpa [isDue] using h
  | remote c limit =>
    simp only [settle] at h ⊢
    split at h
    next U hawait =>
      rw [await_of_deadline hawait (by decide)]
      exact h
    next U hawait =>
      rw [await_of_deadline hawait (by decide)]
      exact h
    next => cases h

/-- A deadline drops a program or makes no difference to it. -/
theorem run_deadline_cases (deadline : Option Nat) (p : Task α) (w : World) :
    (run deadline p w).2 = .expired ∨ run deadline p w = run none p w := by
  induction p generalizing w with
  | done a => exact .inr rfl
  | halt => exact .inr rfl
  | call c next ih =>
    match hsettle : w.settle deadline c with
    | (U, some reply) =>
      rw [run_call hsettle, run_call (settle_of_deadline hsettle)]
      exact ih reply U
    | (U, none) =>
      left
      simp only [run, hsettle]

/-- What a program comes to before a deadline it comes to without it. -/
theorem run_of_deadline {p : Task α} {a : α} (h : run deadline p w = (w', .finished a)) :
    run none p w = (w', .finished a) := by
  rcases run_deadline_cases deadline p w with hexpired | heq
  · rw [h] at hexpired
    cases hexpired
  · rw [← heq, h]

variable {s : Issuer} {op : Operation} {result : op.Result}

/-- The result of an operation that runs alone is the one for its deadline, or it is what its
program comes to. -/
theorem perform_cases (h : w.perform s op = (w', some result)) :
    (∃ limit, op.deadline s = some (limit, result)) ∨
      run none (op.task s) w = (w', .finished result) := by
  rw [perform] at h
  split at h
  next limit late hdeadline =>
    split at h
    next U a hrun =>
      cases h
      exact .inr (run_of_deadline hrun)
    next =>
      cases h
      exact .inl ⟨limit, hdeadline⟩
    next => cases h
  next =>
    split at h
    next U a hrun =>
      cases h
      exact .inr hrun
    next => cases h

theorem run_of_perform (hdeadline : op.deadline s = none)
    (h : w.perform s op = (w', some result)) :
    run none (op.task s) w = (w', .finished result) := by
  rcases perform_cases h with ⟨limit, hsome⟩ | hrun
  · rw [hdeadline] at hsome
    cases hsome
  · exact hrun

theorem perform_of_finished {limit : Nat} {late : op.Result}
    (hdeadline : op.deadline s = some (limit, late))
    (h : run (some (w.clock + limit)) (op.task s) w = (w', .finished result)) :
    w.perform s op = (w', some result) := by
  simp only [perform, hdeadline, h]

/-- An operation whose program comes to a result results in it, unless its deadline passes first. -/
theorem perform_of_run (op : Operation) {result : op.Result}
    (h : run none (op.task s) w = (w', .finished result)) :
    w.perform s op = (w', some result) ∨
      ∃ limit late, op.deadline s = some (limit, late) ∧ (w.perform s op).2 = some late := by
  cases hdeadline : op.deadline s with
  | none =>
    left
    simp only [perform, hdeadline, h]
  | some x =>
    obtain ⟨limit, late⟩ := x
    rcases hrun : run (some (w.clock + limit)) (op.task s) w with ⟨U, ending⟩
    cases ending with
    | expired => exact .inr ⟨limit, late, rfl, by simp only [perform, hdeadline, hrun]⟩
    | finished a =>
      cases h.symm.trans (run_of_deadline hrun)
      left
      simp only [perform, hdeadline, hrun]
    | halted =>
      rcases run_deadline_cases (some (w.clock + limit)) (op.task s) w with hexpired | heq
      · rw [hrun] at hexpired
        cases hexpired
      · rw [hrun, h] at heq
        cases heq

/-- Minting draws two identifiers and does nothing else; it results in the pair for them, if there
is one. -/
theorem perform_mint (s : Issuer) (w : World) (user : Int64) :
    w.perform s (.mint user) = ({ w with drawn := w.drawn + 2 },
      s.pairAt? w.clock ⟨user, w.supply w.drawn, w.supply (w.drawn + 1)⟩) := by
  have hrun : run none (s.mint user) w = run none (Program.orHalt
      (s.pairAt? w.clock ⟨user, w.supply w.drawn, w.supply (w.drawn + 1)⟩))
      { w with drawn := w.drawn + 2 } := rfl
  have hdeadline : (Operation.mint user).deadline s = none := rfl
  simp only [perform, hdeadline, Operation.task, hrun]
  cases s.pairAt? w.clock ⟨user, w.supply w.drawn, w.supply (w.drawn + 1)⟩ <;> rfl

end SessionLedger.World
