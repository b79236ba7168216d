import SessionLedger.Proofs.Traffic.Diary
import SessionLedger.World.Plan

/-! A plan whose operations run one after another, each alone and with its latencies, limits and
deadline, makes a run: what the timed execution does with an operation are steps that the run may
take. -/
namespace SessionLedger
open Session

namespace World
variable {w w' : World} {c : Remote.Call} {limit deadline : Option Nat} {how : Arrival}

theorem advanceTo_eq (w : World) (instant : Nat) :
    w.advanceTo instant = w.advance (instant - w.clock) := by
  have hmax : max w.clock instant = w.clock + (instant - w.clock) := by omega
  simp only [advanceTo, advance, hmax]

/-- A call is given up only at its limit, and its program is dropped only at a deadline. -/
theorem arrival_some {wake : Nat} {stop deadline : Option Nat} :
    ((arrival wake stop deadline).2 = .missed → stop ≠ none) ∧
      ((arrival wake stop deadline).2 = .expired → deadline ≠ none) := by
  unfold arrival
  split
  · exact ⟨nofun, nofun⟩
  · cases stop <;> cases deadline <;> grind

/-- While a lone call is waited for only time passes. -/
theorem await_cases (h : w.await c limit deadline = (w', how)) :
    (∃ millis, w' = w.advance millis) ∧ (how = .missed → limit ≠ none) ∧
      (how = .expired → deadline ≠ none) := by
  unfold await at h
  split at h
  · cases h
    exact ⟨⟨0, rfl⟩, nofun, nofun⟩
  · cases h
    refine ⟨⟨_, w.advanceTo_eq _⟩, fun hmissed hnone => ?_, arrival_some.2⟩
    exact arrival_some.1 hmissed (by rw [hnone]; rfl)

/-- The time that has passed since an earlier instant. -/
theorem advance_clock_sub (w : World) (millis : Nat) :
    (w.advance millis).clock - w.clock = millis :=
  Nat.add_sub_cancel_left ..

/-- The reply to a lone call is one that the surroundings may give some time later. -/
theorem answers_of_settle {c : Effect.Call} {reply : c.Reply}
    (h : w.settle deadline c = (w', some reply)) :
    ∃ millis, (w.advance millis).Answers c reply w' := by
  cases c with
  | remote c limit =>
    simp only [settle] at h
    split at h
    next U hawait =>
      obtain ⟨⟨millis, rfl⟩, -⟩ := await_cases hawait
      cases h
      exact ⟨millis, .remote c limit⟩
    next U hawait =>
      obtain ⟨⟨millis, rfl⟩, hlimit, -⟩ := await_cases hawait
      cases h
      obtain ⟨limit, rfl⟩ := Option.ne_none_iff_exists'.mp (hlimit rfl)
      exact ⟨millis, .missed c limit⟩
    next => cases h
  | clock =>
    cases h
    exact ⟨0, .clock⟩
  | uuid =>
    cases h
    exact ⟨0, .uuid⟩
  | compare c =>
    simp only [settle] at h
    split at h
    · cases h
    · cases h
      exact ⟨0, .compare c⟩

/-- Without a reply to a lone call its program is dropped at the deadline. -/
theorem deadline_of_settle {c : Effect.Call} (h : w.settle deadline c = (w', none)) :
    deadline ≠ none ∧ ∃ millis, w' = w.advance millis := by
  cases c with
  | remote c limit =>
    simp only [settle] at h
    split at h
    next => cases h
    next => cases h
    next U hawait =>
      obtain ⟨hlater, -, hdeadline⟩ := await_cases hawait
      cases h
      exact ⟨hdeadline rfl, hlater⟩
  | clock => cases h
  | uuid => cases h
  | compare c =>
    simp only [settle] at h
    split at h
    next hdue =>
      cases h
      refine ⟨fun hnone => ?_, 0, rfl⟩
      rw [hnone] at hdue
      cases hdue
    next => cases h

/-- The caller of an operation that is dropped at its deadline is told so. -/
theorem perform_of_expired {s : Issuer} {op : Operation} {limit : Nat} {late : op.Result}
    (hd : op.deadline s = some (limit, late))
    (h : run (some (w.clock + limit)) (op.task s) w = (w', .expired)) :
    w.perform s op = (w', some late) := by
  simp only [perform, hd, h]

/-- What happens while a program runs alone, up to an instant at which it is dropped. -/
def passage {α : Type} (i : Nat) (deadline : Option Nat) : Task α → World → List Event
  | .done _, _ => []
  | .halt, _ => []
  | .call c next, w => match w.settle deadline c with
    | (w', some reply) =>
      .passed (w'.clock - w.clock) :: .called i c reply :: passage i deadline (next reply) w'
    | (w', none) => [.passed (w'.clock - w.clock)]

end World

/-- What a program that has ended so has left. At the deadline it was waiting for a reply. -/
inductive Ending.Leaves {α : Type} (deadline : Option Nat) : Ending α → Task α → Prop
  | finished (a : α) : Leaves deadline (.finished a) (.done a)
  | expired (h : deadline ≠ none) (c : Effect.Call) (next : c.Reply → Task α) :
      Leaves deadline .expired (.call c next)
  | halted : Leaves deadline .halted .halt

/-- An operation has returned a result, or its caller was told it at the deadline. -/
def Ended (log : List Event) (op : Operation) (result : op.Result) : Prop :=
  ∃ i, .returned i op result ∈ log ∨ .expired i op result ∈ log

theorem Ended.mono {log log' : List Event} {op : Operation} {result : op.Result}
    (h : Ended log op result) (hsub : log ⊆ log') : Ended log' op result := by
  obtain ⟨i, hmem | hmem⟩ := h
  · exact ⟨i, .inl (hsub hmem)⟩
  · exact ⟨i, .inr (hsub hmem)⟩

/-- The operations of a plan have ended with the results that it has been told. -/
def AllEnded (log : List Event) (d : Operation.interface.Diary) : Prop :=
  ∀ x ∈ d, Ended log x.1 x.2

theorem AllEnded.nil {log : List Event} : AllEnded log [] :=
  List.forall_mem_nil _

theorem AllEnded.mono {log log' : List Event} {d : Operation.interface.Diary} (h : AllEnded log d)
    (hsub : log ⊆ log') : AllEnded log' d :=
  fun x hx => (h x hx).mono hsub

theorem AllEnded.snoc {log log' : List Event} {d : Operation.interface.Diary} {op : Operation}
    {result : op.Result} (h : AllEnded log d) (h' : Ended log' op result) :
    AllEnded (log ++ log') (d ++ [⟨op, result⟩]) := by
  intro x hx
  rcases List.mem_append.mp hx with hx | hx
  · exact (h x hx).mono (List.subset_append_left _ _)
  · obtain rfl := List.mem_singleton.mp hx
    exact h'.mono (List.subset_append_right _ _)

/-- All operations of a plan are those that a service offers. -/
abbrev Session.Plan.IsSession {α : Type} (p : Plan α) : Prop :=
  Program.Keeps (fun _ op => Operation.IsSession op) (fun _ _ => True) p []

namespace Traffic
variable {s : Issuer} {T : Traffic} {w : World} {i : Nat} {op : Operation} {result : op.Result}
variable {deadline : Option Nat} {log : List Event}

/-- An answer some time later. -/
theorem Steps.answer_later {c : Effect.Call} {next : c.Reply → Task op.Result} {reply : c.Reply}
    {millis : Nat} (hi : T.flight? i = some ⟨op, .call c next⟩)
    (h : (T.world.advance millis).Answers c reply w) :
    Steps s T [.passed millis, .called i c reply]
      { T.put i (some ⟨op, next reply⟩) with world := w } :=
  .cons (.pass millis) (.cons (.answer hi h) .refl)

/-- A flight that goes on as it is makes an empty run. -/
theorem Steps.stays {f : Option Flight} (hi : T.flight? i = f) :
    Steps s T [] { T.put i f with world := T.world } := by
  rw [put_self hi]
  exact .refl

theorem Steps.returns {T₁ : Traffic} {n : Nat}
    (h : Steps s T log { T₁.put i (some ⟨op, .done result⟩) with world := w, count := n }) :
    Steps s T (log ++ [.returned i op result]) { T₁.put i none with world := w, count := n } := by
  have hreturn := h.snoc (.finish (if_pos rfl))
  rwa [put_put] at hreturn

theorem Steps.expires {T₁ : Traffic} {n limit : Nat} {rest : Task op.Result} {late : op.Result}
    (h : Steps s T log { T₁.put i (some ⟨op, rest⟩) with world := w, count := n })
    (hd : op.deadline s = some (limit, late)) :
    Steps s T (log ++ [.expired i op late]) { T₁.put i none with world := w, count := n } := by
  have hexpire := h.snoc (.expire (if_pos rfl) hd)
  rwa [put_put] at hexpire

/-- A program that runs alone makes a part of a run, and leaves what its ending says. -/
theorem Steps.run {p : Task op.Result} {ending : Ending op.Result}
    (hi : T.flight? i = some ⟨op, p⟩) (h : World.run deadline p T.world = (w, ending)) :
    ∃ rest, Steps s T (World.passage i deadline p T.world)
        { T.put i (some ⟨op, rest⟩) with world := w } ∧
      ending.Leaves deadline rest := by
  induction p generalizing T with
  | done a =>
    cases h
    exact ⟨_, .stays hi, .finished a⟩
  | halt =>
    cases h
    exact ⟨_, .stays hi, .halted⟩
  | call c next ih =>
    match hsettle : T.world.settle deadline c with
    | (U, some reply) =>
      simp only [World.run, hsettle] at h
      obtain ⟨rest, hsteps, hleaves⟩ := ih reply
        (T := { T.put i (some ⟨op, next reply⟩) with world := U }) (by simp [put]) h
      rw [put_put] at hsteps
      obtain ⟨millis, hanswers⟩ := World.answers_of_settle hsettle
      have hmillis : U.clock - T.world.clock = millis := by
        rw [hanswers.clock_eq, World.advance_clock_sub]
      simp only [World.passage, hsettle, hmillis]
      exact ⟨rest, (Steps.answer_later hi hanswers).trans hsteps, hleaves⟩
    | (U, none) =>
      simp only [World.run, hsettle] at h
      cases h
      obtain ⟨hdeadline, millis, rfl⟩ := World.deadline_of_settle hsettle
      simp only [World.passage, hsettle, World.advance_clock_sub]
      exact ⟨_, (Steps.stays hi).snoc (.pass millis), .expired hdeadline c next⟩

/-- The start of an operation that runs alone, up to where its run ends. -/
theorem Steps.run_task {ending : Ending op.Result} (hop : op.IsSession)
    (h : World.run deadline (op.task s) T.world = (w, ending)) :
    ∃ rest, Steps s T (.started T.count op :: World.passage T.count deadline (op.task s) T.world)
        { T.put T.count (some ⟨op, rest⟩) with world := w, count := T.count + 1 } ∧
      ending.Leaves deadline rest := by
  have hi : ({ T.put T.count (some ⟨op, op.task s⟩) with count := T.count + 1 } : Traffic).flight?
      T.count = some ⟨op, op.task s⟩ := if_pos rfl
  obtain ⟨rest, hsteps, hleaves⟩ := Steps.run (s := s) hi h
  rw [put_put] at hsteps
  exact ⟨rest, .cons (.start hop) hsteps, hleaves⟩

/-- An operation that comes to its result alone makes a part of a run. -/
theorem Steps.finishes (hop : op.IsSession)
    (h : World.run deadline (op.task s) T.world = (w, .finished result)) :
    Steps s T (.started T.count op :: World.passage T.count deadline (op.task s) T.world ++
        [.returned T.count op result])
      { T.put T.count none with world := w, count := T.count + 1 } := by
  obtain ⟨rest, hsteps, ⟨⟩⟩ := Steps.run_task (s := s) hop h
  exact hsteps.returns

/-- So does one that is dropped at its deadline. It was waiting for a reply. -/
theorem Steps.lapses {limit : Nat} {late : op.Result} (hop : op.IsSession)
    (hd : op.deadline s = some (limit, late))
    (h : World.run deadline (op.task s) T.world = (w, .expired)) :
    Steps s T (.started T.count op :: World.passage T.count deadline (op.task s) T.world ++
        [.expired T.count op late])
        { T.put T.count none with world := w, count := T.count + 1 } ∧
      ∃ c next U, Steps s T
          (.started T.count op :: World.passage T.count deadline (op.task s) T.world) U ∧
        U.flight? T.count = some ⟨op, .call c next⟩ := by
  obtain ⟨rest, hsteps, hleaves⟩ := Steps.run_task (s := s) hop h
  cases hleaves with
  | expired _ c next => exact ⟨hsteps.expires hd, c, next, _, hsteps, if_pos rfl⟩

/-- An operation that runs alone makes a part of a run, in which it returns its result, or its
caller is told it at the deadline while the operation waits for a reply. -/
theorem Steps.perform_cases (hop : op.IsSession) (h : T.world.perform s op = (w, some result)) :
    ∃ log, Steps s T log { T.put T.count none with world := w, count := T.count + 1 } ∧
      (.returned T.count op result ∈ log ∨
        ∃ before c next U, log = before ++ [.expired T.count op result] ∧ Steps s T before U ∧
          U.flight? T.count = some ⟨op, .call c next⟩) := by
  rw [World.perform] at h
  split at h
  next limit late hdeadline =>
    split at h
    next U a hrun =>
      cases h
      exact ⟨_, .finishes hop hrun, .inl (by simp)⟩
    next U hrun =>
      cases h
      obtain ⟨hsteps, c, next, U, hU, hflight⟩ := Steps.lapses hop hdeadline hrun
      exact ⟨_, hsteps, .inr ⟨_, c, next, U, rfl, hU, hflight⟩⟩
    next => cases h
  next =>
    split at h
    next U a hrun =>
      cases h
      exact ⟨_, .finishes hop hrun, .inl (by simp)⟩
    next => cases h

theorem Steps.perform (hop : op.IsSession) (h : T.world.perform s op = (w, some result)) :
    ∃ log, Steps s T log { T.put T.count none with world := w, count := T.count + 1 } ∧
      Ended log op result := by
  obtain ⟨log, hsteps, hreturned | ⟨before, c, next, U, rfl, -⟩⟩ := Steps.perform_cases hop h
  · exact ⟨log, hsteps, T.count, .inl hreturned⟩
  · exact ⟨_, hsteps, T.count, .inr (by simp)⟩

/-- The rest of a plan that runs alone makes a part of a run. The plan comes to its value by what
its operations end with. -/
theorem Steps.follow {α : Type} {p rest : Plan α} {before : Operation.interface.Diary} {a : α}
    (hp : Plan.IsSession p) (hrest : Program.After p before rest) (hended : AllEnded log before)
    (h : World.follow s rest T.world = (w, some a)) :
    ∃ log' U d, Steps s T log' U ∧ U.world = w ∧ Program.After p d (.done a) ∧
      AllEnded (log ++ log') d := by
  induction rest generalizing T before log with
  | done b =>
    cases h
    exact ⟨[], T, before, .refl, rfl, hrest, hended.mono (List.subset_append_left _ _)⟩
  | halt => cases h
  | call op rest ih =>
    have hop : op.IsSession := (hp.after hrest).1
    rw [World.follow] at h
    split at h
    next V result hperform =>
      obtain ⟨log₁, h₁, hended₁⟩ := Steps.perform (s := s) hop hperform
      obtain ⟨log₂, U, d, h₂, hworld, hd, hended₂⟩ := ih result
        (T := { T.put T.count none with world := V, count := T.count + 1 }) (hrest.reply result)
        (hended.snoc hended₁) h
      rw [List.append_assoc] at hended₂
      exact ⟨log₁ ++ log₂, U, d, h₁.trans h₂, hworld, hd, hended₂⟩
    next => cases h

end Traffic

end SessionLedger
