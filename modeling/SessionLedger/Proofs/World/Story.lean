import SessionLedger.Proofs.Session.Outage
import SessionLedger.Proofs.World.Lone

/-! The story of a plan that runs alone: the events of its operations, one operation after another,
each with its exchanges and its end. The story is a run. An outage in it makes the operation that
meets it fail, and that operation ends: it does not halt. -/
namespace SessionLedger
open Session

/-- An operation has met an outage, or was dropped at its deadline. -/
def SuffersAt (log : List Event) (i : Nat) (op : Operation) : Prop :=
  (∃ c reply, .called i c reply ∈ log ∧ Outage op ⟨c, reply⟩) ∨ ∃ late, .expired i op late ∈ log

/-- One of the operations has met an outage, or was dropped at its deadline. -/
def Suffers (log : List Event) : Prop :=
  ∃ i op, .started i op ∈ log ∧ SuffersAt log i op

/-- The event ends an operation with a result, in time or at its deadline. -/
inductive Event.Ends (s : Issuer) (i : Nat) (op : Operation) (result : op.Result) : Event → Prop
  | returned : Ends s i op result (.returned i op result)
  | expired {limit : Nat} (h : op.deadline s = some (limit, result)) :
      Ends s i op result (.expired i op result)

theorem Event.Ends.flight? {s : Issuer} {i : Nat} {op : Operation} {result : op.Result} {e : Event}
    (h : Event.Ends s i op result e) : e.flight? = some i := by
  cases h <;> rfl

namespace World
variable {α : Type} {s : Issuer} {w w' : World} {op : Operation} {i j : Nat} {deadline : Option Nat}

/-- The instant at which an operation that starts now is dropped. -/
def dropAt (s : Issuer) (op : Operation) (w : World) : Option Nat :=
  (op.deadline s).map fun (limit, _) => w.clock + limit

/-- What happens while a plan runs alone. Its operations are numbered in their order. -/
def story (s : Issuer) : Nat → Plan α → World → List Event
  | _, .done _, _ => []
  | _, .halt, _ => []
  | i, .call op rest, w =>
    .started i op :: passage i (w.dropAt s op) (op.task s) w ++
      match run (w.dropAt s op) (op.task s) w, op.deadline s with
      | (w', .finished result), _ => .returned i op result :: story s (i + 1) (rest result) w'
      | (w', .expired), some (_, late) => .expired i op late :: story s (i + 1) (rest late) w'
      | _, _ => []

/-! ## Operations -/

/-- The result of an operation that runs alone is what its program comes to, or it is the one for
its deadline. -/
theorem perform_eq_some_iff {result : op.Result} :
    w.perform s op = (w', some result) ↔
      run (w.dropAt s op) (op.task s) w = (w', .finished result) ∨
        ∃ limit, op.deadline s = some (limit, result) ∧
          run (w.dropAt s op) (op.task s) w = (w', .expired) := by
  rw [perform, dropAt]
  cases hdeadline : op.deadline s with
  | none =>
    simp only [Option.map_none]
    rcases hrun : run none (op.task s) w with ⟨U, ending⟩
    cases ending <;> simp
  | some x =>
    obtain ⟨limit, late⟩ := x
    simp only [Option.map_some]
    rcases hrun : run (some (w.clock + limit)) (op.task s) w with ⟨U, ending⟩
    cases ending <;> simp [and_comm]

/-- Without a deadline no program is dropped. -/
theorem run_ne_expired (p : Task α) (w : World) : (run none p w).2 ≠ .expired := by
  induction p generalizing w with
  | done a => exact nofun
  | halt => exact nofun
  | call c next ih =>
    obtain ⟨w', reply, hsettle⟩ := w.exists_settle c
    rw [run_call hsettle]
    exact ih reply w'

theorem story_of_perform {result : op.Result} (rest : op.Result → Plan α)
    (h : w.perform s op = (w', some result)) :
    ∃ e, Event.Ends s i op result e ∧ story s i (.call op rest) w =
      .started i op :: passage i (w.dropAt s op) (op.task s) w ++
        e :: story s (i + 1) (rest result) w' := by
  rcases perform_eq_some_iff.mp h with hrun | ⟨limit, hdeadline, hrun⟩
  · exact ⟨_, .returned, by rw [story, hrun]⟩
  · refine ⟨_, .expired hdeadline, ?_⟩
    rw [story, hrun, hdeadline]

/-- The story of an operation that halts ends with it. -/
theorem story_of_halted {rest : op.Result → Plan α} (h : w.perform s op = (w', none)) :
    story s i (.call op rest) w = .started i op :: passage i (w.dropAt s op) (op.task s) w := by
  have hnone : ∀ U result, w.perform s op ≠ (U, some result) := by
    intro U result hsome
    rw [h] at hsome
    cases hsome
  rcases hrun : run (w.dropAt s op) (op.task s) w with ⟨U, ending⟩
  cases ending with
  | finished result => exact absurd (perform_eq_some_iff.mpr (.inl hrun)) (hnone U result)
  | halted => rw [story, hrun, List.append_nil]
  | expired =>
    cases hdeadline : op.deadline s with
    | some x => exact absurd (perform_eq_some_iff.mpr (.inr ⟨x.1, hdeadline, hrun⟩)) (hnone U x.2)
    | none =>
      have hdrop : w.dropAt s op = none := by rw [dropAt, hdeadline, Option.map_none]
      rw [hdrop] at hrun
      exact absurd (congrArg Prod.snd hrun) (run_ne_expired _ w)

/-! ## Events -/

theorem mem_passage {p : Task α} {e : Event} (h : e ∈ passage i deadline p w) :
    (∃ millis, e = .passed millis) ∨ ∃ c reply, e = .called i c reply := by
  induction p generalizing w with
  | done a => cases h
  | halt => cases h
  | call c next ih =>
    rw [passage] at h
    split at h
    next U reply hsettle =>
      rcases List.mem_cons.mp h with rfl | h
      · exact .inl ⟨_, rfl⟩
      · rcases List.mem_cons.mp h with rfl | h
        · exact .inr ⟨c, reply, rfl⟩
        · exact ih reply h
    next U hsettle => exact .inl ⟨_, List.mem_singleton.mp h⟩

/-- An operation that runs alone starts, and the events up to its end are its own exchanges. -/
theorem mem_part {p : Task α} {e : Event} (h : e ∈ .started i op :: passage i deadline p w)
    (he : e.flight? = some j) :
    j = i ∧ (e = .started i op ∨
      (∃ c reply, e = .called i c reply) ∧ e ∈ passage i deadline p w) := by
  rcases List.mem_cons.mp h with rfl | h
  · exact ⟨(Option.some.inj he).symm, .inl rfl⟩
  · rcases mem_passage h with ⟨millis, rfl⟩ | ⟨c, reply, rfl⟩
    · cases he
    · exact ⟨(Option.some.inj he).symm, .inr ⟨⟨c, reply, rfl⟩, h⟩⟩

/-- The operations of a story are numbered upwards. -/
theorem le_of_mem_story {p : Plan α} {e : Event} (h : e ∈ story s i p w)
    (he : e.flight? = some j) : i ≤ j := by
  induction p generalizing i w with
  | done a => cases h
  | halt => cases h
  | call op rest ih =>
    rcases hperform : w.perform s op with ⟨w', - | result⟩
    · rw [story_of_halted hperform] at h
      exact Nat.le_of_eq (mem_part h he).1.symm
    · obtain ⟨e', hends, hstory⟩ := story_of_perform (i := i) rest hperform
      rw [hstory] at h
      rcases List.mem_append.mp h with h | h
      · exact Nat.le_of_eq (mem_part h he).1.symm
      · rcases List.mem_cons.mp h with rfl | h
        · rw [hends.flight?] at he
          exact Nat.le_of_eq (Option.some.inj he)
        · exact Nat.le_of_succ_le (ih result h)

section
variable {rest : op.Result → Plan α} {result : op.Result} {e : Event}
variable (hperform : w.perform s op = (w', some result)) (h : e ∈ story s i (.call op rest) w)
include hperform h

/-- The events of the first operation of a story are those that have its number. -/
theorem mem_story_first (he : e.flight? = some i) :
    (e = .started i op ∨
      (∃ c reply, e = .called i c reply) ∧ e ∈ passage i (w.dropAt s op) (op.task s) w) ∨
    Event.Ends s i op result e := by
  obtain ⟨e', hends, hstory⟩ := story_of_perform (i := i) rest hperform
  rw [hstory] at h
  rcases List.mem_append.mp h with h | h
  · exact .inl (mem_part h he).2
  · rcases List.mem_cons.mp h with rfl | h
    · exact .inr hends
    · exact absurd (le_of_mem_story h he) (Nat.not_succ_le_self i)

theorem mem_story_rest (he : e.flight? = some j) (hj : j ≠ i) :
    e ∈ story s (i + 1) (rest result) w' := by
  obtain ⟨e', hends, hstory⟩ := story_of_perform (i := i) rest hperform
  rw [hstory] at h
  rcases List.mem_append.mp h with h | h
  · exact absurd (mem_part h he).1 hj
  · rcases List.mem_cons.mp h with rfl | h
    · rw [hends.flight?] at he
      exact absurd (Option.some.inj he).symm hj
    · exact h

end

/-! ## Outages -/

theorem set_of_lifetimeTooLong {c : Store.Call}
    (h : (w.answerRemote (.store c)).2 = .error .lifetimeTooLong) :
    ∃ key value lifetime, c = .set key value lifetime := by
  cases c with
  | set key value lifetime => exact ⟨key, value, lifetime, rfl⟩
  | get key =>
    simp only [answerRemote, Store.State.answer] at h
    repeat' split at h
    all_goals cases h
  | delete keys =>
    simp only [answerRemote, Store.State.answer] at h
    repeat' split at h
    all_goals cases h
  | ping =>
    simp only [answerRemote, Store.State.answer] at h
    split at h <;> cases h

/-- Only a write is refused for its lifetime. -/
theorem Answers.possible {c : Effect.Call} {reply : c.Reply} (h : w.Answers c reply w') :
    Possible ⟨c, reply⟩ := by
  rintro c' limit heq
  cases h with
  | remote remote limit =>
    cases remote with
    | users c => cases heq
    | store c =>
      obtain ⟨hcall, hreply⟩ := Sigma.mk.inj heq
      cases hcall
      exact set_of_lifetimeTooLong (Option.some.inj (eq_of_heq hreply))
  | _ => cases heq

/-- A part of an operation that comes to a good value whatever the replies comes to it in time, or
it is dropped. -/
theorem run_of_surely {p : Task α} {good : α → Prop} (h : Session.Surely good p)
    (deadline : Option Nat) (w : World) :
    (run deadline p w).2 = .expired ∨ ∃ a, (run deadline p w).2 = .finished a ∧ good a := by
  induction p generalizing w with
  | done a => exact .inr ⟨a, rfl, h⟩
  | halt => exact h.elim
  | call c next ih =>
    match hsettle : w.settle deadline c with
    | (U, some reply) =>
      obtain ⟨millis, hanswers⟩ := answers_of_settle hsettle
      rw [run_call hsettle]
      exact ih reply (h reply hanswers.possible) U
    | (U, none) => exact .inl (by rw [run, hsettle])

/-- After an outage it comes to a good value in time, or it is dropped. -/
theorem run_of_heeds {p : Task α} {good : α → Prop} (h : Session.Heeds op good p)
    {c : Effect.Call} {reply : c.Reply} (hmem : .called i c reply ∈ passage i deadline p w)
    (houtage : Outage op ⟨c, reply⟩) :
    (run deadline p w).2 = .expired ∨ ∃ a, (run deadline p w).2 = .finished a ∧ good a := by
  induction p generalizing w with
  | done a => cases hmem
  | halt => cases hmem
  | call c' next ih =>
    match hsettle : w.settle deadline c' with
    | (U, some reply') =>
      obtain ⟨millis, hanswers⟩ := answers_of_settle hsettle
      obtain ⟨hheeds, hsurely⟩ := h reply' hanswers.possible
      simp only [passage, hsettle, List.mem_cons, reduceCtorEq, false_or] at hmem
      rw [run_call hsettle]
      rcases hmem with heq | hmem
      · cases heq
        exact run_of_surely (hsurely houtage) deadline U
      · exact ih reply' hheeds hmem
    | (U, none) => exact .inl (by rw [run, hsettle])

/-- An operation that is dropped at its deadline fails, too. -/
theorem fails_of_deadline (hop : op.IsRequested) {limit : Nat} {late : op.Result}
    (h : op.deadline s = some (limit, late)) : op.Fails late := by
  cases op with
  | login | refresh | verify | logout =>
    cases h
    exact ⟨_, rfl, .late⟩
  | _ => exact hop.elim

theorem exists_deadline (s : Issuer) (hop : op.IsRequested) :
    ∃ limit late, op.deadline s = some (limit, late) := by
  cases op with
  | login | refresh | verify | logout => exact ⟨_, _, rfl⟩
  | _ => exact hop.elim

/-- An operation that has met an outage fails. -/
theorem perform_of_outage (hop : op.IsRequested) {c : Effect.Call} {reply : c.Reply}
    (hmem : .called i c reply ∈ passage i (w.dropAt s op) (op.task s) w)
    (houtage : Outage op ⟨c, reply⟩) :
    ∃ w' result, w.perform s op = (w', some result) ∧ op.Fails result := by
  obtain ⟨limit, late, hdeadline⟩ := exists_deadline s hop
  rcases hrun : run (w.dropAt s op) (op.task s) w with ⟨w', ending⟩
  rcases run_of_heeds (Operation.heeds_task s hop) hmem houtage with
    hexpired | ⟨result, hfinished, h⟩
  · rw [hrun] at hexpired
    subst hexpired
    exact ⟨w', late, perform_eq_some_iff.mpr (.inr ⟨limit, hdeadline, hrun⟩),
      fails_of_deadline hop hdeadline⟩
  · rw [hrun] at hfinished
    subst hfinished
    exact ⟨w', result, perform_eq_some_iff.mpr (.inl hrun), h⟩

/-- If there is an outage in the story of a plan, its first operation comes to an end, and it has
failed, or there is an outage in the story of the rest. -/
theorem suffers_story (hop : op.IsRequested) {rest : op.Result → Plan α}
    (h : Suffers (story s i (.call op rest) w)) :
    ∃ w' result, w.perform s op = (w', some result) ∧
      (op.Fails result ∨ Suffers (story s (i + 1) (rest result) w')) := by
  obtain ⟨j, op', hstart, hsuffers⟩ := h
  rcases hperform : w.perform s op with ⟨w', - | result⟩
  · rw [story_of_halted hperform] at hstart hsuffers
    obtain ⟨rfl, hstart | ⟨⟨c, reply, heq⟩, -⟩⟩ := mem_part hstart rfl
    · cases hstart
      rcases hsuffers with ⟨c, reply, hmem, houtage⟩ | ⟨late, hmem⟩
      · rcases (mem_part hmem rfl).2 with heq | ⟨-, hmem⟩
        · cases heq
        · obtain ⟨U, result, hresult, -⟩ := perform_of_outage hop hmem houtage
          cases hperform.symm.trans hresult
      · rcases (mem_part hmem rfl).2 with heq | ⟨⟨c, reply, heq⟩, -⟩ <;> cases heq
    · cases heq
  · refine ⟨w', result, rfl, ?_⟩
    by_cases hj : j = i
    · subst hj
      left
      rcases mem_story_first hperform hstart rfl with (heq | ⟨⟨c, reply, heq⟩, -⟩) | hends
      · cases heq
        rcases hsuffers with ⟨c, reply, hmem, houtage⟩ | ⟨late, hmem⟩
        · rcases mem_story_first hperform hmem rfl with (heq | ⟨-, hmem⟩) | hends
          · cases heq
          · obtain ⟨U, result', hresult, hfails⟩ := perform_of_outage hop hmem houtage
            cases hperform.symm.trans hresult
            exact hfails
          · cases hends
        · rcases mem_story_first hperform hmem rfl with (heq | ⟨⟨c, reply, heq⟩, -⟩) | hends
          · cases heq
          · cases heq
          · cases hends with
            | expired hdeadline => exact fails_of_deadline hop hdeadline
      · cases heq
      · cases hends
    · right
      refine ⟨j, op', mem_story_rest hperform hstart rfl hj, ?_⟩
      rcases hsuffers with ⟨c, reply, hmem, houtage⟩ | ⟨late, hmem⟩
      · exact .inl ⟨c, reply, mem_story_rest hperform hmem rfl hj, houtage⟩
      · exact .inr ⟨late, mem_story_rest hperform hmem rfl hj⟩

end World

namespace Traffic
variable {s : Issuer} {T : Traffic} {w : World} {log : List Event}

/-- An operation that runs alone makes the part of a run that its story tells. -/
theorem Steps.story_call {op : Operation} {result : op.Result} {α : Type}
    (rest : op.Result → Plan α) (hop : op.IsSession)
    (h : T.world.perform s op = (w, some result)) :
    ∃ part, Steps s T part { T.put T.count none with world := w, count := T.count + 1 } ∧
      Ended part op result ∧ World.story s T.count (.call op rest) T.world =
        part ++ World.story s (T.count + 1) (rest result) w := by
  rcases World.perform_eq_some_iff.mp h with hrun | ⟨limit, hdeadline, hrun⟩
  · refine ⟨_, .finishes hop hrun, ⟨T.count, .inl (by simp)⟩, ?_⟩
    simp only [World.story, hrun, List.append_assoc, List.singleton_append]
  · refine ⟨_, (Steps.lapses hop hdeadline hrun).1, ⟨T.count, .inr (by simp)⟩, ?_⟩
    simp only [World.story, hrun, hdeadline, List.append_assoc, List.singleton_append]

/-- The story of a plan that runs alone is a part of a run, and the plan comes to its value by what
its operations end with in it. -/
theorem Steps.story {α : Type} {p rest : Plan α} {before : Operation.interface.Diary} {a : α}
    (hp : Plan.IsSession p) (hrest : Program.After p before rest) (hended : AllEnded log before)
    (h : World.follow s rest T.world = (w, some a)) :
    ∃ U d, Steps s T (World.story s T.count rest T.world) U ∧ U.world = w ∧
      Program.After p d (.done a) ∧ AllEnded (log ++ World.story s T.count rest T.world) d := by
  induction rest generalizing T before log with
  | done b =>
    cases h
    exact ⟨T, before, .refl, rfl, hrest, hended.mono (List.subset_append_left _ _)⟩
  | halt => cases h
  | call op rest ih =>
    have hop : op.IsSession := (hp.after hrest).1
    rw [World.follow] at h
    split at h
    next V result hperform =>
      obtain ⟨part, hpart, hend, hstory⟩ := Steps.story_call rest hop hperform
      obtain ⟨U, d, hsteps, hworld, hd, hended⟩ := ih result
        (T := { T.put T.count none with world := V, count := T.count + 1 }) (hrest.reply result)
        (hended.snoc hend) h
      rw [List.append_assoc] at hended
      rw [hstory]
      exact ⟨U, d, hpart.trans hsteps, hworld, hd, hended⟩
    next => cases h

end Traffic

end SessionLedger
