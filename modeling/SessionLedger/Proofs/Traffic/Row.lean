import SessionLedger.Proofs.Traffic.Run
import SessionLedger.Proofs.User.Directory

/-! The row of one user in a run: which events change it, and what is read of it. -/
namespace SessionLedger
open Session User

namespace Event

/-- The store of users has kept the instant of a login of a user. -/
def Notes (user : Int64) (e : Event) : Prop :=
  ∃ i instant limit,
    e = .called i (.remote (.users (.recordLogin user instant)) limit) (some (.ok ()))

/-- The store of users has answered with the projection of a user. -/
def Projects (user : Int64) (p : Projection) (e : Event) : Prop :=
  ∃ i limit, e = .called i (.remote (.users (.project user)) limit) (some (.ok p))

theorem Projects.not_notes {user user' : Int64} {p : Projection} {e : Event}
    (h : e.Projects user p) : ¬ e.Notes user' := by
  rintro ⟨j, instant, limit', heq⟩
  obtain ⟨i, limit, rfl⟩ := h
  cases heq

end Event

namespace Traffic
variable {s : Issuer} {T T₁ : Traffic} {log : List Event} {e : Event} {i : Nat} {user : Int64}

/-- The row of a user. -/
def row? (T : Traffic) (user : Int64) : Option Account :=
  T.world.users.find? user

/-- A call that the store of users has carried out was answered by the rows of that moment. -/
theorem Step.asked {c : Directory.Call} {limit : Option Nat}
    {reply : Except DirectoryError c.Answer}
    (h : Step s T (.called i (.remote (.users c) limit) (some reply)) T₁) :
    reply = (T.world.users.answer c).2 ∧ T₁.world.users = (T.world.users.answer c).1 := by
  cases h with
  | answer hi hr =>
    cases hr with
    | remote => exact ⟨rfl, rfl⟩

theorem Step.row?_of_projects {p : Projection} (h : Step s T e T₁) (he : e.Projects user p) :
    ∃ a, T.row? user = some a ∧ p = a.projection := by
  obtain ⟨i, limit, rfl⟩ := he
  exact Directory.answer_project h.asked.1.symm

/-- A step changes the row of a user by keeping a login of theirs, or from outside. -/
theorem Step.row?_of_quiet (h : Step s T e T₁) (he : e ≠ .altered) (hn : ¬ e.Notes user) :
    T₁.row? user = T.row? user := by
  cases h with
  | @answer i op c next reply w hi ha =>
    cases ha with
    | remote c limit =>
      cases c with
      | store c => rfl
      | users c =>
        refine Directory.find?_answer fun instant hc => ?_
        subst hc
        -- The reply is no error only if the login has been kept.
        cases hr : (T.world.users.answer (.recordLogin user instant)).2 with
        | error e => exact ⟨e, rfl⟩
        | ok a =>
          refine absurd ⟨i, instant, limit, ?_⟩ hn
          exact congrArg (fun r => Event.called i
            (.remote (.users (.recordLogin user instant)) limit) (some r)) hr
    | _ => rfl
  | alter => exact absurd rfl he
  | _ => rfl

theorem Steps.row?_of_quiet (h : Steps s T log T₁) (hlog : .altered ∉ log)
    (hn : ∀ e ∈ log, ¬ e.Notes user) : T₁.row? user = T.row? user := by
  induction h with
  | refl => rfl
  | @snoc log U e V h he ih =>
    have hU := ih (fun hmem => hlog (by simp [hmem])) fun e' he' => hn e' (by simp [he'])
    have he' : e ≠ .altered := fun heq => hlog (by simp [heq])
    exact (he.row?_of_quiet he' (hn e (by simp))).trans hU

end Traffic

/-! ## Users without a row -/

/-- No reply makes a row. -/
theorem World.Answers.find?_users_eq_none {w w' : World} {c : Effect.Call} {reply : c.Reply}
    {user : Int64} (h : w.Answers c reply w') (hnone : w.users.find? user = none) :
    w'.users.find? user = none := by
  cases h with
  | remote c limit =>
    cases c with
    | store c => exact hnone
    | users c => exact Directory.find?_answer_eq_none hnone c
  | _ => exact hnone

namespace Traffic
/-- Steps that do not make a row of a user from outside. -/
inductive StepsWithout (s : Issuer) (user : Int64) (T : Traffic) : List Event → Traffic → Prop where
  | refl : StepsWithout s user T [] T
  | snoc {log T₁ e T₂} (h : StepsWithout s user T log T₁) (he : Step s T₁ e T₂)
      (hrow : e = .altered → T₂.row? user = none) : StepsWithout s user T (log ++ [e]) T₂

/-- A run in which no row of a user is made. -/
abbrev RunWithout (s : Issuer) (user : Int64) (w : World) (log : List Event) (T : Traffic) : Prop :=
  StepsWithout s user (idle w) log T

variable {s : Issuer} {T T₁ T₂ : Traffic} {log log₁ log₂ : List Event} {e : Event} {user : Int64}

theorem StepsWithout.steps (h : StepsWithout s user T log T₁) : Steps s T log T₁ := by
  induction h with
  | refl => exact .refl
  | snoc _ he _ ih => exact .snoc ih he

/-- Whatever goes on without a change from outside makes no row. -/
theorem StepsWithout.append (h : StepsWithout s user T log₁ T₁) (h' : Steps s T₁ log₂ T₂)
    (hlog : .altered ∉ log₂) : StepsWithout s user T (log₁ ++ log₂) T₂ := by
  induction h' with
  | refl => simpa using h
  | @snoc log₂ U e V _ he ih =>
    rw [← List.append_assoc]
    refine (ih fun hmem => hlog (List.mem_append_left _ hmem)).snoc he fun heq => ?_
    exact absurd (List.mem_append_right log₂ (List.mem_singleton.mpr heq.symm)) hlog

theorem Step.row?_eq_none (h : Step s T e T₁) (hT : T.row? user = none)
    (hrow : e = .altered → T₁.row? user = none) : T₁.row? user = none := by
  cases h with
  | answer hi hr => exact hr.find?_users_eq_none hT
  | alter => exact hrow rfl
  | _ => exact hT

/-- A row that is gone stays so, and nothing is read from it. -/
theorem StepsWithout.row?_eq_none (h : StepsWithout s user T log T₁) (hT : T.row? user = none) :
    T₁.row? user = none ∧ ∀ e ∈ log, ∀ p, ¬ e.Projects user p := by
  induction h with
  | refl => exact ⟨hT, by simp⟩
  | @snoc log U e V h he hrow ih =>
    obtain ⟨hU, hlog⟩ := ih
    refine ⟨he.row?_eq_none hU hrow, fun e' he' p hprojects => ?_⟩
    rcases List.mem_append.mp he' with he' | he'
    · exact hlog e' he' p hprojects
    · obtain rfl := List.mem_singleton.mp he'
      obtain ⟨a, ha, -⟩ := he.row?_of_projects hprojects
      cases hU.symm.trans ha

end Traffic

end SessionLedger
