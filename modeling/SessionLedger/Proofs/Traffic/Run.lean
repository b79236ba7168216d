import SessionLedger.Proofs.Program.Keeps
import SessionLedger.Session.Operation
import SessionLedger.World

/-! Session operations in flight on one world. Each call of each operation is a step of its own: a
store carries a call out at once, at any time after it was made, or the call is given up, or its
operation is dropped at the deadline. Between any two steps other operations may start, go on and
end, the clock may move on, and faults, latencies and the rows of users may change. How long
anything takes is left open, so every timed schedule is among the runs. -/
namespace SessionLedger

/-- The operations that a service offers to its callers. -/
def Session.Operation.IsSession : Session.Operation → Prop
  | .login .. | .refresh _ | .verify _ | .logout _ | .profile _ | .dropProfile _ => True
  | _ => False

namespace World

/-- How the surroundings may answer a call, and what becomes of them. A call that may be given up
may be given up at any time. -/
inductive Answers (w : World) : (c : Effect.Call) → c.Reply → World → Prop where
  | clock : Answers w .clock w.clock w
  | uuid : Answers w .uuid (w.supply w.drawn) { w with drawn := w.drawn + 1 }
  | compare (c : Comparison) : Answers w (.compare c) (w.outcome c) w
  | remote (c : Remote.Call) (limit : Option Nat) :
      Answers w (.remote c limit) (some (w.answerRemote c).2) (w.answerRemote c).1
  | missed (c : Remote.Call) (limit : Nat) : Answers w (.remote c (some limit)) none w

/-- To answer takes no time. -/
theorem Answers.clock_eq {w w' : World} {c : Effect.Call} {reply : c.Reply}
    (h : w.Answers c reply w') : w'.clock = w.clock := by
  cases h with
  | remote c limit => cases c <;> rfl
  | _ => rfl

/-- Nothing has changed but the faults and latencies of the stores and the rows of users. -/
structure Alters (w w' : World) : Prop where
  clock : w'.clock = w.clock
  supply : w'.supply = w.supply
  drawn : w'.drawn = w.drawn
  accepts : w'.accepts = w.accepts
  entries : w'.store.entries = w.store.entries

end World

/-- What happens in a run. Operations are told apart by the order of their starts. -/
inductive Event where
  | started (i : Nat) (op : Session.Operation)
  | called (i : Nat) (c : Effect.Call) (reply : c.Reply)
  | returned (i : Nat) (op : Session.Operation) (result : op.Result)
  /-- An operation was dropped at its deadline, and its caller told so. -/
  | expired (i : Nat) (op : Session.Operation) (late : op.Result)
  | passed (millis : Nat)
  | altered

/-- An operation and what is left of its program. -/
structure Flight where
  op : Session.Operation
  rest : Task op.Result

/-- A world, the operations in flight on it, and how many have been started. -/
structure Traffic where
  world : World
  flight? : Nat → Option Flight
  count : Nat

/-- Of two places of one list one comes first, unless they are the same. -/
theorem cut_cases {α : Type} {l₁ l₂ m₁ m₂ : List α} {x y : α}
    (h : l₁ ++ x :: l₂ = m₁ ++ y :: m₂) :
    (l₁ = m₁ ∧ x = y ∧ l₂ = m₂) ∨ (∃ mid, m₁ = l₁ ++ x :: mid) ∨ ∃ mid, l₁ = m₁ ++ y :: mid := by
  rcases List.append_eq_append_iff.mp h with ⟨mid, rfl, hmid⟩ | ⟨mid, rfl, hmid⟩
  · rcases List.cons_eq_append_iff.mp hmid with ⟨rfl, heq⟩ | ⟨mid, rfl, -⟩
    · obtain ⟨rfl, rfl⟩ := List.cons.inj heq
      exact .inl ⟨(List.append_nil l₁).symm, rfl, rfl⟩
    · exact .inr (.inl ⟨mid, rfl⟩)
  · rcases List.cons_eq_append_iff.mp hmid with ⟨rfl, heq⟩ | ⟨mid, rfl, -⟩
    · obtain ⟨rfl, rfl⟩ := List.cons.inj heq
      exact .inl ⟨List.append_nil m₁, rfl, rfl⟩
    · exact .inr (.inr ⟨mid, rfl⟩)

/-- Of the elements with a property one comes first. -/
theorem exists_first {α : Type} {p : α → Prop} {l : List α} (h : ∃ x ∈ l, p x) :
    ∃ l₁ x l₂, l = l₁ ++ x :: l₂ ∧ p x ∧ ∀ y ∈ l₁, ¬ p y := by
  induction l with
  | nil => simp at h
  | cons a l ih =>
    by_cases ha : p a
    · exact ⟨[], a, l, rfl, ha, by simp⟩
    · obtain ⟨l₁, x, l₂, rfl, hx, hfirst⟩ := ih (by simpa [ha] using h)
      exact ⟨a :: l₁, x, l₂, rfl, hx, by simpa [ha] using hfirst⟩

namespace Traffic
open Session

/-- No operation has been started. -/
def idle (w : World) : Traffic :=
  ⟨w, fun _ => none, 0⟩

/-- One flight is replaced, or ended. -/
def put (T : Traffic) (i : Nat) (f : Option Flight) : Traffic :=
  { T with flight? := fun j => if j = i then f else T.flight? j }

theorem put_self {T : Traffic} {i : Nat} {f : Option Flight} (hi : T.flight? i = f) :
    T.put i f = T := by
  have hflight : (fun j => if j = i then f else T.flight? j) = T.flight? := by
    funext j
    split
    · subst j
      exact hi.symm
    · rfl
  simp only [put, hflight]

/-- Of two changes to one flight only the last is left. -/
theorem put_put (T : Traffic) (i n : Nat) (f g : Option Flight) (w : World) :
    ({ T.put i f with world := w, count := n } : Traffic).put i g =
      { T.put i g with world := w, count := n } := by
  simp only [put, mk.injEq, true_and, and_true]
  funext j
  split <;> rfl

/-- What may happen next. -/
inductive Step (s : Issuer) : Traffic → Event → Traffic → Prop where
  | start {T : Traffic} {op} (h : op.IsSession) :
      Step s T (.started T.count op)
        { T.put T.count (some ⟨op, op.task s⟩) with count := T.count + 1 }
  | answer {T : Traffic} {i op c next reply w}
      (hi : T.flight? i = some ⟨op, .call c next⟩) (hr : T.world.Answers c reply w) :
      Step s T (.called i c reply) { T.put i (some ⟨op, next reply⟩) with world := w }
  | finish {T : Traffic} {i op result} (hi : T.flight? i = some ⟨op, .done result⟩) :
      Step s T (.returned i op result) (T.put i none)
  | expire {T : Traffic} {i op rest limit late} (hi : T.flight? i = some ⟨op, rest⟩)
      (hd : op.deadline s = some (limit, late)) : Step s T (.expired i op late) (T.put i none)
  | pass {T : Traffic} (millis : Nat) :
      Step s T (.passed millis) { T with world := T.world.advance millis }
  | alter {T : Traffic} {w} (h : T.world.Alters w) : Step s T .altered { T with world := w }

/-- Steps one after another, with what happens in them. -/
inductive Steps (s : Issuer) (T : Traffic) : List Event → Traffic → Prop where
  | refl : Steps s T [] T
  | snoc {log T₁ e T₂} (h : Steps s T log T₁) (he : Step s T₁ e T₂) : Steps s T (log ++ [e]) T₂

/-- A run that starts with no operation in flight. -/
abbrev Run (s : Issuer) (w : World) (log : List Event) (T : Traffic) : Prop :=
  Steps s (idle w) log T

variable {s : Issuer} {w : World} {T T₁ T₂ : Traffic} {log log₁ log₂ : List Event} {e : Event}

/-- A run can be cut at any place of its log. -/
theorem Steps.split (h : Steps s T (log₁ ++ log₂) T₂) :
    ∃ T₁, Steps s T log₁ T₁ ∧ Steps s T₁ log₂ T₂ := by
  generalize hlog : log₁ ++ log₂ = log at h
  induction h generalizing log₂ with
  | refl =>
    obtain ⟨rfl, rfl⟩ := List.append_eq_nil_iff.mp hlog
    exact ⟨T, .refl, .refl⟩
  | @snoc log U e V h he ih =>
    rcases List.eq_nil_or_concat log₂ with rfl | ⟨front, last, rfl⟩
    · rw [List.append_nil] at hlog
      subst hlog
      exact ⟨V, .snoc h he, .refl⟩
    · rw [List.concat_eq_append, ← List.append_assoc] at hlog
      obtain ⟨hfront, hlast⟩ := List.append_inj' hlog rfl
      obtain ⟨T₁, h₁, h₂⟩ := ih hfront
      obtain rfl := List.singleton_inj.mp hlast
      exact ⟨T₁, h₁, by simpa using h₂.snoc he⟩

/-- Each event of a run happens in a step between two states of the run. -/
theorem Steps.at (h : Steps s T (log₁ ++ e :: log₂) T₂) :
    ∃ U V, Steps s T log₁ U ∧ Step s U e V ∧ Steps s V log₂ T₂ := by
  rw [List.append_cons] at h
  obtain ⟨V, h₁, h₂⟩ := h.split
  generalize hlog : log₁ ++ [e] = log at h₁
  cases h₁ with
  | refl => simp at hlog
  | snoc h₁ he =>
    obtain ⟨rfl, hlast⟩ := List.append_inj' hlog rfl
    obtain rfl := List.singleton_inj.mp hlast
    exact ⟨_, V, h₁, he, h₂⟩

theorem Steps.trans (h : Steps s T log₁ T₁) (h' : Steps s T₁ log₂ T₂) :
    Steps s T (log₁ ++ log₂) T₂ := by
  induction h' with
  | refl => simpa using h
  | snoc _ he ih => simpa using ih.snoc he

theorem Steps.cons (he : Step s T e T₁) (h : Steps s T₁ log T₂) : Steps s T (e :: log) T₂ :=
  (Steps.refl.snoc he).trans h

/-- The first event of a run happens in its first step. -/
theorem Steps.head (h : Steps s T (e :: log) T₂) : ∃ T₁, Step s T e T₁ ∧ Steps s T₁ log T₂ := by
  rw [← List.nil_append (e :: log)] at h
  obtain ⟨U, V, hU, he, hV⟩ := h.at
  generalize hnil : ([] : List Event) = front at hU
  cases hU with
  | refl => exact ⟨V, he, hV⟩
  | snoc => simp at hnil

theorem Step.clock_le (h : Step s T e T₁) : T.world.clock ≤ T₁.world.clock := by
  cases h with
  | start => exact Nat.le_refl _
  | answer hi hr => exact Nat.le_of_eq hr.clock_eq.symm
  | finish => exact Nat.le_refl _
  | expire => exact Nat.le_refl _
  | pass millis => exact Nat.le_add_right _ _
  | alter h => exact Nat.le_of_eq h.clock.symm

/-- The clock never goes back. -/
theorem Steps.clock_le (h : Steps s T log T₁) : T.world.clock ≤ T₁.world.clock := by
  induction h with
  | refl => exact Nat.le_refl _
  | snoc _ he ih => exact Nat.le_trans ih he.clock_le

/-- What has been read from the clock has come by then. -/
theorem Steps.le_clock {i now : Nat} (h : Steps s T log T₁) (hmem : .called i .clock now ∈ log) :
    now ≤ T₁.world.clock := by
  obtain ⟨log₁, log₂, rfl⟩ := List.append_of_mem hmem
  obtain ⟨U, V, -, he, h₂⟩ := h.at
  cases he with
  | answer hi hr =>
    cases hr with
    | clock => exact h₂.clock_le

/-- What the caller of an operation is told at its deadline is its result for that. -/
theorem Steps.deadline_of_expired {i : Nat} {op : Operation} {late : op.Result}
    (h : Steps s T log T₁) (hmem : .expired i op late ∈ log) :
    ∃ limit, op.deadline s = some (limit, late) := by
  obtain ⟨log₁, log₂, rfl⟩ := List.append_of_mem hmem
  obtain ⟨U, V, -, he, -⟩ := h.at
  cases he with
  | expire hi hdeadline => exact ⟨_, hdeadline⟩

end Traffic

end SessionLedger
