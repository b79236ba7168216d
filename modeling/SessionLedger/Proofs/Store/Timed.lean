import Mathlib.Data.List.Dedup
import SessionLedger.Store.State

/-! What a key-value store is meant to be: a timed map. All that counts is which writes and removals
have succeeded, and when. A key is live just if its last write was not followed by a removal of it,
and this write was for good or its lifetime is not over. Nothing is ever dropped from the history,
and looking does not change it. -/
namespace SessionLedger.Store

/-- A value that has been kept at an instant, for a lifetime in seconds or for good if that is
zero. -/
structure Stay where
  value : String
  lifetime : Nat
  since : Nat
  deriving DecidableEq, Repr

namespace Stay

/-- The lifetime is not over. -/
def isLive (x : Stay) (now : Nat) : Bool :=
  x.lifetime = 0 || now < x.since + 1000 * x.lifetime

/-- The milliseconds until the lifetime is over; none for a value that is kept for good. -/
def remaining? (x : Stay) (now : Nat) : Option Nat :=
  if x.lifetime = 0 then none else some (x.since + 1000 * x.lifetime - now)

theorem isLive_of_le {x : Stay} {now later : Nat} (h : x.isLive later = true) (hle : now ≤ later) :
    x.isLive now = true := by
  simp only [isLive, Bool.or_eq_true, decide_eq_true_eq] at h ⊢
  omega

end Stay

/-- A write or a removal that has succeeded. -/
inductive Deed where
  | set (key : String) (x : Stay)
  | delete (keys : List String)
  deriving DecidableEq, Repr

namespace Deed

/-- The deed writes or removes a key. -/
def Touches (key : String) : Deed → Prop
  | .set k _ => k = key
  | .delete keys => key ∈ keys

/-- The key that is written. -/
def key? : Deed → Option String
  | .set key _ => some key
  | .delete _ => none

end Deed

/-- The last write of a key, unless a removal of it has followed. The latest deed comes first. -/
def stay? (key : String) : List Deed → Option Stay
  | [] => none
  | .set k x :: older => if k = key then some x else stay? key older
  | .delete keys :: older => if key ∈ keys then none else stay? key older

section
variable {key : String} {history : List Deed} {x : Stay}

theorem stay?_cons_of_not_touches {d : Deed} (h : ¬ d.Touches key) (older : List Deed) :
    stay? key (d :: older) = stay? key older := by
  cases d <;> exact if_neg h

/-- What stays of a key is told by the last deed that touches it. -/
theorem stay?_eq_some_iff : stay? key history = some x ↔
    ∃ newer older, history = newer ++ .set key x :: older ∧ ∀ d ∈ newer, ¬ d.Touches key := by
  constructor
  · intro h
    induction history with
    | nil => cases h
    | cons d history ih =>
      by_cases htouches : d.Touches key
      · cases d with
        | set k y =>
          obtain rfl : k = key := htouches
          rw [stay?, if_pos rfl, Option.some.injEq] at h
          subst h
          exact ⟨[], history, rfl, by simp⟩
        | delete keys =>
          have hmem : key ∈ keys := htouches
          rw [stay?, if_pos hmem] at h
          cases h
      · rw [stay?_cons_of_not_touches htouches] at h
        obtain ⟨newer, older, rfl, hnewer⟩ := ih h
        exact ⟨d :: newer, older, rfl, by simpa using ⟨htouches, hnewer⟩⟩
  · rintro ⟨newer, older, rfl, hnewer⟩
    induction newer with
    | nil => exact if_pos rfl
    | cons d newer ih =>
      rw [List.cons_append, stay?_cons_of_not_touches (hnewer d (by simp))]
      exact ih fun e he => hnewer e (by simp [he])

theorem mem_keys_of_stay? (h : stay? key history = some x) :
    key ∈ history.filterMap Deed.key? := by
  obtain ⟨newer, older, rfl, -⟩ := stay?_eq_some_iff.mp h
  simp [Deed.key?]

end

/-- A timed map: a clock, what has been done so far, and the faults. -/
structure Timed where
  clock : Nat
  history : List Deed := []
  isAvailable : Bool := true
  latency : Nat := 0
  failingPrefix : Option String := none
  deletesFail : Bool := false

namespace Timed

/-- What is live under a key. -/
def live? (t : Timed) (key : String) : Option Stay :=
  (stay? key t.history).filter (·.isLive t.clock)

/-- A key is live. -/
def isLive (t : Timed) (key : String) : Bool :=
  (t.live? key).isSome

/-- Moves the clock forward. -/
def advance (t : Timed) (millis : Nat) : Timed :=
  { t with clock := t.clock + millis }

/-- Adds a deed. -/
def record (t : Timed) (d : Deed) : Timed :=
  { t with history := d :: t.history }

/-- Answers a call at once. A removal counts the live keys among those it names, each once. -/
def answer (t : Timed) : (c : Call) → Timed × Except Refusal c.Answer
  | .set key value lifetime =>
    if !t.isAvailable then (t, .error .offline)
    else if t.failingPrefix.any (key.startsWith ·) then (t, .error (.writeRejected key))
    else if State.longestLifetime < lifetime then (t, .error .lifetimeTooLong)
    else (t.record (.set key ⟨value, lifetime, t.clock⟩), .ok ())
  | .get key =>
    (t, if !t.isAvailable then .error .offline else .ok ((t.live? key).map (·.value)))
  | .delete keys =>
    if !t.isAvailable then (t, .error .offline)
    else if t.deletesFail then (t, .error .deleteRejected)
    else (t.record (.delete keys), .ok (keys.filter t.isLive).dedup.length)
  | .ping => (t, if t.isAvailable then .ok () else .error .offline)

end Timed

/-! ## What happens to a store -/

/-- A call, which may be given up after so many milliseconds; a look that no fault prevents; or a
change of the time or the faults. -/
inductive Act where
  | call (c : Call) (limit : Option Nat)
  | contains (key : String)
  | peek (key : String)
  | remaining (key : String)
  | liveKeys (start : String)
  | advance (millis : Nat)
  | setAvailable (isAvailable : Bool)
  | setLatency (millis : Nat)
  | failSets (start : Option String)
  | failDeletes (fails : Bool)
  deriving DecidableEq, Repr

/-- What is answered to an act; nothing to a call that was given up. -/
abbrev Act.Answer : Act → Type
  | .call c _ => Option (Except Refusal c.Answer)
  | .contains _ => Bool
  | .peek _ => Option String
  | .remaining _ => Option Nat
  | .liveKeys _ => List String
  | _ => Unit

/-- Acts one after another, with what is answered to each. -/
def acted {σ : Type} (act : σ → (a : Act) → σ × a.Answer) :
    σ → List Act → σ × List ((a : Act) × a.Answer)
  | x, [] => (x, [])
  | x, a :: rest =>
    ((acted act (act x a).1 rest).1, ⟨a, (act x a).2⟩ :: (acted act (act x a).1 rest).2)

/-- If related states answer every act alike and stay related, they answer all acts alike. -/
theorem acted_of_lockstep {σ τ : Type} {act : σ → (a : Act) → σ × a.Answer}
    {act' : τ → (a : Act) → τ × a.Answer} {R : σ → τ → Prop}
    (hstep : ∀ x y a, R x y → (act x a).2 = (act' y a).2 ∧ R (act x a).1 (act' y a).1)
    {x : σ} {y : τ} (h : R x y) (acts : List Act) :
    (acted act x acts).2 = (acted act' y acts).2 ∧
      R (acted act x acts).1 (acted act' y acts).1 := by
  induction acts generalizing x y with
  | nil => exact ⟨rfl, h⟩
  | cons a rest ih =>
    obtain ⟨hanswer, hnext⟩ := hstep x y a h
    obtain ⟨hrest, hlast⟩ := ih hnext
    refine ⟨?_, hlast⟩
    simp only [acted, hanswer, hrest]

namespace Timed

/-- Carries out an act. A call takes its latency, and it is given up where that is longer than its
limit; then nothing is done. -/
def act (t : Timed) : (a : Act) → Timed × a.Answer
  | .call c limit =>
    if limit.all (t.latency ≤ ·) then
      (((t.advance t.latency).answer c).1, some ((t.advance t.latency).answer c).2)
    else (t.advance (limit.getD 0), none)
  | .contains key => (t, t.isLive key)
  | .peek key => (t, (t.live? key).map (·.value))
  | .remaining key => (t, (t.live? key).bind (·.remaining? t.clock))
  | .liveKeys start =>
    (t, ((t.history.filterMap Deed.key?).dedup.filter fun key =>
      key.startsWith start && t.isLive key).mergeSort (· ≤ ·))
  | .advance millis => (t.advance millis, ())
  | .setAvailable isAvailable => ({ t with isAvailable }, ())
  | .setLatency latency => ({ t with latency }, ())
  | .failSets failingPrefix => ({ t with failingPrefix }, ())
  | .failDeletes deletesFail => ({ t with deletesFail }, ())

/-! ## What is dead -/

variable {t t' : Timed} {key : String}

theorem isLive_eq_false_iff :
    t.isLive key = false ↔ ∀ x, stay? key t.history = some x → x.isLive t.clock = false := by
  rw [isLive, live?]
  cases stay? key t.history with
  | none => simp
  | some x => by_cases hlive : x.isLive t.clock = true <;> simp [Option.filter, hlive]

/-- A key is live just if its last write was not followed by a removal of it, and this write was for
good or its lifetime is not over. -/
theorem isLive_iff : t.isLive key = true ↔
    ∃ newer x older, t.history = newer ++ .set key x :: older ∧
      (∀ d ∈ newer, ¬ d.Touches key) ∧
        (x.lifetime = 0 ∨ t.clock < x.since + 1000 * x.lifetime) := by
  simp only [isLive, live?, Option.isSome_filter, Option.any_eq_true, stay?_eq_some_iff,
    Stay.isLive, Bool.or_eq_true, decide_eq_true_eq]
  constructor
  · rintro ⟨x, ⟨newer, older, hhistory, hnewer⟩, hlive⟩
    exact ⟨newer, x, older, hhistory, hnewer, hlive⟩
  · rintro ⟨newer, x, older, hhistory, hnewer, hlive⟩
    exact ⟨x, ⟨newer, older, hhistory, hnewer⟩, hlive⟩

/-- What is dead stays dead while nothing else stays of its key. -/
theorem isLive_of_dead (h : t.isLive key = false) (hclock : t.clock ≤ t'.clock)
    (hstay : ∀ x, stay? key t'.history = some x → stay? key t.history = some x) :
    t'.isLive key = false := by
  rw [isLive_eq_false_iff] at h ⊢
  intro x hx
  have hdead := h x (hstay x hx)
  rw [Bool.eq_false_iff] at hdead ⊢
  exact fun hlive => hdead (x.isLive_of_le hlive hclock)

theorem answer_of_error {c : Call} {r : Refusal} (h : (t.answer c).2 = .error r) :
    (t.answer c).1 = t := by
  cases c with
  | get k => rfl
  | ping => rfl
  | set k value lifetime =>
    simp only [answer] at h ⊢
    repeat' split
    all_goals simp_all
  | delete keys =>
    simp only [answer] at h ⊢
    repeat' split
    all_goals simp_all

theorem isLive_record_of_dead {d : Deed} (h : t.isLive key = false)
    (hset : ∀ x, d ≠ .set key x) : (t.record d).isLive key = false := by
  refine isLive_of_dead h (Nat.le_refl _) fun x hx => ?_
  cases d with
  | set k y =>
    have hne : k ≠ key := by
      rintro rfl
      exact hset y rfl
    rwa [record, stay?, if_neg hne] at hx
  | delete keys =>
    rw [record, stay?] at hx
    split at hx
    · cases hx
    · exact hx

end Timed

/-- The store has written a value under a key. -/
def Act.Sets (key : String) (x : (a : Act) × a.Answer) : Prop :=
  ∃ value lifetime limit, x = ⟨.call (.set key value lifetime) limit, some (.ok ())⟩

namespace Timed
variable {t : Timed} {key : String}

theorem isLive_answer_of_dead {c : Call} {limit : Option Nat} (h : t.isLive key = false)
    (hset : ¬ Act.Sets key ⟨.call c limit, some (t.answer c).2⟩) :
    (t.answer c).1.isLive key = false := by
  cases hr : (t.answer c).2 with
  | error r => rwa [answer_of_error hr]
  | ok a =>
    cases c with
    | set k value lifetime =>
      have hne : k ≠ key := by
        rintro rfl
        exact hset ⟨value, lifetime, limit, by rw [hr]⟩
      simp only [answer]
      repeat' split
      all_goals first | exact h | exact isLive_record_of_dead h (by simp [hne])
    | get k => exact h
    | delete keys =>
      simp only [answer]
      repeat' split
      all_goals first | exact h | exact isLive_record_of_dead h (by simp)
    | ping => exact h

/-- Only a write that succeeds brings a dead key to life. -/
theorem isLive_act_of_dead {a : Act} (h : t.isLive key = false)
    (hset : ¬ Act.Sets key ⟨a, (t.act a).2⟩) : (t.act a).1.isLive key = false := by
  have hadvance : ∀ millis, (t.advance millis).isLive key = false := fun millis =>
    isLive_of_dead h (Nat.le_add_right _ _) fun x hx => hx
  cases a with
  | call c limit =>
    simp only [act] at hset ⊢
    by_cases hlimit : limit.all (t.latency ≤ ·) = true
    · rw [if_pos hlimit] at hset ⊢
      exact isLive_answer_of_dead (hadvance _) hset
    · rw [if_neg hlimit]
      exact hadvance _
  | advance millis => exact hadvance millis
  | _ => exact h

theorem isLive_acted_of_dead {acts : List Act} (h : t.isLive key = false)
    (hset : ∀ x ∈ (acted act t acts).2, ¬ Act.Sets key x) :
    (acted act t acts).1.isLive key = false := by
  induction acts generalizing t with
  | nil => exact h
  | cons a rest ih =>
    simp only [acted, List.forall_mem_cons] at hset
    exact ih (isLive_act_of_dead h hset.1) hset.2

end Timed

end SessionLedger.Store
