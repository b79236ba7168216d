import SessionLedger.Proofs.World.Sound
import SessionLedger.Proofs.World.Story

/-! The exchanges of a program that runs alone: its calls with their replies, in order. A call that
is answered in time is answered by the stores as they are at that instant. -/
namespace SessionLedger
open Session User

/-- The calls to the store of users among some exchanges, whether they were answered or given up. -/
def asked (d : Diary) : List Directory.Call :=
  d.filterMap fun x => match x with
    | ⟨.remote (.users c) _, _⟩ => some c
    | _ => none

namespace World
variable {α : Type} {s : Issuer} {w w' : World}

/-! ## Calls -/

/-- A call to the key-value store whose answer takes no longer than the limit leaves the entries of
that answer. -/
theorem settle_store_of_le {c : Store.Call} {limit : Nat} (h : w.store.latency ≤ limit) :
    w.settle none (.remote (.store c) (some limit)) =
      (w.wrote (w.store.answer (w.clock + w.store.latency) c).1.entries,
        some (some (w.store.answer (w.clock + w.store.latency) c).2)) := by
  rw [settle_store, if_pos h]
  have hstore : ((w.advance w.store.latency).answerRemote (.store c)).1 =
      w.wrote (w.store.answer (w.clock + w.store.latency) c).1.entries := by
    simp only [answerRemote, advance, wrote, ← Store.State.answer_eq]
  rw [hstore]
  rfl

/-- A call to the store of users is answered if the answer takes no longer than the limit, and given
up at the limit otherwise. -/
theorem settle_users (w : World) (c : Directory.Call) (limit : Nat) :
    w.settle none (.remote (.users c) (some limit)) =
      if w.users.latency ≤ limit then (w.consulted c, some (some (w.users.answer c).2))
      else (w.advance limit, some none) := by
  have hlatency : w.latency (.users c) = w.users.latency := rfl
  by_cases hlimit : w.users.latency ≤ limit
  · simp only [settle, await_limit, hlatency, if_pos hlimit]
    rfl
  · simp only [settle, await_limit, hlatency, if_neg hlimit]

/-- A call to the cache succeeds just if it is answered in time and not refused. -/
theorem run_ask_eq_ok_iff {c : Store.Call} {limit : Nat} {a : c.Answer} :
    run none (Cache.ask (some limit) c) w = (w', .finished (.ok a)) ↔
      w.store.latency ≤ limit ∧
        (w.store.answer (w.clock + w.store.latency) c).2 = .ok a ∧
        w' = w.wrote (w.store.answer (w.clock + w.store.latency) c).1.entries := by
  rw [Cache.ask_eq]
  by_cases hlimit : w.store.latency ≤ limit
  · rw [run_call (settle_store_of_le hlimit)]
    cases (w.store.answer (w.clock + w.store.latency) c).2 with
    | ok b =>
      simp only [Cache.received, run, Prod.mk.injEq, Ending.finished.injEq, Except.ok.injEq,
        hlimit, true_and, eq_comm, and_comm]
    | error refusal => cases refusal <;> simp [Cache.received, Cache.refused, Program.orHalt, run]
  · have hmissed := w.settle_store c limit
    rw [if_neg hlimit] at hmissed
    rw [run_call hmissed]
    simp [Cache.received, run, hlimit]

/-! ## Programs -/

/-- The exchanges of a program that runs alone and without a deadline. -/
def exchanges (p : Task α) (w : World) : Diary :=
  diary (passage 0 none p w) 0

@[simp] theorem exchanges_done (a : α) : exchanges (.done a) w = [] := rfl

theorem exchanges_call {c : Effect.Call} {next : c.Reply → Task α} {reply : c.Reply}
    (h : w.settle none c = (w', some reply)) :
    exchanges (.call c next) w = ⟨c, reply⟩ :: exchanges (next reply) w' := by
  rw [exchanges, passage, h, diary_cons_of_none rfl, diary_cons_called]
  rfl

/-- What an operation without a deadline results in is what its program comes to. -/
theorem perform_of_deadline_eq_none {op : Operation} {result : op.Result}
    (hdeadline : op.deadline s = none) :
    w.perform s op = (w', some result) ↔ run none (op.task s) w = (w', .finished result) := by
  constructor
  · exact run_of_perform hdeadline
  · intro h
    simp only [perform, hdeadline, h]

end World

end SessionLedger
