import SessionLedger.World
/-! A program that runs alone. A remote call takes its latency; it is given up at its limit, and
the whole program is dropped at its deadline. What comes first counts, and of things due at one
instant the answer comes before the limit and the limit before the deadline. A call without
latency is answered at once, whatever the limits. A comparison of passwords is taken to need no
time, however costly the hash is, but a deadline that has come is noticed during it. -/
namespace SessionLedger

/-- How a program ended: with a value, by its deadline, or by halting. -/
inductive Ending (α : Type) where
  | finished (a : α)
  | expired
  | halted
  deriving DecidableEq, Repr

/-- How the wait for an answer ended. -/
inductive Arrival where
  | answered
  | missed
  | expired
  deriving DecidableEq, Repr

/-- The instant is not after one that may be missing. -/
def notAfter (instant : Nat) (bound : Option Nat) : Bool :=
  bound.all (instant ≤ ·)

namespace World
variable {α : Type}

/-- When and how the wait for the answer of a lone call ends, given the instants at which the
answer is there, the limit passes and the deadline passes. -/
def arrival (wake : Nat) (stop deadline : Option Nat) : Nat × Arrival :=
  if notAfter wake stop && notAfter wake deadline then (wake, .answered)
  else match stop, deadline with
    | some s, some d => if s ≤ d then (s, .missed) else (d, .expired)
    | some s, none => (s, .missed)
    | none, some d => (d, .expired)
    | none, none => (wake, .answered)

/-- Waits for the answer of a lone call. -/
def await (w : World) (c : Remote.Call) (limit deadline : Option Nat) : World × Arrival :=
  if w.latency c = 0 then (w, .answered)
  else
    let (instant, how) :=
      arrival (w.clock + w.latency c) (limit.map (w.clock + ·)) deadline
    (w.advanceTo instant, how)

/-- The reply to a call of a lone program; there is none if the deadline passes first. Only remote
calls move the clock, comparisons do not. -/
def settle (w : World) (deadline : Option Nat) : (c : Effect.Call) → World × Option c.Reply
  | .remote c limit => match w.await c limit deadline with
    | (w, .answered) =>
      let (w, reply) := w.answerRemote c
      (w, some (some reply))
    | (w, .missed) => (w, some none)
    | (w, .expired) => (w, none)
  | .clock => (w, some w.clock)
  | .uuid => ({ w with drawn := w.drawn + 1 }, some (w.supply w.drawn))
  | .compare c => (w, if w.isDue deadline then none else some (w.outcome c))

/-- Runs a program alone, up to an instant at which it is dropped. -/
def run (deadline : Option Nat) : Task α → World → World × Ending α
  | .done a, w => (w, .finished a)
  | .halt, w => (w, .halted)
  | .call c next, w => match w.settle deadline c with
    | (w, some reply) => run deadline (next reply) w
    | (w, none) => (w, .expired)

end World

end SessionLedger
