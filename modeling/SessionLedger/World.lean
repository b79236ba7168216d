import SessionLedger.Effect
/-! The surroundings of a program: a clock in milliseconds, a supply of identifiers, the
comparison of passwords, and the two stores. -/
namespace SessionLedger

/-- The `n`-th identifier of a reproducible supply, counted from 1: a version 4 UUID whose last
twelve digits are the number. -/
def Uuid.numbered (n : Nat) : String :=
  let digits := Nat.toDigits 16 n
  "00000000-0000-4000-8000-" ++
    String.ofList (List.replicate (12 - digits.length) '0' ++ digits)

/-- The surroundings. -/
structure World where
  clock : Nat
  /-- The identifiers in the order in which they are drawn. -/
  supply : Nat → String := fun n => Uuid.numbered (n + 1)
  /-- How many identifiers have been drawn. -/
  drawn : Nat := 0
  /-- The verdict on a password and a stored hash. -/
  accepts : String → String → Password.Verdict
  /-- Why comparisons with stored hashes cannot be carried out. -/
  comparisonFault : Option String := none
  store : Store.State := {}
  users : User.Directory := {}

namespace World

/-- Moves the clock forward. -/
def advance (w : World) (millis : Nat) : World :=
  { w with clock := w.clock + millis }

/-- Moves the clock to an instant, unless it is past it. -/
def advanceTo (w : World) (instant : Nat) : World :=
  { w with clock := max w.clock instant }

/-- An instant has come; one that is missing never does. -/
def isDue (w : World) (instant : Option Nat) : Bool :=
  instant.any (· ≤ w.clock)

/-- The outcome of a comparison. -/
def outcome (w : World) : (c : Comparison) → c.Outcome
  | .genuine password hash => match w.comparisonFault with
    | some text => .error text
    | none => .ok (w.accepts password hash)
  | .decoy _ => ()

/-- How long a remote call takes. -/
def latency (w : World) : Remote.Call → Nat
  | .store _ => w.store.latency
  | .users _ => w.users.latency

/-- Answers a remote call, now. -/
def answerRemote (w : World) : (c : Remote.Call) → World × c.Reply
  | .store c =>
    let (store, reply) := w.store.answer w.clock c
    ({ w with store }, reply)
  | .users c =>
    let (users, reply) := w.users.answer c
    ({ w with users }, reply)

end World

end SessionLedger
