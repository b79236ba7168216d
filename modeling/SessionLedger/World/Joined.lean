import SessionLedger.World.Plan
/-! Plans that run jointly. All start at once, in order. When none can go on, the clock moves to the
earliest instant at which an answer is there, a limit passes or a deadline passes; then each plan
that has something due goes on, in order, until it has to wait again. Of things due at one instant
the answer of a call comes before its limit, and both before the deadline. A plan that compares
passwords goes on when all others have had their turn, without time passing. -/
namespace SessionLedger.World
open Session
variable {α β : Type}

/-- What a program waits for: the answer of a remote call, which is there at the instant `wake` and
given up at `stop`, or the outcome of a comparison that began at `wake`. -/
inductive Wait (β : Type) where
  | remote (c : Remote.Call) (wake : Nat) (stop : Option Nat) (next : Option c.Reply → Task β)
  | comparison (c : Comparison) (wake : Nat) (next : c.Outcome → Task β)

/-- How far a program has come: to its end or to something it waits for. -/
inductive Progress (β : Type) where
  | ended (ending : Ending β)
  | waiting (wait : Wait β)

/-- Runs a program until it has to wait. -/
def proceed (deadline : Option Nat) : Task β → World → World × Progress β
  | .done b, w => (w, .ended (.finished b))
  | .halt, w => (w, .ended .halted)
  | .call (.remote c limit) next, w =>
    let stop := limit.map (w.clock + ·)
    if w.latency c = 0 then
      let (w, reply) := w.answerRemote c
      proceed deadline (next (some reply)) w
    else if w.isDue stop then proceed deadline (next none) w
    else if w.isDue deadline then (w, .ended .expired)
    else (w, .waiting (.remote c (w.clock + w.latency c) stop next))
  | .call (.compare c) next, w =>
    if w.isDue deadline then (w, .ended .expired) else (w, .waiting (.comparison c w.clock next))
  | .call .clock next, w => proceed deadline (next w.clock) w
  | .call .uuid next, w =>
    proceed deadline (next (w.supply w.drawn)) { w with drawn := w.drawn + 1 }

/-- Runs a waiting program on, if something is due. -/
def resume (deadline : Option Nat) (wait : Wait β) (w : World) : World × Progress β :=
  match wait with
  | .remote c wake stop next =>
    if wake ≤ w.clock then
      let (w, reply) := w.answerRemote c
      proceed deadline (next (some reply)) w
    else if w.isDue stop then proceed deadline (next none) w
    else if w.isDue deadline then (w, .ended .expired)
    else (w, .waiting wait)
  | .comparison c _ next => proceed deadline (next (w.outcome c)) w

/-- The instants at which something is due for a waiting program. -/
def Wait.instants : Wait β → List Nat
  | .remote _ wake stop _ => wake :: stop.toList
  | .comparison _ wake _ => [wake]

/-- A plan among others: at its end, or in an operation. -/
inductive Thread (α : Type) where
  | finished (a : α)
  | waiting (op : Operation) (deadline : Option (Nat × op.Result)) (wait : Wait op.Result)
      (rest : op.Result → Plan α)

/-- Runs a plan until it has to wait, unless it halts. The deadline of an operation counts from its
start. -/
def begin (s : Issuer) : Plan α → World → World × Option (Thread α)
  | .done a, w => (w, some (.finished a))
  | .halt, w => (w, none)
  | .call op rest, w =>
    let deadline := (op.deadline s).map fun (limit, late) => (w.clock + limit, late)
    match proceed (deadline.map (·.1)) (op.task s) w with
    | (w, .ended (.finished result)) => begin s (rest result) w
    | (w, .ended .halted) => (w, none)
    | (w, .ended .expired) => match deadline with
      | some (_, late) => begin s (rest late) w
      | none => (w, none)
    | (w, .waiting wait) => (w, some (.waiting op deadline wait rest))

/-- Runs a plan on, if something of it is due, unless it halts. -/
def poll (s : Issuer) : Thread α → World → World × Option (Thread α)
  | .finished a, w => (w, some (.finished a))
  | .waiting op deadline wait rest, w => match resume (deadline.map (·.1)) wait w with
    | (w, .ended (.finished result)) => begin s (rest result) w
    | (w, .ended .halted) => (w, none)
    | (w, .ended .expired) => match deadline with
      | some (_, late) => begin s (rest late) w
      | none => (w, none)
    | (w, .waiting wait) => (w, some (.waiting op deadline wait rest))

/-- Applies a step to each item in order, up to the first that halts. -/
def each {γ δ : Type} (step : γ → World → World × Option δ) :
    List γ → World → World × Option (List δ)
  | [], w => (w, some [])
  | c :: cs, w => match step c w with
    | (w, none) => (w, none)
    | (w, some d) =>
      let (w, ds) := each step cs w
      (w, ds.map (d :: ·))

/-- The instants at which something of a plan is due. -/
def Thread.instants : Thread α → List Nat
  | .waiting _ deadline wait _ => wait.instants ++ (deadline.map (·.1)).toList
  | .finished _ => []

/-- Lets time pass and plans go on until none is waiting, for at most that many instants. -/
def settleAll (s : Issuer) : Nat → List (Thread α) → World → World × Option (List (Thread α))
  | 0, threads, w => (w, some threads)
  | n + 1, threads, w => match (threads.flatMap Thread.instants).min? with
    | none => (w, some threads)
    | some instant => match each (poll s) threads (w.advanceTo instant) with
      | (w, some threads) => settleAll s n threads w
      | (w, none) => (w, none)

/-- The most remote calls and comparisons that the operations of one plan make. -/
def callsPerPlan : Nat := 32

/-- The value of a plan that is at its end. -/
def Thread.value? : Thread α → Option α
  | .finished a => some a
  | .waiting .. => none

/-- What takes part in a joint run: a plan, or an act on the surroundings that takes no time. -/
inductive Part (α : Type) where
  | plan (p : Plan α)
  | act (f : World → World × α)

/-- Starts a part. -/
def Part.start (s : Issuer) : Part α → World → World × Option (Thread α)
  | .plan p, w => begin s p w
  | .act f, w =>
    let (w, a) := f w
    (w, some (.finished a))

/-- Runs parts jointly; there are no results if one of them halts, which ends the run. At each
instant at least one part ends a wait, so the number of waits bounds the instants. -/
def followAll (s : Issuer) (parts : List (Part α)) (w : World) : World × Option (List α) :=
  match each (Part.start s) parts w with
  | (w, none) => (w, none)
  | (w, some threads) =>
    let (w, threads) := settleAll s (callsPerPlan * parts.length) threads w
    (w, threads.bind fun threads => threads.mapM Thread.value?)

end SessionLedger.World
