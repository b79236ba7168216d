import SessionLedger.Session.Operation
import SessionLedger.World.Run
/-! Plans that run alone. Each operation has the time that its deadline allows, counted from the
instant at which it starts. -/
namespace SessionLedger.World
open Session
variable {α : Type}

/-- Runs an operation alone; there is no result if it halts. -/
def perform (s : Issuer) (op : Operation) (w : World) : World × Option op.Result :=
  match op.deadline s with
  | some (limit, late) => match run (some (w.clock + limit)) (op.task s) w with
    | (w, .finished result) => (w, some result)
    | (w, .expired) => (w, some late)
    | (w, .halted) => (w, none)
  | none => match run none (op.task s) w with
    | (w, .finished result) => (w, some result)
    | (w, _) => (w, none)

/-- Runs a plan alone; there is no result if an operation halts. -/
def follow (s : Issuer) : Plan α → World → World × Option α
  | .done a, w => (w, some a)
  | .halt, w => (w, none)
  | .call op rest, w => match perform s op w with
    | (w, some result) => follow s (rest result) w
    | (w, none) => (w, none)

end SessionLedger.World
