import SessionLedger.Effect
import SessionLedger.Session.Error
/-! The key-value store as session operations use it: each call has a limit, and a value may be a
snapshot in JSON. A store that cannot be asked is an error, never an absent value. -/
namespace SessionLedger.Session.Cache
open User

/-- The refusal of the store as an error; there is none for a lifetime out of range, which halts
the program. -/
def refused : Store.Refusal → Option CacheFault
  | .offline => some (.unavailable "memory store offline")
  | .writeRejected key => some (.unavailable ("write rejected for " ++ key))
  | .deleteRejected => some (.unavailable "delete rejected")
  | .lifetimeTooLong => none

/-- Calls the store. -/
def ask (limit : Option Nat) (c : Store.Call) : Task (Except CacheFault c.Answer) := do
  match ← Task.store limit c with
  | some (.ok answer) => return .ok answer
  | some (.error refusal) => return .error (← Program.orHalt (refused refusal))
  | none => return .error .timeout

/-- Keeps a value, for good if the lifetime is zero. -/
def set (limit : Nat) (key value : String) (lifetime : Nat) : Task (Except CacheFault Unit) :=
  ask (some limit) (.set key value lifetime)

/-- The value under a key. -/
def get (limit : Nat) (key : String) : Task (Except CacheFault String) := do
  match ← ask (some limit) (.get key) with
  | .ok (some value) => return .ok value
  | .ok none => return .error .notFound
  | .error e => return .error e

/-- Removes keys and counts those that were live; without keys the store is not called. -/
def delete (limit : Nat) (keys : List String) : Task (Except CacheFault Nat) :=
  if keys.isEmpty then return .ok 0 else ask (some limit) (.delete keys)

/-- Asks whether the store is there. -/
def ping (limit : Nat) : Task (Except CacheFault Unit) :=
  ask (some limit) .ping

/-- Keeps a snapshot. -/
def setSnapshot (limit : Nat) (key : String) (s : Snapshot) (lifetime : Nat) :
    Task (Except CacheFault Unit) :=
  set limit key s.encode lifetime

/-- The snapshot under a key. -/
def getSnapshot (limit : Nat) (key : String) : Task (Except CacheFault Snapshot) := do
  match ← get limit key with
  | .ok text => match Snapshot.decode? text with
    | some s => return .ok s
    | none => return .error .serialization
  | .error e => return .error e

end SessionLedger.Session.Cache
