import SessionLedger.Store.Table
/-! A key-value store that forgets: an entry may have an instant of expiry, and from this instant
on it is dead. The store can be switched into faults: it may be offline, refuse to write under a
prefix, or refuse to delete. Instants and spans are in milliseconds, lifetimes in seconds. -/
namespace SessionLedger.Store

/-- What a store is asked. -/
inductive Call where
  /-- Keep a value for that many seconds, or for good if there are none. -/
  | set (key value : String) (lifetime : Nat)
  | get (key : String)
  | delete (keys : List String)
  | ping
  deriving DecidableEq, Repr

/-- What a store answers: nothing, the value if there is one, or how many keys were live. -/
abbrev Call.Answer : Call → Type
  | .set .. => Unit
  | .get _ => Option String
  | .delete _ => Nat
  | .ping => Unit

/-- Why a store refuses. -/
inductive Refusal where
  | offline
  | writeRejected (key : String)
  | deleteRejected
  /-- The instant of expiry is out of range. -/
  | lifetimeTooLong
  deriving DecidableEq, Repr

/-- A value and the instant at which it dies. -/
structure Entry where
  value : String
  expiry : Option Nat
  deriving DecidableEq, Repr

/-- The entry has not died yet. -/
def Entry.isLive (e : Entry) (now : Nat) : Bool :=
  e.expiry.all (now < ·)

/-- The entries and the faults. -/
structure State where
  entries : Table Entry := []
  isAvailable : Bool := true
  latency : Nat := 0
  failingPrefix : Option String := none
  deletesFail : Bool := false

namespace State

/-- The longest lifetime in seconds. The bound is fixed and does not depend on the clock; on a real
clock it is the sum of the instant and the lifetime that must not overflow. -/
def longestLifetime : Nat := Nat.pow 2 63 - 1

/-- The entry under a key, if it is live. -/
def live? (m : State) (now : Nat) (key : String) : Option Entry :=
  (m.entries.find? key).filter (·.isLive now)

/-- The value under a key, if it is live. -/
def peek? (m : State) (now : Nat) (key : String) : Option String :=
  (m.live? now key).map (·.value)

/-- A key holds a live value. -/
def contains (m : State) (now : Nat) (key : String) : Bool :=
  (m.live? now key).isSome

/-- The milliseconds until the value under a key dies; none if there is no live value or it is
kept for good. -/
def remaining? (m : State) (now : Nat) (key : String) : Option Nat :=
  (m.live? now key).bind fun e => e.expiry.map (· - now)

/-- The live keys that start with a text, in order. -/
def liveKeys (m : State) (now : Nat) (start : String) : List String :=
  ((m.entries.filter fun (key, e) => key.startsWith start && e.isLive now).map (·.1)).mergeSort
    (· ≤ ·)

/-- The instant at which a value written now dies. -/
def expiryAt (now lifetime : Nat) : Option Nat :=
  if lifetime = 0 then none else some (now + 1000 * lifetime)

/-- Removes keys one after another and counts those that were live. -/
def deleteAll (now : Nat) : List String → Table Entry → Table Entry × Nat
  | [], t => (t, 0)
  | key :: keys, t =>
    let (rest, n) := deleteAll now keys (t.erase key)
    (rest, if (t.find? key).any (·.isLive now) then n + 1 else n)

/-- Answers a call at an instant. A refused call changes nothing; a dead entry that is asked for is
dropped. -/
def answer (m : State) (now : Nat) : (c : Call) → State × Except Refusal c.Answer
  | .set key value lifetime =>
    if !m.isAvailable then (m, .error .offline)
    else if m.failingPrefix.any (key.startsWith ·) then (m, .error (.writeRejected key))
    else if longestLifetime < lifetime then (m, .error .lifetimeTooLong)
    else ({ m with entries := m.entries.insert key ⟨value, expiryAt now lifetime⟩ }, .ok ())
  | .get key =>
    if !m.isAvailable then (m, .error .offline)
    else match m.entries.find? key with
      | some e =>
        if e.isLive now then (m, .ok (some e.value))
        else ({ m with entries := m.entries.erase key }, .ok none)
      | none => (m, .ok none)
  | .delete keys =>
    if !m.isAvailable then (m, .error .offline)
    else if m.deletesFail then (m, .error .deleteRejected)
    else
      let (entries, n) := deleteAll now keys m.entries
      ({ m with entries }, .ok n)
  | .ping => (m, if m.isAvailable then .ok () else .error .offline)

end State

end SessionLedger.Store
