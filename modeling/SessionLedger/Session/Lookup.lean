import SessionLedger.Session.Pair
/-! Profiles of users, read through the cache. A snapshot is kept for good and dropped when the row
changes; text in the cache that is no snapshot counts as absent, while a cache that cannot be
asked is an error. -/
namespace SessionLedger.Session
open User

namespace Issuer

/-- Calls the store of users. -/
def askUsers (s : Issuer) (c : Directory.Call) : Task (Except DirectoryError c.Answer) := do
  match ← Task.users (some s.usersLimit) c with
  | some reply => return reply
  | none => return .error .timeout

/-- The profile from the row, which is cached on the way; that may fail. -/
def rebuildProfile (s : Issuer) (user : Int64) : Task (Except SessionError Snapshot) := do
  match ← s.askUsers (.project user) with
  | .error e => return .error (.directory e)
  | .ok projection =>
    let snapshot := Snapshot.ofProjection projection
    let _ ← Cache.setSnapshot s.cacheLimit (s.profileKey user) snapshot 0
    return .ok snapshot

/-- The profile of a user. -/
def profile (s : Issuer) (user : Int64) : Task (Except SessionError Snapshot) := do
  match ← Cache.getSnapshot s.cacheLimit (s.profileKey user) with
  | .ok snapshot => return .ok snapshot
  | .error .notFound => s.rebuildProfile user
  | .error .serialization => s.rebuildProfile user
  | .error e => return .error (.cache e)

/-- Drops the cached profile of a user, so that the next lookup rebuilds it. -/
def dropProfile (s : Issuer) (user : Int64) : Task (Except SessionError Unit) := do
  match ← Cache.delete s.cacheLimit [s.profileKey user] with
  | .ok _ => return .ok ()
  | .error e => return .error (.cache e)

end Issuer

end SessionLedger.Session
