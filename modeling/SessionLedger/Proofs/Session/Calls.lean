import SessionLedger.Proofs.Session.Keys
import SessionLedger.Proofs.Session.Minted
import SessionLedger.Session.Operation
import SessionLedger.Proofs.Program.Keeps

/-! Which calls the parts of a session operation make. A part makes only calls of certain kinds,
whatever the replies, if the calls that stand in it are of these kinds. -/
namespace SessionLedger.Session
open Token User

variable {s : Issuer} {allowed : Effect.Call → Prop} {user : Int64} {pair : Pair}

/-! ## Calls -/

theorem only_ask {limit : Option Nat} {c : Store.Call}
    (h : allowed (.remote (.store c) limit)) : (Cache.ask limit c).Only allowed := by
  refine ⟨h, fun reply => ?_⟩
  match reply with
  | some (.ok a) => trivial
  | some (.error refusal) =>
    show Program.Only allowed ((Program.orHalt (Cache.refused refusal)).bind
      fun fault => (.done (.error fault) : Task (Except CacheFault c.Answer)))
    exact Program.Only.bind (by simp) fun fault => trivial
  | none => trivial

theorem only_get {limit : Nat} {key : String}
    (h : allowed (.remote (.store (.get key)) (some limit))) :
    (Cache.get limit key).Only allowed := by
  refine Program.Only.bind (only_ask h) fun found => ?_
  match found with
  | .ok (some value) => trivial
  | .ok none => trivial
  | .error e => trivial

theorem only_askUsers {c : Directory.Call}
    (h : allowed (.remote (.users c) (some s.usersLimit))) : (s.askUsers c).Only allowed := by
  refine ⟨h, fun reply => ?_⟩
  cases reply <;> trivial

theorem only_checkPassword {password hash : String}
    (h : allowed (.compare (.genuine password hash))) :
    (checkPassword password hash).Only allowed :=
  ⟨h, fun _ => trivial⟩

theorem only_clock (h : allowed .clock) : Task.clock.Only allowed :=
  ⟨h, fun _ => trivial⟩

/-! ## Snapshots -/

theorem only_dropProfile
    (h : allowed (.remote (.store (.delete [s.profileKey user])) (some s.cacheLimit))) :
    (s.dropProfile user).Only allowed := by
  refine Program.Only.bind (only_ask h) fun count => ?_
  cases count <;> trivial

section
variable (hproject : allowed (.remote (.users (.project user)) (some s.usersLimit)))
variable (hset : ∀ value,
  allowed (.remote (.store (.set (s.profileKey user) value 0)) (some s.cacheLimit)))
include hproject hset

theorem only_rebuildProfile : (s.rebuildProfile user).Only allowed := by
  refine (only_askUsers hproject).bind fun projection => ?_
  match projection with
  | .ok projection => exact Program.Only.bind (only_ask (hset _)) fun _ => trivial
  | .error e => trivial

theorem only_profile
    (hget : allowed (.remote (.store (.get (s.profileKey user))) (some s.cacheLimit))) :
    (s.profile user).Only allowed := by
  refine ((only_get hget).bind fun text => ?_).bind fun snapshot => ?_
  · match text with
    | .ok text =>
      dsimp only
      split <;> trivial
    | .error e => trivial
  · match snapshot with
    | .ok snapshot => trivial
    | .error .notFound => exact only_rebuildProfile hproject hset
    | .error .serialization => exact only_rebuildProfile hproject hset
    | .error .timeout => trivial
    | .error (.unavailable reason) => trivial

end

/-! ## Pairs -/

theorem only_revoke {accessUuid refreshUuid : String}
    (h : allowed (.remote (.store (.delete (s.pairKeys accessUuid refreshUuid)))
      (some s.cacheLimit))) : (s.revoke accessUuid refreshUuid).Only allowed :=
  only_ask h

theorem only_discard
    (h : allowed (.remote (.store (.delete (s.pairKeys pair.accessUuid pair.refreshUuid)))
      (some s.cacheLimit))) : (s.discard pair).Only allowed :=
  (only_revoke h).bind fun _ => trivial

theorem only_mint (huuid : allowed .uuid) (hclock : allowed .clock) :
    (s.mint user).Only allowed :=
  ⟨huuid, fun _ => ⟨huuid, fun _ => ⟨hclock, fun _ => by simp⟩⟩⟩

theorem only_forgetUser {claims : Claims}
    (hrevoke : allowed (.remote (.store (.delete
      (s.pairKeys claims.accessUuid claims.refreshUuid))) (some s.cacheLimit)))
    (hdrop : allowed (.remote (.store (.delete [s.profileKey claims.user])) (some s.cacheLimit))) :
    (s.forgetUser claims).Only allowed :=
  (only_revoke hrevoke).bind fun _ => (only_dropProfile hdrop).bind fun _ => trivial

/-- Registering a pair writes under its two keys, each time with a lifetime. -/
theorem only_register_of_pos (hclock : allowed .clock)
    (hset : ∀ key ∈ s.pairKeys pair.accessUuid pair.refreshUuid, ∀ value lifetime, 0 < lifetime →
      allowed (.remote (.store (.set key value lifetime)) (some s.cacheLimit))) :
    (s.register pair).Only allowed := by
  refine (only_clock hclock).bind fun now => Program.Only.orHalt_bind fun lifetime haccess => ?_
  refine Program.Only.bind (only_ask (hset _ (Issuer.mem_pairKeys.mpr (.inl rfl)) _ _
    (Issuer.remaining?_pos haccess))) fun written => ?_
  match written with
  | .ok () =>
    exact Program.Only.orHalt_bind fun lifetime' hrefresh => only_ask
      (hset _ (Issuer.mem_pairKeys.mpr (.inr rfl)) _ _ (Issuer.remaining?_pos hrefresh))
  | .error e => trivial

theorem only_register (hclock : allowed .clock)
    (hset : ∀ key ∈ s.pairKeys pair.accessUuid pair.refreshUuid, ∀ value lifetime,
      allowed (.remote (.store (.set key value lifetime)) (some s.cacheLimit))) :
    (s.register pair).Only allowed :=
  only_register_of_pos hclock fun key hkey value lifetime _ => hset key hkey value lifetime

theorem only_registerFresh (hclock : allowed .clock)
    (hset : ∀ key ∈ s.pairKeys pair.accessUuid pair.refreshUuid, ∀ value lifetime,
      allowed (.remote (.store (.set key value lifetime)) (some s.cacheLimit)))
    (hdelete : allowed (.remote (.store (.delete (s.pairKeys pair.accessUuid pair.refreshUuid)))
      (some s.cacheLimit))) : (s.registerFresh pair).Only allowed := by
  refine (only_register hclock hset).bind fun registered => ?_
  match registered with
  | .ok () => trivial
  | .error e => exact (only_discard hdelete).bind fun _ => trivial

theorem only_profileFor
    (hget : allowed (.remote (.store (.get (s.profileKey pair.user))) (some s.cacheLimit)))
    (hproject : allowed (.remote (.users (.project pair.user)) (some s.usersLimit)))
    (hset : ∀ value,
      allowed (.remote (.store (.set (s.profileKey pair.user) value 0)) (some s.cacheLimit)))
    (hdelete : allowed (.remote (.store (.delete (s.pairKeys pair.accessUuid pair.refreshUuid)))
      (some s.cacheLimit))) : (s.profileFor pair).Only allowed := by
  refine (only_profile hproject hset hget).bind fun snapshot => ?_
  match snapshot with
  | .ok snapshot => trivial
  | .error e => exact (only_discard hdelete).bind fun _ => trivial

theorem only_checkToken {token : String} {kind : Kind} (hclock : allowed .clock)
    (hget : ∀ key, allowed (.remote (.store (.get key)) (some s.cacheLimit))) :
    (s.checkToken token kind).Only allowed := by
  refine (only_clock hclock).bind fun now => ?_
  split
  · trivial
  · refine (only_get (hget _)).bind fun owner => ?_
    match owner with
    | .ok owner =>
      dsimp only
      split <;> trivial
    | .error .notFound => trivial
    | .error .timeout => trivial
    | .error (.unavailable reason) => trivial
    | .error .serialization => trivial

/-- Noting a login keeps its instant and drops the cached profile. -/
theorem only_noteLogin (hclock : allowed .clock)
    (hrecord : ∀ instant,
      allowed (.remote (.users (.recordLogin user instant)) (some s.usersLimit)))
    (hdrop : allowed (.remote (.store (.delete [s.profileKey user])) (some s.cacheLimit))) :
    (s.noteLogin user).Only allowed := by
  simp only [Issuer.noteLogin, Program.bind_eq]
  refine (only_clock hclock).bind fun now => ?_
  -- Which instant it is makes no difference, and it is not to be computed.
  generalize Time.Stamp.ofMillis? now = instant?
  refine Program.Only.bind (by simp) fun instant => ?_
  refine (only_askUsers (hrecord instant)).bind fun recorded => ?_
  match recorded with
  | .ok () => exact (only_dropProfile hdrop).bind fun _ => trivial
  | .error e => trivial

end SessionLedger.Session
