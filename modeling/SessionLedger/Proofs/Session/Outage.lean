import SessionLedger.Proofs.Program.Heeds
import SessionLedger.Proofs.Session.Calls

/-! What session operations make of an outage. When the cache or the store of users could not say
what an operation has asked for, the operation ends with an error of the service: it neither
succeeds nor blames its caller, and it does not halt. Steps whose outcome is of no interest do not
count: a snapshot that could not be cached, a login that could not be noted, a pair that could not
be discarded. -/
namespace SessionLedger
open Session Token User

/-! ## Exchanges -/

/-- The call looks up a user. -/
def User.Directory.Call.IsLookup : Directory.Call → Prop
  | .findByEmail _ | .findById _ | .project _ => True
  | .recordLogin .. => False

/-- Only a write is refused for its lifetime. -/
def Possible (x : Effect.interface.Exchange) : Prop :=
  ∀ c limit, x = ⟨.remote (.store c) limit, some (.error .lifetimeTooLong)⟩ →
    ∃ key value lifetime, c = .set key value lifetime

/-- An operation has not been told what it has to know: what is under a key, who a user is, or, in
a logout, whether the pair has been revoked. -/
inductive Outage : Operation → Effect.interface.Exchange → Prop
  | get {op key limit reply} (h : ∀ a, reply ≠ some (.ok a)) :
      Outage op ⟨.remote (.store (.get key)) limit, reply⟩
  | lookup {op} {c : Directory.Call} {limit reply} (hc : c.IsLookup)
      (h : ∀ a, reply ≠ some (.ok a)) (hfound : reply ≠ some (.error .notFound)) :
      Outage op ⟨.remote (.users c) limit, reply⟩
  | revoke {identity keys limit reply} (h : ∀ n, reply ≠ some (.ok n)) :
      Outage (.logout identity) ⟨.remote (.store (.delete keys)) limit, reply⟩

/-- The error is one of the service, not of the caller. -/
inductive Session.SessionError.IsOutage : SessionError → Prop
  | cache (cause : CacheFault) : IsOutage (.cache cause)
  | directory {cause : DirectoryError} (h : cause ≠ .notFound) : IsOutage (.directory cause)
  | late : IsOutage .deadlineExceeded

/-- The result is an error of the service. -/
def Failed {α : Type} (result : Except SessionError α) : Prop :=
  ∃ e : SessionError, result = .error e ∧ e.IsOutage

/-- The operation is one that a request may ask for. -/
def Session.Operation.IsRequested : Operation → Prop
  | .login .. | .refresh _ | .verify _ | .logout _ => True
  | _ => False

/-- An operation that a request has asked for has ended with an error of the service. -/
def Session.Operation.Fails : (op : Operation) → op.Result → Prop
  | .login .., result => Failed result
  | .refresh _, result => Failed result
  | .verify _, result => Failed result
  | .logout _, result => Failed result
  | _, _ => False

namespace Session
variable {s : Issuer} {op : Operation} {user : Int64} {pair : Pair} {α : Type}

/-- After an outage a part of an operation surely comes to a good value. -/
abbrev Heeds (op : Operation) (good : α → Prop) (p : Task α) : Prop :=
  p.Heeds Possible (Outage op) good

/-- A part of an operation comes to a good value, whatever the replies. -/
abbrev Surely (good : α → Prop) (p : Task α) : Prop :=
  p.Surely Possible good

/-- Whatever the reply to a call, it is no outage. -/
def Quiet (op : Operation) (c : Effect.Call) : Prop :=
  ∀ reply, ¬ Outage op ⟨c, reply⟩

theorem quiet_clock : Quiet op .clock := nofun

theorem quiet_uuid : Quiet op .uuid := nofun

theorem quiet_compare (c : Comparison) : Quiet op (.compare c) := nofun

theorem quiet_set (key value : String) (lifetime : Nat) (limit : Option Nat) :
    Quiet op (.remote (.store (.set key value lifetime)) limit) := nofun

theorem quiet_recordLogin (instant : Time.Stamp) (limit : Option Nat) :
    Quiet op (.remote (.users (.recordLogin user instant)) limit) := by
  intro reply h
  cases h with
  | lookup hc => exact hc

/-- Only a logout has to know whether something has been removed. -/
theorem quiet_delete (hop : ∀ identity, op ≠ .logout identity) (keys : List String)
    (limit : Option Nat) : Quiet op (.remote (.store (.delete keys)) limit) := by
  intro reply h
  cases h with
  | revoke => exact hop _ rfl

/-! ## Calls -/

/-- The cache could not be asked. -/
def CacheFault.IsOutage (e : CacheFault) : Prop :=
  e ≠ .notFound ∧ e ≠ .serialization

/-- The result of a call to the cache is that it could not be asked. -/
def Unasked (result : Except CacheFault α) : Prop :=
  ∃ e : CacheFault, result = .error e ∧ e.IsOutage

/-- What a call to the cache comes to when its reply is there. -/
def Cache.received {c : Store.Call} :
    Option (Except Store.Refusal c.Answer) → Task (Except CacheFault c.Answer)
  | some (.ok a) => .done (.ok a)
  | some (.error refusal) => (Program.orHalt (refused refusal)).bind fun e => .done (.error e)
  | none => .done (.error .timeout)

theorem Cache.ask_eq (limit : Option Nat) (c : Store.Call) :
    Cache.ask limit c = .call (.remote (.store c) limit) Cache.received := by
  refine congrArg (Program.call _) (funext fun reply => ?_)
  rcases reply with - | refusal | a <;> rfl

section
variable {c : Store.Call} {limit : Option Nat} {reply : Option (Except Store.Refusal c.Answer)}
variable (hset : ∀ key value lifetime, c ≠ .set key value lifetime)
include hset

/-- A refusal of a call that is no write is an error. -/
theorem refused_of_possible {refusal : Store.Refusal}
    (h : Possible ⟨.remote (.store c) limit, some (.error refusal)⟩) :
    ∃ e, Cache.refused refusal = some e ∧ e.IsOutage := by
  cases refusal with
  | offline => exact ⟨_, rfl, nofun, nofun⟩
  | writeRejected key => exact ⟨_, rfl, nofun, nofun⟩
  | deleteRejected => exact ⟨_, rfl, nofun, nofun⟩
  | lifetimeTooLong =>
    obtain ⟨key, value, lifetime, hc⟩ := h c limit rfl
    exact absurd hc (hset key value lifetime)

theorem surely_received (h : Possible ⟨.remote (.store c) limit, reply⟩)
    (hreply : ∀ a, reply ≠ some (.ok a)) : Surely Unasked (Cache.received reply) := by
  match reply with
  | some (.ok a) => exact absurd rfl (hreply a)
  | some (.error refusal) =>
    obtain ⟨e, he, houtage⟩ := refused_of_possible hset h
    rw [Cache.received, he]
    exact ⟨e, rfl, houtage⟩
  | none => exact ⟨.timeout, rfl, nofun, nofun⟩

/-- A call that is no write does not halt. -/
theorem surely_ask (limit : Option Nat) : Surely (fun _ => True) (Cache.ask limit c) := by
  rw [Cache.ask_eq]
  intro reply hreply
  match reply with
  | some (.ok a) => trivial
  | some (.error refusal) =>
    obtain ⟨e, he, -⟩ := refused_of_possible hset hreply
    rw [Cache.received, he]
    trivial
  | none => trivial

theorem heeds_ask (h : ∀ reply, Outage op ⟨.remote (.store c) limit, reply⟩ →
      ∀ a, reply ≠ some (.ok a)) : Heeds op Unasked (Cache.ask limit c) := by
  have honly : ∀ reply : Option (Except Store.Refusal c.Answer),
      (Cache.received reply).Only (Quiet op) := by
    intro reply
    match reply with
    | some (.ok a) => trivial
    | some (.error refusal) => exact Program.Only.bind (by simp) fun e => trivial
    | none => trivial
  rw [Cache.ask_eq]
  exact fun reply hreply =>
    ⟨(honly reply).heeds, fun hsign => surely_received hset hreply (h reply hsign)⟩

end

theorem heeds_get (limit : Nat) (key : String) : Heeds op Unasked (Cache.get limit key) := by
  have hsign : ∀ reply, Outage op ⟨.remote (.store (.get key)) (some limit), reply⟩ →
      ∀ a, reply ≠ some (.ok a) := by
    intro reply h
    cases h with
    | get h => exact h
  refine (heeds_ask (by simp) hsign).bind ?_ fun found => ?_
  · rintro _ ⟨e, rfl, he⟩
    exact ⟨e, rfl, he⟩
  · match found with
    | .ok (some value) => trivial
    | .ok none => trivial
    | .error e => trivial

theorem heeds_getSnapshot (limit : Nat) (key : String) :
    Heeds op Unasked (Cache.getSnapshot limit key) := by
  refine (heeds_get limit key).bind ?_ fun text => ?_
  · rintro _ ⟨e, rfl, he⟩
    exact ⟨e, rfl, he⟩
  · match text with
    | .ok text =>
      dsimp only
      split <;> trivial
    | .error e => trivial

/-- The store of users has not said who a user is. -/
def Unnamed (result : Except DirectoryError α) : Prop :=
  ∃ e : DirectoryError, result = .error e ∧ e ≠ .notFound

theorem heeds_askUsers (s : Issuer) {c : Directory.Call} :
    Heeds op Unnamed (s.askUsers c) := by
  intro reply _
  match reply with
  | some (.ok a) =>
    refine ⟨trivial, fun h => ?_⟩
    cases h with
    | lookup _ h => exact absurd rfl (h a)
  | some (.error e) =>
    refine ⟨trivial, fun h => ⟨e, rfl, ?_⟩⟩
    rintro rfl
    cases h with
    | lookup _ _ hfound => exact hfound rfl
  | none => exact ⟨trivial, fun _ => ⟨.timeout, rfl, nofun⟩⟩

/-! ## Profiles -/

theorem heeds_rebuildProfile (s : Issuer) (user : Int64) :
    Heeds op Failed (s.rebuildProfile user) := by
  refine (heeds_askUsers s).bind ?_ fun projection => ?_
  · rintro _ ⟨e, rfl, he⟩
    exact ⟨_, rfl, .directory he⟩
  · match projection with
    | .error e => trivial
    | .ok projection =>
      exact (only_ask (quiet_set _ _ _ _)).bind_heeds fun _ => trivial

theorem heeds_profile (s : Issuer) (user : Int64) : Heeds op Failed (s.profile user) := by
  refine (heeds_getSnapshot s.cacheLimit (s.profileKey user)).bind ?_ fun snapshot => ?_
  · rintro _ ⟨e, rfl, hfound, hreadable⟩
    cases e with
    | notFound => exact absurd rfl hfound
    | serialization => exact absurd rfl hreadable
    | timeout => exact ⟨_, rfl, .cache .timeout⟩
    | unavailable reason => exact ⟨_, rfl, .cache (.unavailable reason)⟩
  · match snapshot with
    | .ok snapshot => trivial
    | .error .notFound => exact heeds_rebuildProfile s user
    | .error .serialization => exact heeds_rebuildProfile s user
    | .error .timeout => trivial
    | .error (.unavailable reason) => trivial

/-! ## Tokens and pairs -/

theorem heeds_checkToken (s : Issuer) (token : String) (kind : Kind) :
    Heeds op (fun result => ∃ e, result = .error (.cache e)) (s.checkToken token kind) := by
  refine (only_clock quiet_clock).bind_heeds fun now => ?_
  split
  · trivial
  · refine (heeds_get _ _).bind ?_ fun owner => ?_
    · rintro _ ⟨e, rfl, hfound, -⟩
      cases e with
      | notFound => exact absurd rfl hfound
      | _ => exact ⟨_, rfl⟩
    · match owner with
      | .ok owner =>
        dsimp only
        split <;> trivial
      | .error .notFound => trivial
      | .error .timeout => trivial
      | .error (.unavailable reason) => trivial
      | .error .serialization => trivial

theorem surely_discard (s : Issuer) (pair : Pair) : Surely (fun _ => True) (s.discard pair) :=
  (surely_ask (by simp) (some s.cacheLimit)).bind fun _ _ => trivial

section
variable (hop : ∀ identity, op ≠ .logout identity)
include hop

theorem heeds_profileFor (s : Issuer) (pair : Pair) : Heeds op Failed (s.profileFor pair) := by
  refine (heeds_profile s pair.user).bind ?_ fun snapshot => ?_
  · rintro _ ⟨e, rfl, he⟩
    exact (surely_discard s pair).bind fun _ _ => ⟨e, rfl, he⟩
  · match snapshot with
    | .ok snapshot => trivial
    | .error e => exact (only_discard (quiet_delete hop _ _)).bind_heeds fun _ => trivial

theorem only_registerFresh_of_quiet (s : Issuer) (pair : Pair) :
    (s.registerFresh pair).Only (Quiet op) :=
  only_registerFresh quiet_clock (fun _ _ _ _ => quiet_set _ _ _ _) (quiet_delete hop _ _)

/-! ## Operations -/

theorem heeds_openFor (s : Issuer) (user : Int64) : Heeds op Failed (s.openFor user) := by
  refine (only_mint quiet_uuid quiet_clock).bind_heeds fun pair => ?_
  refine (only_registerFresh_of_quiet hop s pair).bind_heeds fun registered => ?_
  match registered with
  | .error e => trivial
  | .ok () =>
    refine (only_noteLogin quiet_clock (fun _ => quiet_recordLogin _ _)
      (quiet_delete hop _ _)).bind_heeds fun _ => ?_
    refine (heeds_profileFor hop s pair).bind ?_ fun snapshot => ?_
    · rintro _ ⟨e, rfl, he⟩
      exact ⟨e, rfl, he⟩
    · cases snapshot <;> trivial

theorem heeds_login (s : Issuer) (email password : String) :
    Heeds op Failed (s.login email password) := by
  unfold Issuer.login
  split
  · trivial
  · refine (heeds_askUsers s).bind ?_ fun found => ?_
    · rintro _ ⟨e, rfl, he⟩
      cases e with
      | notFound => exact absurd rfl he
      | timeout => exact ⟨_, rfl, .directory nofun⟩
      | database text => exact ⟨_, rfl, .directory nofun⟩
    · match found with
      | .error .notFound => exact fun _ _ => ⟨trivial, fun h => absurd h (quiet_compare _ _)⟩
      | .error .timeout => trivial
      | .error (.database text) => trivial
      | .ok row =>
        refine (only_checkPassword (quiet_compare _)).bind_heeds fun checked => ?_
        cases checked with
        | ok => exact heeds_openFor hop s row.id
        | error e => trivial

theorem heeds_retire (s : Issuer) (claims : Claims) (pair : Pair) (snapshot : Snapshot) :
    Heeds op Failed (s.retire claims pair snapshot) := by
  refine (only_revoke (quiet_delete hop _ _)).bind_heeds fun count => ?_
  match count with
  | .ok 0 => exact (only_discard (quiet_delete hop _ _)).bind_heeds fun _ => trivial
  | .ok (n + 1) => trivial
  | .error e => trivial

theorem heeds_rotate (s : Issuer) (claims : Claims) : Heeds op Failed (s.rotate claims) := by
  refine (heeds_askUsers s).bind ?_ fun found => ?_
  · rintro _ ⟨e, rfl, he⟩
    cases e with
    | notFound => exact absurd rfl he
    | timeout => exact ⟨_, rfl, .directory nofun⟩
    | database text => exact ⟨_, rfl, .directory nofun⟩
  · match found with
    | .error .notFound =>
      exact (only_forgetUser (quiet_delete hop _ _) (quiet_delete hop _ _)).bind_heeds
        fun _ => trivial
    | .error .timeout => trivial
    | .error (.database text) => trivial
    | .ok row =>
      refine (only_mint quiet_uuid quiet_clock).bind_heeds fun pair => ?_
      refine (only_registerFresh_of_quiet hop s pair).bind_heeds fun registered => ?_
      match registered with
      | .error e => trivial
      | .ok () =>
        refine (heeds_profileFor hop s pair).bind ?_ fun snapshot => ?_
        · rintro _ ⟨e, rfl, he⟩
          exact ⟨e, rfl, he⟩
        · match snapshot with
          | .error e => trivial
          | .ok snapshot => exact heeds_retire hop s claims pair snapshot

theorem heeds_refresh (s : Issuer) (token : String) : Heeds op Failed (s.refresh token) := by
  unfold Issuer.refresh
  split
  · trivial
  · refine (heeds_checkToken s token .refresh).bind ?_ fun checked => ?_
    · rintro _ ⟨e, rfl⟩
      exact ⟨_, rfl, .cache e⟩
    · match checked with
      | .error (.rejected reason) => trivial
      | .error (.cache e) => trivial
      | .ok claims => exact heeds_rotate hop s claims

end

theorem heeds_verify (s : Issuer) (token : String) : Heeds op Failed (s.verify token) := by
  unfold Issuer.verify
  split
  · trivial
  · refine (heeds_checkToken s token .access).bind ?_ fun checked => ?_
    · rintro _ ⟨e, rfl⟩
      exact ⟨_, rfl, .cache e⟩
    · match checked with
      | .error (.rejected reason) => trivial
      | .error (.cache e) => trivial
      | .ok claims =>
        refine (heeds_profile s claims.user).bind ?_ fun profile => ?_
        · rintro _ ⟨e, rfl, he⟩
          exact ⟨e, rfl, he⟩
        · cases profile <;> trivial

theorem heeds_logout (s : Issuer) (identity : Subject) : Heeds op Failed (s.logout identity) := by
  have hsign : ∀ reply, Outage op ⟨.remote (.store (.delete
      (s.pairKeys identity.accessUuid identity.refreshUuid))) (some s.cacheLimit), reply⟩ →
      ∀ n, reply ≠ some (.ok n) := by
    intro reply h
    cases h with
    | revoke h => exact h
  refine (heeds_ask (by simp) hsign).bind ?_ fun count => ?_
  · rintro _ ⟨e, rfl, -⟩
    exact ⟨_, rfl, .cache e⟩
  · cases count <;> trivial

/-- After an outage an operation that requests may ask for fails. -/
theorem Operation.heeds_task (s : Issuer) (hop : op.IsRequested) :
    Heeds op op.Fails (op.task s) := by
  cases op with
  | login email password => exact heeds_login (by simp) s email password
  | refresh token => exact heeds_refresh (by simp) s token
  | verify token => exact heeds_verify s token
  | logout identity => exact heeds_logout s identity
  | _ => exact hop.elim

end Session

end SessionLedger
