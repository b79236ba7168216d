import SessionLedger.Proofs.Session.Keys
import SessionLedger.Proofs.Token.Signer
import SessionLedger.Proofs.Traffic.Diary

/-! What a session operation may do, told from its own diary. An identifier is registered only by
the operation that has drawn it, once, before the operation removes anything, and only for a user
whom the caller has turned out to be; the access identifier comes before the refresh identifier.
Removed are only the pair of the operation's own minting, the pair that a verified refresh token
or the identity of a logout names, and the snapshot of the one user concerned. -/
namespace SessionLedger
open Session Token User Text

/-! ## Diaries -/

/-- The identifiers that have been drawn, in order. -/
def drawn (d : Diary) : List String :=
  d.filterMap fun
    | ⟨.uuid, uuid⟩ => some uuid
    | _ => none

/-- The keys of the writes that have been asked for, in order. -/
def written (d : Diary) : List String :=
  d.filterMap fun
    | ⟨.remote (.store (.set key _ _)) _, _⟩ => some key
    | _ => none

/-- The removals that have been carried out, in order, each with its keys and its count. -/
def removed (d : Diary) : List (List String × Nat) :=
  d.filterMap fun
    | ⟨.remote (.store (.delete keys)) _, some (.ok n)⟩ => some (keys, n)
    | _ => none

/-- The key-value store has carried out a call. -/
def Stored (d : Diary) (c : Store.Call) (a : c.Answer) : Prop :=
  ∃ limit, ⟨.remote (.store c) limit, some (.ok a)⟩ ∈ d

/-- No call has met a fault or a limit. -/
structure Calm (d : Diary) : Prop where
  store : ∀ {c : Store.Call} {limit} {reply : Option (Except Store.Refusal c.Answer)},
    ⟨.remote (.store c) limit, reply⟩ ∈ d → ∃ a, reply = some (.ok a)
  users : ∀ {c : Directory.Call} {limit} {reply : Option (Except DirectoryError c.Answer)},
    ⟨.remote (.users c) limit, reply⟩ ∈ d → ∃ a, reply = some (.ok a)

/-- The removal of the two keys of a pair, with its reply. -/
def Session.Issuer.removal (s : Issuer) (a r : String) (reply : Option (Except Store.Refusal Nat)) :
    Effect.interface.Exchange :=
  ⟨.remote (.store (.delete (s.pairKeys a r))) (some s.cacheLimit), reply⟩

/-! ## Tokens that have been checked -/

/-- A token of a kind has been read as claims. -/
def Reads (s : Issuer) (d : Diary) (token : String) (kind : Kind) (claims : Claims) : Prop :=
  ∃ now, ⟨.clock, now⟩ ∈ d ∧ s.signer.claimsOf now token kind = .ok claims

/-- A token has been read as claims and found registered to their user. -/
structure Accepted (s : Issuer) (d : Diary) (token : String) (kind : Kind) (claims : Claims) :
    Prop where
  reads : Reads s d token kind claims
  owner : ∃ owner, Stored d (.get (s.tokenKey kind (claims.uuid kind))) (some owner) ∧
    Decimal.signed64? owner = some claims.user

/-- Why a token has not been accepted. -/
inductive Unaccepted (s : Issuer) (d : Diary) (token : String) (kind : Kind) : CheckError → Prop
  | unreadable {now fault} (hnow : ⟨.clock, now⟩ ∈ d)
      (h : s.signer.claimsOf now token kind = .error fault) :
      Unaccepted s d token kind (.rejected (.ofSigner fault))
  | absent {claims} (hreads : Reads s d token kind claims)
      (h : Stored d (.get (s.tokenKey kind (claims.uuid kind))) none) :
      Unaccepted s d token kind (.rejected .notRegistered)
  | foreign {claims owner} (hreads : Reads s d token kind claims)
      (h : Stored d (.get (s.tokenKey kind (claims.uuid kind))) (some owner))
      (hne : Decimal.signed64? owner ≠ some claims.user) :
      Unaccepted s d token kind (.rejected .userMismatch)
  | disturbed {e} (h : ¬ Calm d) : Unaccepted s d token kind e

/-- The user whom the caller of an operation has turned out to be. -/
inductive Authenticated (s : Issuer) (d : Diary) : Operation → Int64 → Prop
  | login {email password row limit}
      (hrow : ⟨.remote (.users (.findByEmail email)) limit, some (.ok row)⟩ ∈ d)
      (hfits : ⟨.compare (.genuine password row.passwordHash), .ok .fits⟩ ∈ d) :
      Authenticated s d (.login email password) row.id
  | refresh {token claims} (h : Accepted s d token .refresh claims) :
      Authenticated s d (.refresh token) claims.user

/-- The user whose cached profile an operation may touch: the one that a login has found first of
all, the one that a token names, or the one that is asked about. -/
inductive Concerned (s : Issuer) (d : Diary) : Operation → Int64 → Prop
  | login {email password row limit}
      (hrow : [⟨.remote (.users (.findByEmail email)) limit, some (.ok row)⟩] <+: d) :
      Concerned s d (.login email password) row.id
  | refresh {token claims} (h : Reads s d token .refresh claims) :
      Concerned s d (.refresh token) claims.user
  | verify {token claims} (h : Reads s d token .access claims) :
      Concerned s d (.verify token) claims.user
  | profile (user : Int64) : Concerned s d (.profile user) user
  | dropProfile (user : Int64) : Concerned s d (.dropProfile user) user

/-! ## Pairs that have been minted -/

/-- An operation has minted a pair for the user whom its caller has turned out to be. -/
structure Mints (s : Issuer) (d : Diary) (op : Operation) (pair : Pair) : Prop where
  user : Authenticated s d op pair.user
  drawn : drawn d = [pair.accessUuid, pair.refreshUuid]
  minted : ∃ now, ⟨.clock, now⟩ ∈ d ∧
    s.pairAt? now ⟨pair.user, pair.accessUuid, pair.refreshUuid⟩ = some pair

/-- The write of an identifier of a pair has been carried out. -/
def Registered (s : Issuer) (d : Diary) (pair : Pair) (kind : Kind) (uuid : String) : Prop :=
  ∃ lifetime, Stored d (.set (s.tokenKey kind uuid) (Decimal.ofInt64 pair.user) lifetime) ()

/-- Both identifiers of a pair have been registered. -/
structure Registers (s : Issuer) (d : Diary) (pair : Pair) : Prop where
  access : Registered s d pair .access pair.accessUuid
  refresh : Registered s d pair .refresh pair.refreshUuid

/-- The lifetime lasts up to an expiry from an instant that has been read. -/
def Lasts (d : Diary) (expiry : Int64) (lifetime : Nat) : Prop :=
  ∃ now, ⟨.clock, now⟩ ∈ d ∧ Issuer.remaining? expiry now = some lifetime

/-- The access identifier of a pair has been registered, and the lifetime of the refresh identifier
lasts up to its expiry from the same instant. -/
def RegisteredFirst (s : Issuer) (d : Diary) (pair : Pair) (lifetime : Nat) : Prop :=
  ∃ now first, Stored d (.set (s.tokenKey .access pair.accessUuid)
      (Decimal.ofInt64 pair.user) first) () ∧
    Issuer.remaining? pair.accessExpiry now = some first ∧
    Issuer.remaining? pair.refreshExpiry now = some lifetime

/-! ## Calls and results -/

/-- What an operation may ask for next. -/
inductive May (s : Issuer) (op : Operation) (d : Diary) : Effect.Call → Prop
  | clock : May s op d .clock
  | uuid : May s op d .uuid
  | compare (c : Comparison) : May s op d (.compare c)
  | users (c : Directory.Call) (limit : Option Nat) : May s op d (.remote (.users c) limit)
  | get (key : String) (limit : Option Nat) : May s op d (.remote (.store (.get key)) limit)
  | cacheProfile {user} (snapshot : Snapshot) (limit : Option Nat) (h : Concerned s d op user) :
      May s op d (.remote (.store (.set (s.profileKey user) snapshot.encode 0)) limit)
  | registerAccess {pair lifetime limit} (h : Mints s d op pair) (hnew : written d = [])
      (hkept : removed d = []) (hlifetime : Lasts d pair.accessExpiry lifetime) :
      May s op d (.remote (.store (.set (s.tokenKey .access pair.accessUuid)
        (Decimal.ofInt64 pair.user) lifetime)) limit)
  | registerRefresh {pair lifetime limit} (h : Mints s d op pair)
      (haccess : RegisteredFirst s d pair lifetime)
      (hnew : written d = [s.tokenKey .access pair.accessUuid]) (hkept : removed d = []) :
      May s op d (.remote (.store (.set (s.tokenKey .refresh pair.refreshUuid)
        (Decimal.ofInt64 pair.user) lifetime)) limit)
  | dropProfile {user} (limit : Option Nat) (h : Concerned s d op user) :
      May s op d (.remote (.store (.delete [s.profileKey user])) limit)
  | discard {pair} (limit : Option Nat) (h : Mints s d op pair) :
      May s op d (.remote (.store (.delete (s.pairKeys pair.accessUuid pair.refreshUuid))) limit)
  | retire {token claims} (limit : Option Nat) (hop : op = .refresh token)
      (h : Accepted s d token .refresh claims) :
      May s op d
        (.remote (.store (.delete (s.pairKeys claims.accessUuid claims.refreshUuid))) limit)
  | revoke {identity} (limit : Option Nat) (hop : op = .logout identity) :
      May s op d
        (.remote (.store (.delete (s.pairKeys identity.accessUuid identity.refreshUuid))) limit)

/-- No pair is handed out along with the error. -/
def Session.SessionError.IsBare (e : SessionError) : Prop :=
  ∀ grant accessUuid refreshUuid cause, e ≠ .rotationIncomplete grant accessUuid refreshUuid cause

/-- A refresh is about to remove the old pair: its token has been accepted, a new pair has been
minted and registered, and nothing has been removed. -/
structure Rotates (s : Issuer) (d : Diary) (token : String) (claims : Claims) (pair : Pair) :
    Prop where
  accepted : Accepted s d token .refresh claims
  mints : Mints s d (.refresh token) pair
  registers : Registers s d pair
  kept : removed d = []

/-- Why a refresh has not been granted. -/
inductive Unrefreshed (s : Issuer) : Diary → String → SessionError → Prop
  | blank {d token} (h : isAllBlank token = true) : Unrefreshed s d token .missingCredentials
  | unaccepted {d token reason} (h : Unaccepted s d token .refresh (.rejected reason))
      (hdrawn : drawn d = []) (hkept : removed d = []) :
      Unrefreshed s d token (.refreshRejected reason)
  /-- Somebody else has removed the old pair, and the new pair is dropped. -/
  | outrun {d token claims pair reply} (h : Rotates s d token claims pair) :
      Unrefreshed s
        (d ++ [s.removal claims.accessUuid claims.refreshUuid (some (.ok 0)),
          s.removal pair.accessUuid pair.refreshUuid reply])
        token (.refreshRejected .notRegistered)
  /-- The old pair could not be removed, and the new pair is handed out all the same. -/
  | incomplete {d token claims pair snapshot reply cause} (h : Rotates s d token claims pair)
      (hreply : ∀ n, reply ≠ some (.ok n)) :
      Unrefreshed s (d ++ [s.removal claims.accessUuid claims.refreshUuid reply]) token
        (.rotationIncomplete (pair.grant snapshot) claims.accessUuid claims.refreshUuid cause)
  | disturbed {d token e} (h : ¬ Calm d) (hbare : e.IsBare) : Unrefreshed s d token e

/-- What the results of an operation tell about what it has done. -/
def Tells (s : Issuer) (d : Diary) : (op : Operation) → op.Result → Prop
  | .login email password, .ok grant =>
    ∃ pair snapshot, grant = pair.grant snapshot ∧ Mints s d (.login email password) pair ∧
      Registers s d pair
  | .refresh token, .ok grant =>
    ∃ pair snapshot claims d' n, grant = pair.grant snapshot ∧ Rotates s d' token claims pair ∧
      d = d' ++ [s.removal claims.accessUuid claims.refreshUuid (some (.ok (n + 1)))]
  | .refresh token, .error e => Unrefreshed s d token e
  | .verify token, .ok verified =>
    ∃ claims, Accepted s d token .access claims ∧
      verified.identity = ⟨claims.user, claims.accessUuid, claims.refreshUuid⟩
  | .logout identity, .ok () =>
    ∃ n, d = [s.removal identity.accessUuid identity.refreshUuid (some (.ok n))]
  | .logout _, .error _ => ¬ Calm d
  | _, _ => True

/-- The result of an operation hands out a grant, be it along with an error. -/
inductive Hands : (op : Operation) → op.Result → Grant → Prop
  | login {email password grant} : Hands (.login email password) (.ok grant) grant
  | refresh {token grant} : Hands (.refresh token) (.ok grant) grant
  | incomplete {token grant accessUuid refreshUuid cause} :
      Hands (.refresh token)
        (.error (.rotationIncomplete grant accessUuid refreshUuid cause)) grant

/-! ## How diaries go on -/

@[simp] theorem drawn_append (d e : Diary) : drawn (d ++ e) = drawn d ++ drawn e :=
  List.filterMap_append

@[simp] theorem written_append (d e : Diary) : written (d ++ e) = written d ++ written e :=
  List.filterMap_append

@[simp] theorem removed_append (d e : Diary) : removed (d ++ e) = removed d ++ removed e :=
  List.filterMap_append

/-- One diary goes on from another without drawing. -/
structure Continues (d d' : Diary) : Prop where
  isPrefix : d <+: d'
  drawn : drawn d' = drawn d

/-- One diary goes on from another without drawing, writing or removing anything. -/
structure Inquires (d d' : Diary) : Prop extends Continues d d' where
  written : written d' = written d
  removed : removed d' = removed d

variable {s : Issuer} {op : Operation} {d d' e : Diary} {pair : Pair}

theorem Continues.trans (h : Continues d d') (h' : Continues d' e) : Continues d e :=
  ⟨h.isPrefix.trans h'.isPrefix, h'.drawn.trans h.drawn⟩

theorem continues_append (h : drawn e = []) : Continues d (d ++ e) :=
  ⟨List.prefix_append d e, by simp [h]⟩

theorem continues_removal (a r : String) (reply : Option (Except Store.Refusal Nat)) :
    Continues d (d ++ [s.removal a r reply]) :=
  continues_append rfl

theorem Inquires.trans (h : Inquires d d') (h' : Inquires d' e) : Inquires d e :=
  ⟨h.toContinues.trans h'.toContinues, h'.written.trans h.written, h'.removed.trans h.removed⟩

theorem inquires_append (hdrawn : drawn e = []) (hwritten : written e = [])
    (hremoved : removed e = []) : Inquires d (d ++ e) :=
  ⟨continues_append hdrawn, by simp [hwritten], by simp [hremoved]⟩

theorem Calm.of_subset (h : Calm d') (hd : d ⊆ d') : Calm d :=
  ⟨fun hmem => h.store (hd hmem), fun hmem => h.users (hd hmem)⟩

theorem Stored.mono {c : Store.Call} {a : c.Answer} (h : Stored d c a) (hd : d <+: d') :
    Stored d' c a := by
  obtain ⟨limit, hmem⟩ := h
  exact ⟨limit, hd.subset hmem⟩

theorem Reads.mono {token : String} {kind : Kind} {claims : Claims}
    (h : Reads s d token kind claims) (hd : d <+: d') : Reads s d' token kind claims := by
  obtain ⟨now, hnow, hread⟩ := h
  exact ⟨now, hd.subset hnow, hread⟩

/-- A token is read as the same claims whenever it is read. -/
theorem Reads.unique {token : String} {kind kind' : Kind} {claims claims' : Claims}
    (h : Reads s d token kind claims) (h' : Reads s d' token kind' claims') :
    claims = claims' := by
  obtain ⟨now, -, hread⟩ := h
  obtain ⟨now', -, hread'⟩ := h'
  exact Signer.claimsOf_unique hread hread'

theorem Accepted.mono {token : String} {kind : Kind} {claims : Claims}
    (h : Accepted s d token kind claims) (hd : d <+: d') : Accepted s d' token kind claims := by
  obtain ⟨hreads, owner, hstored, howner⟩ := h
  exact ⟨hreads.mono hd, owner, hstored.mono hd, howner⟩

theorem Authenticated.mono {user : Int64} (h : Authenticated s d op user) (hd : d <+: d') :
    Authenticated s d' op user := by
  cases h with
  | login hrow hfits => exact .login (hd.subset hrow) (hd.subset hfits)
  | refresh h => exact .refresh (h.mono hd)

theorem Concerned.mono {user : Int64} (h : Concerned s d op user) (hd : d <+: d') :
    Concerned s d' op user := by
  cases h with
  | login hrow => exact .login (hrow.trans hd)
  | refresh h => exact .refresh (h.mono hd)
  | verify h => exact .verify (h.mono hd)
  | profile user => exact .profile user
  | dropProfile user => exact .dropProfile user

/-- An operation is concerned with one user. -/
theorem Concerned.unique {user user' : Int64} (h : Concerned s d op user)
    (h' : Concerned s d op user') : user = user' := by
  cases h with
  | login hrow =>
    cases h' with
    | login hrow' =>
      obtain ⟨rest, rfl⟩ := hrow
      cases (List.cons_prefix_cons.mp hrow').1
      rfl
  | refresh h =>
    cases h' with
    | refresh h' => rw [h.unique h']
  | verify h =>
    cases h' with
    | verify h' => rw [h.unique h']
  | profile =>
    cases h'
    rfl
  | dropProfile =>
    cases h'
    rfl

theorem Mints.mono (h : Mints s d op pair) (hd : Continues d d') : Mints s d' op pair := by
  obtain ⟨huser, hdrawn, now, hnow, hminted⟩ := h
  exact ⟨huser.mono hd.isPrefix, hd.drawn.trans hdrawn, now, hd.isPrefix.subset hnow, hminted⟩

theorem Registered.mono {kind : Kind} {uuid : String} (h : Registered s d pair kind uuid)
    (hd : d <+: d') : Registered s d' pair kind uuid := by
  obtain ⟨lifetime, hstored⟩ := h
  exact ⟨lifetime, hstored.mono hd⟩

theorem RegisteredFirst.registered {lifetime : Nat} (h : RegisteredFirst s d pair lifetime) :
    Registered s d pair .access pair.accessUuid := by
  obtain ⟨-, first, hstored, -⟩ := h
  exact ⟨first, hstored⟩

theorem Registers.mono (h : Registers s d pair) (hd : d <+: d') : Registers s d' pair :=
  ⟨h.access.mono hd, h.refresh.mono hd⟩

theorem Registers.stored {key : String} (h : Registers s d pair)
    (hkey : key ∈ s.pairKeys pair.accessUuid pair.refreshUuid) :
    ∃ lifetime, Stored d (.set key (Decimal.ofInt64 pair.user) lifetime) () := by
  rcases Issuer.mem_pairKeys.mp hkey with rfl | rfl
  · exact h.access
  · exact h.refresh

theorem Registers.mem_written {key : String} (h : Registers s d pair)
    (hkey : key ∈ s.pairKeys pair.accessUuid pair.refreshUuid) : key ∈ written d := by
  obtain ⟨lifetime, limit, hmem⟩ := h.stored hkey
  exact List.mem_filterMap.mpr ⟨_, hmem, rfl⟩

/-- What is handed out has been minted and registered. -/
theorem Tells.hands {result : op.Result} {grant : Grant} (h : Tells s d op result)
    (hgrant : Hands op result grant) :
    ∃ pair snapshot, grant = pair.grant snapshot ∧ Mints s d op pair ∧ Registers s d pair := by
  cases hgrant with
  | login => exact h
  | refresh =>
    obtain ⟨pair, snapshot, claims, d', n, hpair, hrotates, rfl⟩ := h
    have hd := continues_removal (s := s) (d := d') claims.accessUuid claims.refreshUuid
      (some (.ok (n + 1)))
    exact ⟨pair, snapshot, hpair, hrotates.mints.mono hd, hrotates.registers.mono hd.isPrefix⟩
  | incomplete =>
    cases h with
    | @incomplete d' _ claims pair snapshot reply cause hrotates hreply =>
      have hd := continues_removal (s := s) (d := d') claims.accessUuid claims.refreshUuid reply
      exact ⟨pair, snapshot, rfl, hrotates.mints.mono hd, hrotates.registers.mono hd.isPrefix⟩
    | disturbed _ hbare => exact absurd rfl (hbare _ _ _ _)

/-- A refresh that hands out a pair has accepted its token. -/
theorem Tells.accepted {token : String} {result : Except SessionError Grant} {grant : Grant}
    (h : Tells s d (.refresh token) result) (hgrant : Hands (.refresh token) result grant) :
    ∃ claims, Accepted s d token .refresh claims := by
  cases hgrant with
  | refresh =>
    obtain ⟨pair, snapshot, claims, d', n, -, hrotates, rfl⟩ := h
    exact ⟨claims, hrotates.accepted.mono (List.prefix_append _ _)⟩
  | incomplete =>
    cases h with
    | incomplete hrotates => exact ⟨_, hrotates.accepted.mono (List.prefix_append _ _)⟩
    | disturbed _ hbare => exact absurd rfl (hbare _ _ _ _)

end SessionLedger
