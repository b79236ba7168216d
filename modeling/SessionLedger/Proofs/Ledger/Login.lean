import SessionLedger.Proofs.Ledger.Profile
import SessionLedger.Proofs.Ledger.Window
import SessionLedger.Proofs.World.Sound

/-! A login from end to end. Where nothing goes wrong, a user with the right password gets a pair of
tokens that are read as theirs and registered to them; the instant is kept in their row, and the
profile that they get is that of the row with it, whatever was cached before. The last is a matter
of order: the row is changed first, then the cached profile is dropped, and only then a profile is
looked up. -/
namespace SessionLedger
open Session Token User Text

/-! ## Instants -/

/-- An instant that is no later than a second of the calendar is one of its instants. -/
theorem Time.exists_ofMillis? {millis : Nat} {second : Int} (h : IsStampSecond second)
    (hle : (millis / 1000 : Nat) ≤ second) : ∃ t, Stamp.ofMillis? millis = some t := by
  have hday : IsStampDay (millis / 86400000 : Nat) := by
    simp only [IsStampSecond, IsStampDay, firstYear, lastYear, firstDay] at h ⊢
    omega
  rw [Stamp.ofMillis?, Stamp.of?, dif_pos ⟨hday, by omega, by omega, by omega⟩]
  exact ⟨_, rfl⟩

namespace World
variable {s : Issuer} {w : World} {pair : Pair} {user : Int64} {a : Account}

/-! ## The parts of a login -/

/-- The surroundings after a pair has been minted. -/
def afterMint (w : World) : World :=
  { w with drawn := w.drawn + 2 }

/-- The surroundings after a pair has been registered with certain lifetimes. -/
def afterRegister (s : Issuer) (w : World) (pair : Pair) (lifetime : Kind → Nat) : World :=
  let entries := w.store.entries.insert (s.tokenKey .access pair.accessUuid)
    ⟨Decimal.ofInt64 pair.user,
      Store.State.expiryAt (w.clock + w.store.latency) (lifetime .access)⟩
  (w.wrote entries).wrote (entries.insert (s.tokenKey .refresh pair.refreshUuid)
    ⟨Decimal.ofInt64 pair.user,
      Store.State.expiryAt (w.clock + w.store.latency + w.store.latency) (lifetime .refresh)⟩)

/-- The surroundings after a login has been kept and the cached profile dropped. -/
def afterNote (s : Issuer) (w : World) (user : Int64) (instant : Time.Stamp) : World :=
  (w.consulted (.recordLogin user instant)).wrote (w.store.entries.erase (s.profileKey user))

/-- The surroundings after a profile has been looked up that was not cached. -/
def afterProfile (s : Issuer) (w : World) (user : Int64) (snapshot : Snapshot) : World :=
  ((w.wrote w.store.entries).consulted (.project user)).wrote
    (w.store.entries.insert (s.profileKey user) ⟨snapshot.encode, none⟩)

/-- The surroundings after a pair has been minted and registered. -/
def afterPair (s : Issuer) (w : World) (pair : Pair) : World :=
  afterRegister s w.afterMint pair fun kind => (s.ttl kind).toNat

/-- The surroundings after a session has been opened. -/
def afterOpening (s : Issuer) (w : World) (pair : Pair) (instant : Time.Stamp)
    (snapshot : Snapshot) : World :=
  ((w.afterPair s pair).afterNote s pair.user instant).afterProfile s pair.user snapshot

section
variable (hw : w.IsSound s)
include hw

theorem run_registerFresh {lifetime : Kind → Nat}
    (hlifetime : ∀ kind, Issuer.remaining? (pair.expiry kind) w.clock = some (lifetime kind)) :
    run none (s.registerFresh pair) w =
      (w.afterRegister s pair lifetime, .finished (.ok ())) := by
  have hregister : run none (s.register pair) w =
      (w.afterRegister s pair lifetime, .finished (.ok ())) := by
    have hcounted : Issuer.remaining? pair.accessExpiry w.clock = some (lifetime .access) :=
      hlifetime .access
    simp only [Issuer.register, Program.bind_eq]
    rw [run_clock_bind, run_orHalt_bind hcounted,
      run_bind (run_set hw _ _ (Issuer.remaining?_le (hlifetime .access)))]
    exact (run_orHalt_bind (hlifetime .refresh)).trans
      (run_set (hw.wrote _) _ _ (Issuer.remaining?_le (hlifetime .refresh)))
  rw [Issuer.registerFresh, Program.bind_eq, run_bind hregister]
  rfl

theorem run_noteLogin {instant : Time.Stamp} (ha : w.users.find? user = some a)
    (hinstant : Time.Stamp.ofMillis? w.clock = some instant) :
    run none (s.noteLogin user) w = (w.afterNote s user instant, .finished ()) := by
  have hrecorded : run none (s.askUsers (.recordLogin user instant)) w =
      (w.consulted (.recordLogin user instant), .finished (.ok ())) := by
    rw [run_askUsers _ hw.usersInLimit, Directory.answer_recordLogin instant (hw.users _) ha]
  have hdropped := run_dropProfile (hw.consulted (.recordLogin user instant)) user
  simp only [Issuer.noteLogin, Program.bind_eq]
  rw [run_clock_bind, run_orHalt_bind hinstant, run_bind hrecorded]
  exact run_bind hdropped

theorem isSound_afterMint : w.afterMint.IsSound s :=
  ⟨hw.store, hw.storeInLimit, hw.users, hw.usersInLimit⟩

theorem isSound_afterPair (pair : Pair) : (w.afterPair s pair).IsSound s :=
  ((isSound_afterMint hw).wrote _).wrote _

theorem isSound_afterNote (instant : Time.Stamp) : (w.afterNote s user instant).IsSound s :=
  (hw.consulted _).wrote _

theorem run_profileFor (ha : w.users.find? pair.user = some a)
    (hnone : w.store.entries.find? (s.profileKey pair.user) = none) :
    run none (s.profileFor pair) w =
      (w.afterProfile s pair.user (.ofProjection a.projection),
        .finished (.ok (.ofProjection a.projection))) := by
  rw [Issuer.profileFor, Program.bind_eq, run_bind (run_profile_of_find?_eq_none hw ha hnone)]
  rfl

/-- A session that is opened for a user registers the pair that is minted for them, keeps the login,
and hands out the profile of the row that then is theirs. -/
theorem run_openFor {instant : Time.Stamp} (hpos : ∀ kind, 0 < s.ttl kind)
    (hpair : s.pairAt? w.clock ⟨user, w.supply w.drawn, w.supply (w.drawn + 1)⟩ = some pair)
    (hinstant : Time.Stamp.ofMillis? (w.clock + 2 * w.store.latency) = some instant)
    (ha : w.users.find? user = some a) :
    run none (s.openFor user) w =
      (w.afterOpening s pair instant (.ofProjection (a.loggedIn instant).projection),
        .finished (.ok (pair.grant (.ofProjection (a.loggedIn instant).projection)))) := by
  obtain rfl : user = pair.user := congrArg Subject.user (Issuer.pairAt?_subject hpair)
  have hmint : run none (s.mint pair.user) w = (w.afterMint, .finished pair) := by
    have hdrawn : run none (s.mint pair.user) w = run none (Program.orHalt
        (s.pairAt? w.clock ⟨pair.user, w.supply w.drawn, w.supply (w.drawn + 1)⟩))
        w.afterMint := rfl
    rw [hdrawn, hpair]
    rfl
  have hregister : run none (s.registerFresh pair) w.afterMint =
      (w.afterPair s pair, .finished (.ok ())) :=
    run_registerFresh (isSound_afterMint hw)
      fun kind => Issuer.remaining?_of_pairAt? hpair (hpos kind)
  have hregistered := isSound_afterPair hw pair
  have hclock : (w.afterPair s pair).clock = w.clock + 2 * w.store.latency := by
    simp only [afterPair, afterRegister, afterMint, clock_wrote, latency_wrote]
    omega
  have hnote := run_noteLogin hregistered ha (hclock ▸ hinstant)
  -- The profile is not cached any more, and the row is the one with the login.
  have hnone : ((w.afterPair s pair).afterNote s pair.user instant).store.entries.find?
      (s.profileKey pair.user) = none := by
    rw [afterNote, entries_wrote, Store.Table.find?_erase, if_pos rfl]
  have hfound := Directory.find?_answer_recordLogin instant (hregistered.users _) ha
  have hprofile := run_profileFor (isSound_afterNote hregistered instant) hfound hnone
  simp only [Issuer.openFor, Program.bind_eq]
  rw [run_bind hmint, run_bind hregister, run_bind hnote, run_bind hprofile]
  rfl

theorem isSound_afterOpening (instant : Time.Stamp) (snapshot : Snapshot) :
    (w.afterOpening s pair instant snapshot).IsSound s :=
  (((isSound_afterNote (isSound_afterPair hw pair) instant).wrote _).consulted _).wrote _

end

/-! ## What is left of a login -/

section
variable (w : World) (pair : Pair) (instant : Time.Stamp) (snapshot : Snapshot)

theorem clock_afterOpening :
    (w.afterOpening s pair instant snapshot).clock =
      w.clock + 2 * w.users.latency + 5 * w.store.latency := by
  simp only [afterOpening, afterProfile, afterNote, afterPair, afterRegister, afterMint,
    clock_wrote, latency_wrote, users_wrote, clock_consulted, store_consulted, latency_consulted]
  omega

/-- The profile is cached for good. -/
theorem find?_afterOpening_profileKey :
    (w.afterOpening s pair instant snapshot).store.entries.find? (s.profileKey pair.user) =
      some ⟨snapshot.encode, none⟩ := by
  simp only [afterOpening, afterProfile, entries_wrote]
  rw [Store.Table.find?_insert, if_pos rfl]

/-- Under every other key there is what has been registered there, or what was there before. -/
theorem find?_afterOpening {key : String} (hkey : key ≠ s.profileKey pair.user) :
    (w.afterOpening s pair instant snapshot).store.entries.find? key =
      if key = s.tokenKey .refresh pair.refreshUuid then
        some ⟨Decimal.ofInt64 pair.user,
          Store.State.expiryAt (w.clock + w.store.latency + w.store.latency) s.refreshTtl.toNat⟩
      else if key = s.tokenKey .access pair.accessUuid then
        some ⟨Decimal.ofInt64 pair.user,
          Store.State.expiryAt (w.clock + w.store.latency) s.accessTtl.toNat⟩
      else w.store.entries.find? key := by
  simp only [afterOpening, afterProfile, afterNote, afterPair, afterRegister, afterMint,
    entries_wrote]
  rw [Store.Table.find?_insert, if_neg hkey, Store.Table.find?_erase, if_neg hkey,
    Store.Table.find?_insert, Store.Table.find?_insert]
  rfl

/-- Each identifier of the pair is registered for the lifetime of its token. -/
theorem find?_afterOpening_tokenKey (hs : s.PrefixesApart) (kind : Kind) :
    ∃ written, w.clock + w.store.latency ≤ written ∧
      (w.afterOpening s pair instant snapshot).store.entries.find?
          (s.tokenKey kind (pair.uuid kind)) =
        some ⟨Decimal.ofInt64 pair.user, Store.State.expiryAt written (s.ttl kind).toNat⟩ := by
  have hkey : ∀ kind uuid, s.tokenKey kind uuid ≠ s.profileKey pair.user := fun kind uuid heq =>
    hs.not_isTokenKey_profileKey pair.user (heq ▸ s.isTokenKey_tokenKey kind uuid)
  have hapart : s.tokenKey .access pair.accessUuid ≠ s.tokenKey .refresh pair.refreshUuid :=
    fun heq => Kind.noConfusion (hs.tokenKey_inj.mp heq).1
  cases kind with
  | access =>
    refine ⟨w.clock + w.store.latency, Nat.le_refl _, ?_⟩
    rw [Pair.uuid, find?_afterOpening _ _ _ _ (hkey _ _), if_neg hapart, if_pos rfl, Issuer.ttl]
  | refresh =>
    refine ⟨w.clock + w.store.latency + w.store.latency, Nat.le_add_right _ _, ?_⟩
    rw [Pair.uuid, find?_afterOpening _ _ _ _ (hkey _ _), if_pos rfl, Issuer.ttl]

/-- No other key has been touched. -/
theorem find?_afterOpening_of_ne {key : String} (hprofile : key ≠ s.profileKey pair.user)
    (hkey : ∀ kind, key ≠ s.tokenKey kind (pair.uuid kind)) :
    (w.afterOpening s pair instant snapshot).store.entries.find? key =
      w.store.entries.find? key := by
  have haccess : key ≠ s.tokenKey .access pair.accessUuid := hkey .access
  have hrefresh : key ≠ s.tokenKey .refresh pair.refreshUuid := hkey .refresh
  rw [find?_afterOpening _ _ _ _ hprofile, if_neg hrefresh, if_neg haccess]

/-- Of the rows only that of the user has changed. -/
theorem find?_users_afterOpening (user : Int64) :
    (w.afterOpening s pair instant snapshot).users.find? user =
      (w.users.answer (.recordLogin pair.user instant)).1.find? user := by
  simp only [afterOpening, afterProfile, afterNote, afterPair, afterRegister, afterMint,
    users_wrote, users_consulted]
  exact Directory.find?_answer fun _ h => Directory.Call.noConfusion h

end

/-! ## Deadlines -/

/-- Passwords are compared before a session is opened, not then. -/
theorem only_openFor_of_comparesNothing (s : Issuer) (user : Int64) :
    (s.openFor user).Only Effect.Call.ComparesNothing := by
  refine (only_mint trivial trivial).bind fun pair => ?_
  refine (only_registerFresh trivial (fun _ _ _ _ => trivial) trivial).bind fun registered => ?_
  cases registered with
  | error e => trivial
  | ok a =>
    refine (only_noteLogin trivial (fun _ => trivial) trivial).bind fun _ => ?_
    refine (only_profileFor trivial trivial (fun _ => trivial) trivial).bind fun profile => ?_
    cases profile <;> trivial

theorem only_verify_of_comparesNothing (s : Issuer) (token : String) :
    (s.verify token).Only Effect.Call.ComparesNothing := by
  unfold Issuer.verify
  split
  · trivial
  · refine (only_checkToken trivial fun _ => trivial).bind fun checked => ?_
    match checked with
    | .error (.rejected reason) => trivial
    | .error (.cache e) => trivial
    | .ok claims =>
      refine (only_profile trivial (fun _ => trivial) trivial).bind fun profile => ?_
      cases profile <;> trivial

end World

/-! ## Logins -/

/-- The token of a kind. -/
def Session.Grant.token (grant : Grant) : Kind → String
  | .access => grant.accessToken
  | .refresh => grant.refreshToken

/-- The expiry of the token of a kind. -/
def Session.Grant.expiry (grant : Grant) : Kind → Int64
  | .access => grant.accessExpiry
  | .refresh => grant.refreshExpiry

@[simp] theorem Session.Pair.token_grant (p : Pair) (user : Snapshot) (kind : Kind) :
    (p.grant user).token kind = p.token kind := by
  cases kind <;> rfl

@[simp] theorem Session.Pair.expiry_grant (p : Pair) (user : Snapshot) (kind : Kind) :
    (p.grant user).expiry kind = p.expiry kind := by
  cases kind <;> rfl

namespace World
variable {s : Issuer} {w w' : World} {email password : String} {a : Account} {grant : Grant}

/-- The identifiers that are drawn next, as those of a pair. -/
def nextUuid (w : World) : Kind → String
  | .access => w.supply w.drawn
  | .refresh => w.supply (w.drawn + 1)

/-- The instant at which a login mints its pair: when the row of the user has been found. -/
def mintClock (w : World) : Nat :=
  w.clock + w.users.latency

/-- A password fits the row that is found by an email, and nothing gets into the way of a login:
there are no faults, no call is given up, the deadline does not come, and what is minted lasts
longer than the login. -/
structure Admits (s : Issuer) (w : World) (email password : String) (a : Account) : Prop where
  found : w.users.accounts.find? (fun b => b.user.email == email) = some a
  accepted : w.outcome (.genuine password a.user.passwordHash) = .ok .fits
  positive : 0 < a.user.id
  /-- The row that is found is the one of its identifier. -/
  ascending : Directory.IsAscending w.users.accounts
  draws : w.DrawsApart
  sound : w.IsSound s
  comparedInTime : w.users.latency < s.requestLimit
  endsInTime : 3 * w.users.latency + 5 * w.store.latency ≤ s.requestLimit
  /-- From the minting to the end less time passes than a lifetime. -/
  lasting : ∀ kind, ((2 * w.users.latency + 5 * w.store.latency : Nat) : Int) < 1000 * s.ttl kind
  /-- The expiries lie in the calendar. -/
  calendar : ∀ kind, Time.IsStampSecond ((w.mintClock / 1000 : Nat) + s.ttl kind)

/-- What a login of a user has come to. -/
structure LogsIn (s : Issuer) (w : World) (a : Account) (w' : World) (grant : Grant) : Prop where
  differ : w.nextUuid .access ≠ w.nextUuid .refresh
  expiry : ∀ kind, (grant.expiry kind).toInt = (w.mintClock / 1000 : Nat) + s.ttl kind
  /-- Until it expires, a token is read as claims of its kind. -/
  reads : ∀ kind (now : Nat), (now / 1000 : Nat) ≤ (grant.expiry kind).toInt →
    s.signer.claimsOf now (grant.token kind) kind =
      .ok ⟨a.user.id, w.nextUuid .access, w.nextUuid .refresh,
        Int64.ofInt (w.mintClock / 1000 : Nat), grant.expiry kind, kind⟩
  unexpired : ∀ kind, (w'.clock / 1000 : Nat) ≤ (grant.expiry kind).toInt
  registered : ∀ kind, w'.store.peek? w'.clock (s.tokenKey kind (w.nextUuid kind)) =
    some (Decimal.ofInt64 a.user.id)
  /-- Every other entry is the one that was there before, apart from the cached profile. -/
  others : ∀ key, (∀ kind, key ≠ s.tokenKey kind (w.nextUuid kind)) →
    key ≠ s.profileKey a.user.id → w'.store.entries.find? key = w.store.entries.find? key
  /-- The login is kept in the row with the instant at which that was asked for. -/
  row : ∃ instant, Time.Stamp.ofMillis? (w.mintClock + 2 * w.store.latency) = some instant ∧
    w'.users.find? a.user.id = some (a.loggedIn instant) ∧
    grant.user = Snapshot.ofProjection (a.loggedIn instant).projection
  otherRows : ∀ user, user ≠ a.user.id → w'.users.find? user = w.users.find? user
  ascending : Directory.IsAscending w'.users.accounts
  cached : ∃ text, w'.store.entries.find? (s.profileKey a.user.id) = some ⟨text, none⟩ ∧
    Snapshot.decode? text = some grant.user
  verified : ∃ w'', w'.perform s (.verify grant.accessToken) = (w'', some (.ok
    ⟨⟨a.user.id, w.nextUuid .access, w.nextUuid .refresh⟩, grant.user⟩))

/-- The surroundings after a login. -/
def afterLogin (s : Issuer) (w : World) (email : String) (pair : Pair) (instant : Time.Stamp)
    (snapshot : Snapshot) : World :=
  (w.consulted (.findByEmail email)).afterOpening s pair instant snapshot

theorem clock_afterLogin (email : String) (pair : Pair) (instant : Time.Stamp)
    (snapshot : Snapshot) :
    (w.afterLogin s email pair instant snapshot).clock =
      w.mintClock + 2 * w.users.latency + 5 * w.store.latency := by
  rw [afterLogin, clock_afterOpening, latency_consulted, store_consulted, clock_consulted,
    mintClock]

theorem latency_afterLogin (email : String) (pair : Pair) (instant : Time.Stamp)
    (snapshot : Snapshot) :
    (w.afterLogin s email pair instant snapshot).store.latency = w.store.latency := rfl

namespace Admits
variable {pair : Pair} {instant : Time.Stamp}

theorem ttl_pos (h : w.Admits s email password a) (kind : Kind) : 0 < s.ttl kind := by
  have hlasting := h.lasting kind
  omega

theorem exists_pair (h : w.Admits s email password a) :
    ∃ pair, s.pairAt? w.mintClock ⟨a.user.id, w.nextUuid .access, w.nextUuid .refresh⟩ =
      some pair :=
  Issuer.exists_pairAt?_iff.mpr h.calendar

/-- The instant that is kept lies in the calendar, since the expiries do. -/
theorem exists_instant (h : w.Admits s email password a) :
    ∃ instant, Time.Stamp.ofMillis? (w.mintClock + 2 * w.store.latency) = some instant := by
  refine Time.exists_ofMillis? (h.calendar .access) ?_
  have hlasting := h.lasting .access
  omega

/-- The row that is found by the email is found by its identifier, too. -/
theorem find? (h : w.Admits s email password a) (email' : String) :
    (w.users.answer (.findByEmail email')).1.find? a.user.id = some a := by
  rw [Directory.find?_answer fun _ heq => Directory.Call.noConfusion heq]
  exact h.ascending.find?_of_mem (List.mem_of_find?_eq_some h.found)

section
variable (h : w.Admits s email password a)
variable (hpair : s.pairAt? w.mintClock
  ⟨a.user.id, w.nextUuid .access, w.nextUuid .refresh⟩ = some pair)
variable (hinstant : Time.Stamp.ofMillis? (w.mintClock + 2 * w.store.latency) = some instant)
include h hpair hinstant

/-- Such a login succeeds, if the email is not blank and the password is not empty. -/
theorem perform_login (hemail : isAllBlank email = false) (hpassword : password ≠ "") :
    w.perform s (.login email password) =
      (w.afterLogin s email pair instant (.ofProjection (a.loggedIn instant).projection),
        some (.ok (pair.grant (.ofProjection (a.loggedIn instant).projection)))) := by
  have hlookup : run none (s.askUsers (.findByEmail email)) w =
      (w.consulted (.findByEmail email), .finished (.ok a.user)) := by
    rw [run_askUsers _ h.sound.usersInLimit,
      Directory.answer_findByEmail (h.sound.users _) h.found]
  have hopen := run_openFor (h.sound.consulted (.findByEmail email)) h.ttl_pos hpair hinstant
    (h.find? email)
  -- The deadline comes neither before the row is found nor before the session is opened.
  have hcompared : (w.consulted (.findByEmail email)).clock < w.clock + s.requestLimit :=
    Nat.add_lt_add_left h.comparedInTime _
  have hends : (w.afterLogin s email pair instant
      (.ofProjection (a.loggedIn instant).projection)).clock ≤ w.clock + s.requestLimit := by
    have hlimit := h.endsInTime
    rw [clock_afterLogin, mintClock]
    omega
  have hlookup' := run_of_clock_le (only_askUsers trivial) hlookup (Nat.le_of_lt hcompared)
  have hopen' := run_of_clock_le (only_openFor_of_comparesNothing s _) hopen hends
  have hcheck := run_checkPassword password a.user.passwordHash hcompared
  have hnamed : (isAllBlank email || password.isEmpty) = false := by
    simpa [hemail] using hpassword
  refine perform_of_finished rfl ?_
  simp only [Operation.task, Issuer.login, hnamed, Bool.false_eq_true, if_false, Program.bind_eq]
  rw [run_bind hlookup', run_bind hcheck,
    show (w.consulted (.findByEmail email)).outcome (.genuine password a.user.passwordHash) =
      .ok .fits from h.accepted]
  exact hopen'

omit hinstant

omit h in
theorem user_eq : pair.user = a.user.id :=
  (congrArg Subject.user (Issuer.pairAt?_subject hpair)).symm

omit h in
theorem uuid_eq (kind : Kind) : pair.uuid kind = w.nextUuid kind := by
  obtain ⟨-, haccess, hrefresh⟩ := Subject.mk.inj (Issuer.pairAt?_subject hpair)
  cases kind with
  | access => exact haccess.symm
  | refresh => exact hrefresh.symm

/-- The tokens have not expired yet when the login is over. -/
theorem unexpired (kind : Kind) {now : Nat}
    (hnow : now ≤ w.mintClock + 2 * w.users.latency + 5 * w.store.latency) :
    (now / 1000 : Nat) ≤ (pair.expiry kind).toInt := by
  have hlasting := h.lasting kind
  have hexpiry := Issuer.pairAt?_expiry hpair kind
  omega

/-- Until then a token is read as claims of its kind. -/
theorem reads (kind : Kind) {now : Nat} (hnow : (now / 1000 : Nat) ≤ (pair.expiry kind).toInt) :
    s.signer.claimsOf now (pair.token kind) kind =
      .ok ⟨a.user.id, w.nextUuid .access, w.nextUuid .refresh,
        Int64.ofInt (w.mintClock / 1000 : Nat), pair.expiry kind, kind⟩ := by
  have huser := user_eq hpair
  have haccess : pair.accessUuid = w.nextUuid .access := uuid_eq hpair .access
  have hrefresh : pair.refreshUuid = w.nextUuid .refresh := uuid_eq hpair .refresh
  rw [← huser, ← haccess, ← hrefresh]
  refine (Issuer.claimsOf_token_eq_ok_iff hpair now kind).mpr ⟨rfl, hnow, ?_, ?_, ?_⟩
  · rw [huser]
    exact h.positive
  · rw [haccess]
    exact h.draws.access.ne_empty
  · rw [hrefresh]
    exact h.draws.refresh.ne_empty

/-- The entries of the pair live on when the login is over, and for one latency more. -/
theorem live?_afterLogin (hs : s.PrefixesApart) (instant : Time.Stamp) (snapshot : Snapshot)
    (kind : Kind) (now : Nat)
    (hnow : now ≤ w.mintClock + 2 * w.users.latency + 6 * w.store.latency) :
    ∃ expiry, (w.afterLogin s email pair instant snapshot).store.live? now
      (s.tokenKey kind (w.nextUuid kind)) = some ⟨Decimal.ofInt64 a.user.id, expiry⟩ := by
  obtain ⟨written, hwritten, hentry⟩ := find?_afterOpening_tokenKey
    (w.consulted (.findByEmail email)) pair instant snapshot hs kind
  rw [uuid_eq hpair, user_eq hpair] at hentry
  refine ⟨_, Store.State.live?_eq_some_iff.mpr ⟨hentry, ?_⟩⟩
  have hlasting := h.lasting kind
  rw [clock_consulted, store_consulted, ← mintClock] at hwritten
  rw [Store.State.expiryAt, if_neg (by omega)]
  simp only [Store.Entry.isLive, Option.all_some, decide_eq_true_eq]
  omega

/-- The access token is verified right after the login. -/
theorem perform_verify (hs : s.PrefixesApart) (instant : Time.Stamp) (snapshot : Snapshot) :
    ∃ w', (w.afterLogin s email pair instant snapshot).perform s (.verify pair.accessToken) =
      (w', some (.ok ⟨⟨a.user.id, w.nextUuid .access, w.nextUuid .refresh⟩, snapshot⟩)) := by
  have hsound : (w.afterLogin s email pair instant snapshot).IsSound s :=
    isSound_afterOpening (h.sound.consulted _) instant snapshot
  have hclock := clock_afterLogin (s := s) (w := w) email pair instant snapshot
  have hread := reads h hpair .access (unexpired h hpair .access (Nat.le_of_eq hclock))
  obtain ⟨expiry, hlive⟩ := live?_afterLogin h hpair hs instant snapshot .access
    ((w.afterLogin s email pair instant snapshot).clock + w.store.latency) (by omega)
  have hcached : ∀ now, (w.afterLogin s email pair instant snapshot).store.live? now
      (s.profileKey a.user.id) = some ⟨snapshot.encode, none⟩ := by
    intro now
    rw [← user_eq hpair]
    exact Store.State.live?_eq_some_iff.mpr ⟨find?_afterOpening_profileKey _ _ _ _, rfl⟩
  have hrun := run_verify_of_live hsound (Issuer.isAllBlank_token hpair .access) hread hlive
    (Decimal.signed64?_ofInt64 _) (hcached _) snapshot.decode?_encode
  have hlimit := h.endsInTime
  exact ⟨_, perform_of_finished rfl (run_of_clock_le (only_verify_of_comparesNothing s _) hrun (by
    simp only [clock_wrote, latency_wrote, latency_afterLogin]
    omega))⟩

include hinstant

theorem logsIn (hs : s.PrefixesApart) :
    w.LogsIn s a (w.afterLogin s email pair instant (.ofProjection (a.loggedIn instant).projection))
      (pair.grant (.ofProjection (a.loggedIn instant).projection)) where
  differ := h.draws.differ
  expiry kind := by
    rw [Pair.expiry_grant]
    exact Issuer.pairAt?_expiry hpair kind
  reads kind now hnow := by
    rw [Pair.expiry_grant] at hnow ⊢
    rw [Pair.token_grant]
    exact reads h hpair kind hnow
  unexpired kind := by
    rw [Pair.expiry_grant, clock_afterLogin]
    exact unexpired h hpair kind (Nat.le_refl _)
  registered kind := by
    rw [clock_afterLogin]
    obtain ⟨expiry, hlive⟩ := live?_afterLogin h hpair hs instant
      (.ofProjection (a.loggedIn instant).projection) kind
      (w.mintClock + 2 * w.users.latency + 5 * w.store.latency) (by omega)
    rw [Store.State.peek?, hlive, Option.map_some]
  others key hkey hprofile := by
    rw [← user_eq hpair] at hprofile
    simp only [← uuid_eq hpair] at hkey
    rw [afterLogin, find?_afterOpening_of_ne _ _ _ _ hprofile hkey, store_consulted]
  row := by
    refine ⟨instant, hinstant, ?_, rfl⟩
    rw [afterLogin, find?_users_afterOpening, user_eq hpair]
    exact Directory.find?_answer_recordLogin instant
      ((h.sound.consulted (.findByEmail email)).users _) (h.find? email)
  otherRows user hne := by
    rw [afterLogin, find?_users_afterOpening, user_eq hpair, Directory.find?_answer]
    · exact Directory.find?_answer fun _ heq => Directory.Call.noConfusion heq
    · intro instant' heq
      cases heq
      exact absurd rfl hne
  ascending := ((h.ascending.answer (.findByEmail email)).answer
    (.recordLogin pair.user instant)).answer (.project pair.user)
  cached := by
    have hcached := find?_afterOpening_profileKey (s := s) (w.consulted (.findByEmail email)) pair
      instant (.ofProjection (a.loggedIn instant).projection)
    exact ⟨_, user_eq hpair ▸ hcached, Snapshot.decode?_encode _⟩
  verified := perform_verify h hpair hs instant _

end

end Admits

/-- A login by an email that is not blank and a password that is not empty succeeds, if the password
fits and nothing gets into its way. -/
theorem login_of_admits (hs : s.PrefixesApart) (h : w.Admits s email password a)
    (hemail : isAllBlank email = false) (hpassword : password ≠ "") :
    ∃ w' grant, w.perform s (.login email password) = (w', some (.ok grant)) ∧
      w.LogsIn s a w' grant := by
  obtain ⟨pair, hpair⟩ := h.exists_pair
  obtain ⟨instant, hinstant⟩ := h.exists_instant
  exact ⟨_, _, h.perform_login hpair hinstant hemail hpassword, h.logsIn hpair hinstant hs⟩

end World

/-! ## A login against a cached profile -/

/-- The account of a user with a stored hash. -/
def hashedAccount (hash : String) : Account :=
  ⟨{ sampleUser 7 with passwordHash := hash }, none, none, none, none, some "orders, reports",
    false⟩

/-- Surroundings in which one password fits one hash, that of the user. Under the key of their
profile there is a text that is none, and a token of somebody else is registered. -/
def hashedWorld (password hash : String) : World where
  clock := 1250
  accepts := fun password' hash' =>
    if password' == password && hash' == hash then .fits else .differs
  store :=
    { entries := [("user:7", ⟨"no profile", none⟩), ("access:a", ⟨"9", some 900000⟩)]
      latency := 100 }
  users := { accounts := [hashedAccount hash], latency := 50 }

theorem World.admits_hashedWorld (password hash : String) :
    (hashedWorld password hash).Admits sampleIssuer "ada@example.org" password
      (hashedAccount hash) where
  found := rfl
  accepted := by simp [World.outcome, hashedWorld, hashedAccount]
  positive := show (0 : Int64) < 7 by decide
  ascending := List.pairwise_singleton _ _
  draws := ⟨Uuid.isCanonical_numbered (show 1 < Nat.pow 16 12 by decide),
    Uuid.isCanonical_numbered (show 2 < Nat.pow 16 12 by decide),
    show Uuid.numbered 1 ≠ Uuid.numbered 2 by decide +kernel⟩
  sound := ⟨⟨rfl, rfl, rfl⟩, show 100 ≤ 500 by decide, fun _ => rfl, show 50 ≤ 2000 by decide⟩
  comparedInTime := show 50 < 5000 by decide
  endsInTime := show 3 * 50 + 5 * 100 ≤ 5000 by decide
  lasting kind := by
    cases kind
    · show (600 : Int) < 1000 * 900
      decide
    · show (600 : Int) < 1000 * 604800
      decide
  calendar kind := by
    cases kind
    · show Time.IsStampSecond ((1300 / 1000 : Nat) + 900)
      decide
    · show Time.IsStampSecond ((1300 / 1000 : Nat) + 604800)
      decide

/-- The login of a user whose password is "secret", with a hash of it that has cost 4. -/
theorem World.login_of_admits_of_hashed : ∃ w' grant,
    (hashedWorld "secret" "$2b$04$abcdefghijklmnopqrstuu2r9OfJnfCsdneAXAGHnS4UpFFP8WIrW").perform
      sampleIssuer (.login "ada@example.org" "secret") = (w', some (.ok grant)) ∧
    LogsIn sampleIssuer
      (hashedWorld "secret" "$2b$04$abcdefghijklmnopqrstuu2r9OfJnfCsdneAXAGHnS4UpFFP8WIrW")
      (hashedAccount "$2b$04$abcdefghijklmnopqrstuu2r9OfJnfCsdneAXAGHnS4UpFFP8WIrW") w' grant :=
  World.login_of_admits sampleIssuer_prefixesApart (World.admits_hashedWorld _ _)
    (by decide +kernel) (by decide)

/-- A password that is empty is refused even if it fits the hash, which is not looked at. -/
theorem World.login_refused_of_empty : sampleIssuer.PrefixesApart ∧
    (hashedWorld "" "$2b$04$abcdefghijklmnopqrstuubyCG3zY1GIXMyxfivm.ClDiInHzxjiq").Admits
      sampleIssuer "ada@example.org" ""
      (hashedAccount "$2b$04$abcdefghijklmnopqrstuubyCG3zY1GIXMyxfivm.ClDiInHzxjiq") ∧
    ((hashedWorld "" "$2b$04$abcdefghijklmnopqrstuubyCG3zY1GIXMyxfivm.ClDiInHzxjiq").perform
      sampleIssuer (.login "ada@example.org" "")).2 = some (.error .missingCredentials) :=
  ⟨sampleIssuer_prefixesApart, World.admits_hashedWorld _ _, rfl⟩

end SessionLedger
