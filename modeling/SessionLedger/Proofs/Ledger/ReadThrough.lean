import SessionLedger.Proofs.Ledger.Profile
import SessionLedger.Proofs.Ledger.Verdict
import SessionLedger.Proofs.World.Exchanges

/-! Profiles are read through the cache. A profile that is found is handed out as it is, and the
store of users is not called; a cache that cannot be asked is an error, and the store of users is
not called either. Only where nothing is found that can be read, the row is read, once, and whether
the profile can then be kept makes no difference to the result. A profile that has been kept is
handed out by every later lookup until its key is removed or written again. -/
namespace SessionLedger
open Session User

namespace Session.Issuer

/-- How the lookup of a profile goes on when the reply of the cache is there. -/
def afterGet (s : Issuer) (user : Int64) :
    Option (Except Store.Refusal (Option String)) → Task (Except SessionError Snapshot)
  | some (.ok found) => match found.bind Snapshot.decode? with
    | some snapshot => .done (.ok snapshot)
    | none => s.rebuildProfile user
  | some (.error refusal) =>
    (Program.orHalt (Cache.refused refusal)).bind fun e => .done (.error (.cache e))
  | none => .done (.error (.cache .timeout))

theorem profile_eq (s : Issuer) (user : Int64) :
    s.profile user =
      .call (.remote (.store (.get (s.profileKey user))) (some s.cacheLimit))
        (s.afterGet user) := by
  refine congrArg (Program.call _) (funext fun reply => ?_)
  match reply with
  | some (.ok (some text)) =>
    simp only [afterGet, Option.bind_some, Program.pure_eq, Program.done_bind]
    cases Snapshot.decode? text <;> rfl
  | some (.ok none) => rfl
  | some (.error refusal) => cases refusal <;> rfl
  | none => rfl

/-- How it goes on when the reply of the store of users is there. -/
def afterProject (s : Issuer) (user : Int64) :
    Option (Except DirectoryError Projection) → Task (Except SessionError Snapshot)
  | some (.ok p) =>
    .call (.remote (.store (.set (s.profileKey user) (Snapshot.ofProjection p).encode 0))
        (some s.cacheLimit)) fun reply =>
      (Cache.received reply).bind fun _ => .done (.ok (Snapshot.ofProjection p))
  | some (.error e) => .done (.error (.directory e))
  | none => .done (.error (.directory .timeout))

theorem rebuildProfile_eq (s : Issuer) (user : Int64) :
    s.rebuildProfile user =
      .call (.remote (.users (.project user)) (some s.usersLimit)) (s.afterProject user) := by
  refine congrArg (Program.call _) (funext fun reply => ?_)
  match reply with
  | some (.ok p) =>
    simp only [afterProject, Program.pure_eq, Program.done_bind, Cache.setSnapshot, Cache.set,
      Cache.ask_eq, Program.bind_eq, Program.call_bind]
  | some (.error e) => rfl
  | none => rfl

end Session.Issuer

namespace World
variable {s : Issuer} {w w' U : World} {user : Int64} {result : Except SessionError Snapshot}

/-- The profile of a user that is found in the cache. -/
def cached? (s : Issuer) (w : World) (user : Int64) : Option Snapshot :=
  (w.found? (s.profileKey user)).bind Snapshot.decode?

/-- What comes of reading the row of a user. -/
def projected (s : Issuer) (w : World) (user : Int64) : Except DirectoryError Projection :=
  if w.users.latency ≤ s.usersLimit then (w.users.answer (.project user)).2 else .error .timeout

/-- The store refuses to write under the key of a profile. -/
def refusesProfile (s : Issuer) (w : World) (user : Int64) : Bool :=
  w.store.failingPrefix.any ((s.profileKey user).startsWith ·)

/-- The exchanges of the lookup of a profile. -/
abbrev lookup (s : Issuer) (w : World) (user : Int64) : Diary :=
  exchanges (s.profile user) w

/-- The lookup of a profile has come to a result, and left certain surroundings. -/
structure ReadsThrough (s : Issuer) (w : World) (user : Int64) (w' : World)
    (result : Except SessionError Snapshot) : Prop where
  hit : w.Responds s → ∀ snapshot, w.cached? s user = some snapshot →
    result = .ok snapshot ∧ asked (w.lookup s user) = [] ∧ w'.store = w.store
  late : s.cacheLimit < w.store.latency →
    result = .error (.cache .timeout) ∧ asked (w.lookup s user) = [] ∧ w'.store = w.store
  offline : w.store.latency ≤ s.cacheLimit → w.store.isAvailable = false →
    result = .error (.cache (.unavailable "memory store offline")) ∧
      asked (w.lookup s user) = [] ∧ w'.store = w.store
  /-- Nothing that is absent, dead or unreadable is handed out: the row is read, once. -/
  miss : w.Responds s → w.cached? s user = none → asked (w.lookup s user) = [.project user]
  failed : w.Responds s → w.cached? s user = none → ∀ e, w.projected s user = .error e →
    result = .error (.directory e) ∧
      ∀ key later, w'.clock ≤ later → w'.store.live? later key = w.store.live? later key
  rebuilt : w.Responds s → w.cached? s user = none → ∀ p, w.projected s user = .ok p →
    result = .ok (.ofProjection p) ∧
      (Stored (w.lookup s user) (.set (s.profileKey user) (Snapshot.ofProjection p).encode 0) () ↔
        w.refusesProfile s user = false)

/-! ## What the cache says -/

/-- The lookup of a profile asks the cache for it and does nothing else. -/
def OnlyGets (s : Issuer) (w : World) (user : Int64) : Prop :=
  ∃ reply, w.lookup s user =
    [⟨.remote (.store (.get (s.profileKey user))) (some s.cacheLimit), reply⟩]

theorem OnlyGets.asked (h : w.OnlyGets s user) : asked (w.lookup s user) = [] := by
  obtain ⟨reply, hlookup⟩ := h
  rw [hlookup]
  rfl

theorem OnlyGets.not_stored {key text : String} {lifetime : Nat} (h : w.OnlyGets s user) :
    ¬ Stored (w.lookup s user) (.set key text lifetime) () := by
  rintro ⟨limit, hmem⟩
  obtain ⟨reply, hlookup⟩ := h
  rw [hlookup] at hmem
  cases List.mem_singleton.mp hmem

theorem settle_get_of_responds (hw : w.Responds s) (key : String) :
    w.settle none (.remote (.store (.get key)) (some s.cacheLimit)) =
      (w.wrote (w.store.answer (w.clock + w.store.latency) (.get key)).1.entries,
        some (some (.ok (w.found? key)))) := by
  rw [settle_store_of_le hw.inLimit, Store.State.answer_get_of_available hw.available]
  rfl

theorem run_profile_of_late (user : Int64) (hlate : s.cacheLimit < w.store.latency) :
    run none (s.profile user) w = (w.advance s.cacheLimit, .finished (.error (.cache .timeout))) ∧
      w.OnlyGets s user := by
  have hsettle : w.settle none (.remote (.store (.get (s.profileKey user))) (some s.cacheLimit)) =
      (w.advance s.cacheLimit, some none) := settle_get_of_late hlate
  rw [OnlyGets, lookup, s.profile_eq user, run_call hsettle, exchanges_call hsettle]
  exact ⟨rfl, _, rfl⟩

theorem run_profile_of_offline (user : Int64) (hintime : w.store.latency ≤ s.cacheLimit)
    (hoffline : w.store.isAvailable = false) :
    run none (s.profile user) w = (w.advance w.store.latency,
        .finished (.error (.cache (.unavailable "memory store offline")))) ∧
      w.OnlyGets s user := by
  have hsettle : w.settle none (.remote (.store (.get (s.profileKey user))) (some s.cacheLimit)) =
      (w.advance w.store.latency, some (some (.error .offline))) :=
    settle_get_of_offline hintime hoffline
  rw [OnlyGets, lookup, s.profile_eq user, run_call hsettle, exchanges_call hsettle]
  exact ⟨rfl, _, rfl⟩

theorem run_profile_of_cached (hw : w.Responds s) {snapshot : Snapshot}
    (hcached : w.cached? s user = some snapshot) :
    run none (s.profile user) w = (w.wrote w.store.entries, .finished (.ok snapshot)) ∧
      w.OnlyGets s user := by
  -- What is found is live, so the store does not drop it.
  obtain ⟨text, hfound, hread⟩ := Option.bind_eq_some_iff.mp hcached
  obtain ⟨e, he, rfl⟩ := Option.map_eq_some_iff.mp hfound
  have hkept := Store.State.answer_get_of_live hw.available he
  have hsettle := settle_get_of_responds hw (s.profileKey user)
  have hnext : s.afterGet user (some (.ok (w.found? (s.profileKey user)))) =
      .done (.ok snapshot) := by
    rw [cached?] at hcached
    simp only [Issuer.afterGet, hcached]
  rw [hkept] at hsettle
  rw [OnlyGets, lookup, s.profile_eq user, run_call hsettle, exchanges_call hsettle, hnext]
  exact ⟨rfl, _, rfl⟩

/-- What the cache leaves when it has found nothing: it may have dropped what was dead. -/
structure AfterMiss (s : Issuer) (w U : World) : Prop where
  responds : U.Responds s
  users : U.users = w.users
  live : ∀ key later, U.clock ≤ later → U.store.live? later key = w.store.live? later key
  failingPrefix : U.store.failingPrefix = w.store.failingPrefix

/-- Where nothing is found that can be read, the profile is made from the row. -/
theorem run_profile_of_miss (hw : w.Responds s) (hcached : w.cached? s user = none) :
    ∃ U found, AfterMiss s w U ∧
      run none (s.profile user) w = run none (s.rebuildProfile user) U ∧
      w.lookup s user = ⟨.remote (.store (.get (s.profileKey user))) (some s.cacheLimit),
        some (.ok found)⟩ :: exchanges (s.rebuildProfile user) U := by
  have hsettle := settle_get_of_responds hw (s.profileKey user)
  have hnext : s.afterGet user (some (.ok (w.found? (s.profileKey user)))) =
      s.rebuildProfile user := by
    rw [cached?] at hcached
    simp only [Issuer.afterGet, hcached]
  have hafter : AfterMiss s w (w.wrote (w.store.answer (w.clock + w.store.latency)
      (.get (s.profileKey user))).1.entries) :=
    { responds := ⟨hw.available, hw.inLimit⟩
      users := rfl
      live := fun key later hlater => Store.State.live?_answer_get hlater
      failingPrefix := rfl }
  refine ⟨_, w.found? (s.profileKey user), hafter, ?_, ?_⟩
  · rw [s.profile_eq user, run_call hsettle, hnext]
  · rw [lookup, s.profile_eq user, exchanges_call hsettle, hnext]

/-! ## What the row says -/

theorem projected_congr (h : U.users = w.users) (user : Int64) :
    U.projected s user = w.projected s user := by
  rw [projected, projected, h]

theorem run_rebuildProfile_of_error {e : DirectoryError} (he : U.projected s user = .error e) :
    ∃ V reply, run none (s.rebuildProfile user) U = (V, .finished (.error (.directory e))) ∧
      V.store = U.store ∧ exchanges (s.rebuildProfile user) U =
        [⟨.remote (.users (.project user)) (some s.usersLimit), reply⟩] := by
  have hsettle := U.settle_users (.project user) s.usersLimit
  rw [projected] at he
  split at he
  next hlimit =>
    rw [if_pos hlimit, he] at hsettle
    rw [s.rebuildProfile_eq user, run_call hsettle, exchanges_call hsettle]
    exact ⟨_, _, rfl, rfl, rfl⟩
  next hlate =>
    cases he
    rw [if_neg hlate] at hsettle
    rw [s.rebuildProfile_eq user, run_call hsettle, exchanges_call hsettle]
    exact ⟨_, _, rfl, rfl, rfl⟩

/-- A profile is kept for good, unless the store refuses to write under its key. -/
theorem settle_keep (hU : U.Responds s) (user : Int64) (text : String) :
    U.settle none (.remote (.store (.set (s.profileKey user) text 0)) (some s.cacheLimit)) =
      if U.refusesProfile s user then
        (U.wrote U.store.entries, some (some (.error (.writeRejected (s.profileKey user)))))
      else (U.wrote (U.store.entries.insert (s.profileKey user) ⟨text, none⟩),
        some (some (.ok ()))) := by
  have hlifetime : ¬ Store.State.longestLifetime < 0 := Nat.not_lt_zero _
  rw [settle_store_of_le hU.inLimit]
  by_cases hrefuses : U.refusesProfile s user = true
  · rw [if_pos hrefuses]
    rw [refusesProfile] at hrefuses
    simp only [Store.State.answer, hU.available, hrefuses, Bool.not_true, Bool.false_eq_true,
      if_false, if_true]
  · rw [if_neg hrefuses]
    rw [refusesProfile] at hrefuses
    simp only [Store.State.answer, hU.available, hrefuses, hlifetime, Bool.not_true,
      Bool.false_eq_true, if_false, Store.State.expiryAt, if_true]

theorem run_rebuildProfile_of_ok (hU : U.Responds s) {p : Projection}
    (hp : U.projected s user = .ok p) :
    ∃ V reply, run none (s.rebuildProfile user) U = (V, .finished (.ok (.ofProjection p))) ∧
      exchanges (s.rebuildProfile user) U =
        [⟨.remote (.users (.project user)) (some s.usersLimit), some (.ok p)⟩,
          ⟨.remote (.store (.set (s.profileKey user) (Snapshot.ofProjection p).encode 0))
            (some s.cacheLimit), reply⟩] ∧
      (reply = some (.ok ()) ↔ U.refusesProfile s user = false) ∧
      (reply = some (.ok ()) → V.store.entries.find? (s.profileKey user) =
        some ⟨(Snapshot.ofProjection p).encode, none⟩) := by
  have hsettle := U.settle_users (.project user) s.usersLimit
  rw [projected] at hp
  split at hp
  next hlimit =>
    rw [if_pos hlimit, hp] at hsettle
    have hkeep := settle_keep (U := U.consulted (.project user)) ⟨hU.available, hU.inLimit⟩ user
      (Snapshot.ofProjection p).encode
    have hsame : (U.consulted (.project user)).refusesProfile s user =
      U.refusesProfile s user := rfl
    rw [s.rebuildProfile_eq user, run_call hsettle, exchanges_call hsettle, Issuer.afterProject]
    rw [hsame] at hkeep
    split at hkeep
    next hrefuses =>
      rw [run_call hkeep, exchanges_call hkeep]
      exact ⟨_, _, rfl, rfl, by simp [hrefuses], nofun⟩
    next hrefuses =>
      rw [run_call hkeep, exchanges_call hkeep]
      refine ⟨_, _, rfl, rfl, by simp [hrefuses], fun _ => ?_⟩
      rw [entries_wrote, Store.Table.find?_insert, if_pos rfl]
  next => cases hp

/-! ## Lookups -/

/-- Unless the cache answers that there is nothing to be read, the lookup of a profile ends with
what the cache says. -/
theorem run_profile_or_miss (s : Issuer) (w : World) (user : Int64) :
    (∃ w' result, run none (s.profile user) w = (w', .finished result) ∧ w.OnlyGets s user) ∨
      w.Responds s ∧ w.cached? s user = none := by
  by_cases hlate : s.cacheLimit < w.store.latency
  · exact .inl ⟨_, _, run_profile_of_late user hlate⟩
  · rw [Nat.not_lt] at hlate
    by_cases hoffline : w.store.isAvailable = false
    · exact .inl ⟨_, _, run_profile_of_offline user hlate hoffline⟩
    · have hw : w.Responds s := ⟨by simpa using hoffline, hlate⟩
      cases hcached : w.cached? s user with
      | some snapshot => exact .inl ⟨_, _, run_profile_of_cached hw hcached⟩
      | none => exact .inr ⟨hw, rfl⟩

/-- The lookup of a profile always comes to a result. -/
theorem exists_run_profile (s : Issuer) (w : World) (user : Int64) :
    ∃ w' result, run none (s.profile user) w = (w', .finished result) := by
  rcases w.run_profile_or_miss s user with ⟨w', result, hrun, -⟩ | ⟨hw, hcached⟩
  · exact ⟨w', result, hrun⟩
  · obtain ⟨U, found, hU, hrun, -⟩ := run_profile_of_miss hw hcached
    cases hp : U.projected s user with
    | error e =>
      obtain ⟨V, reply, hrebuild, -⟩ := run_rebuildProfile_of_error hp
      exact ⟨V, _, hrun.trans hrebuild⟩
    | ok p =>
      obtain ⟨V, reply, hrebuild, -⟩ := run_rebuildProfile_of_ok hU.responds hp
      exact ⟨V, _, hrun.trans hrebuild⟩

/-- What the lookup of a profile has come to is told by the cache and the row. -/
theorem readsThrough_of_run (h : run none (s.profile user) w = (w', .finished result)) :
    w.ReadsThrough s user w' result where
  hit hw snapshot hcached := by
    obtain ⟨hrun, hgets⟩ := run_profile_of_cached hw hcached
    cases h.symm.trans hrun
    exact ⟨rfl, hgets.asked, rfl⟩
  late hlate := by
    obtain ⟨hrun, hgets⟩ := run_profile_of_late user hlate
    cases h.symm.trans hrun
    exact ⟨rfl, hgets.asked, rfl⟩
  offline hintime hoffline := by
    obtain ⟨hrun, hgets⟩ := run_profile_of_offline user hintime hoffline
    cases h.symm.trans hrun
    exact ⟨rfl, hgets.asked, rfl⟩
  miss hw hcached := by
    obtain ⟨U, found, hU, -, hlookup⟩ := run_profile_of_miss hw hcached
    rw [hlookup]
    cases hp : U.projected s user with
    | error e =>
      obtain ⟨V, reply, -, -, hexchanges⟩ := run_rebuildProfile_of_error hp
      rw [hexchanges]
      rfl
    | ok p =>
      obtain ⟨V, reply, -, hexchanges, -⟩ := run_rebuildProfile_of_ok hU.responds hp
      rw [hexchanges]
      rfl
  failed hw hcached e he := by
    obtain ⟨U, found, hU, hrun, -⟩ := run_profile_of_miss hw hcached
    rw [← projected_congr hU.users] at he
    obtain ⟨V, reply, hrebuild, hstore, -⟩ := run_rebuildProfile_of_error he
    cases h.symm.trans (hrun.trans hrebuild)
    refine ⟨rfl, fun key later hlater => ?_⟩
    rw [hstore]
    exact hU.live key later (Nat.le_trans (clock_le_of_run hrebuild) hlater)
  rebuilt hw hcached p hp := by
    obtain ⟨U, found, hU, hrun, hlookup⟩ := run_profile_of_miss hw hcached
    rw [← projected_congr hU.users] at hp
    obtain ⟨V, reply, hrebuild, hexchanges, hreply, -⟩ := run_rebuildProfile_of_ok hU.responds hp
    cases h.symm.trans (hrun.trans hrebuild)
    refine ⟨rfl, ?_⟩
    have hrefuses : w.refusesProfile s user = U.refusesProfile s user := by
      rw [refusesProfile, refusesProfile, hU.failingPrefix]
    rw [hrefuses, ← hreply, hlookup, hexchanges]
    simp [Stored, eq_comm]

/-- A lookup that has kept a profile has handed it out. -/
theorem kept_of_run {text : String} {lifetime : Nat}
    (h : run none (s.profile user) w = (w', .finished result))
    (hkept : Stored (w.lookup s user) (.set (s.profileKey user) text lifetime) ()) :
    ∃ snapshot, result = .ok snapshot ∧ Snapshot.decode? text = some snapshot ∧
      w'.store.entries.find? (s.profileKey user) = some ⟨text, none⟩ := by
  rcases w.run_profile_or_miss s user with ⟨-, -, -, hgets⟩ | ⟨hw, hcached⟩
  · exact absurd hkept hgets.not_stored
  · obtain ⟨U, found, hU, hrun, hlookup⟩ := run_profile_of_miss hw hcached
    obtain ⟨limit, hmem⟩ := hkept
    rw [hlookup] at hmem
    cases hp : U.projected s user with
    | error e =>
      obtain ⟨V, reply, -, -, hexchanges⟩ := run_rebuildProfile_of_error hp
      simp [hexchanges] at hmem
    | ok p =>
      obtain ⟨V, reply, hrebuild, hexchanges, -, hheld⟩ := run_rebuildProfile_of_ok hU.responds hp
      cases h.symm.trans (hrun.trans hrebuild)
      simp only [hexchanges, List.mem_cons, List.not_mem_nil, or_false] at hmem
      rcases hmem with heq | heq | heq
      · cases heq
      · cases heq
      · cases heq
        exact ⟨_, rfl, Snapshot.decode?_encode _, hheld rfl⟩

end World

/-! ## Lookups after a profile has been kept -/

/-- A profile is kept for good under the key of a user. Until the key is removed or written again,
every later lookup that the cache answers hands this profile out and does not call the store of
users, whatever becomes of the row. -/
structure World.Retains (s : Issuer) (w : World) (user : Int64) (snapshot : Snapshot) : Prop where
  held : ∃ text, w.store.entries.find? (s.profileKey user) = some ⟨text, none⟩ ∧
    Snapshot.decode? text = some snapshot
  /-- The next lookup is alone. -/
  alone : ∀ log T, Traffic.Run s w log T →
    (∀ e ∈ log, ∀ value, ¬ e.Writes (s.profileKey user) value) →
    (∀ e ∈ log, ¬ e.Removes (s.profileKey user)) → T.world.Responds s →
    ∃ U, T.world.perform s (.profile user) = (U, some (.ok snapshot)) ∧
      asked (T.world.lookup s user) = []
  /-- There are other operations in flight. -/
  among : ∀ log T before i result after, Traffic.Run s w log T →
    log = before ++ .returned i (.profile user) result :: after →
    (∀ e ∈ before, ∀ value, ¬ e.Writes (s.profileKey user) value) →
    (∀ e ∈ before, ¬ e.Removes (s.profileKey user)) →
    (∃ found, Stored (diary before i) (.get (s.profileKey user)) found) →
    result = .ok snapshot ∧ asked (diary before i) = []

/-- If the cache has answered a lookup, that was the first of its exchanges. -/
theorem Session.Issuer.get_of_after {s : Issuer} {user : Int64} {d : Diary}
    {result : Except SessionError Snapshot} {found : Option String}
    (h : (s.profile user).After d (.done result))
    (hget : Stored d (.get (s.profileKey user)) found) :
    ∃ found rest, d = ⟨.remote (.store (.get (s.profileKey user))) (some s.cacheLimit),
        some (.ok found)⟩ :: rest ∧
      (s.afterGet user (some (.ok found))).After rest (.done result) := by
  rw [s.profile_eq user] at h
  obtain ⟨reply, rest, rfl, hafter⟩ := h.done_of_call
  obtain ⟨limit, hmem⟩ := hget
  match reply with
  | some (.ok found) => exact ⟨found, rest, rfl, hafter⟩
  | some (.error refusal) =>
    -- The lookup has ended at once, so this reply is the only one.
    have hrest : rest = [] := by
      cases refusal with
      | lifetimeTooLong => exact hafter.of_halt.1
      | _ => exact hafter.of_done.1
    subst hrest
    cases List.mem_singleton.mp hmem
  | none =>
    obtain rfl := hafter.of_done.1
    cases List.mem_singleton.mp hmem

theorem Session.Issuer.afterGet_of_readable (s : Issuer) (user : Int64) {text : String}
    {snapshot : Snapshot} (hread : Snapshot.decode? text = some snapshot) :
    s.afterGet user (some (.ok (some text))) = .done (.ok snapshot) := by
  simp only [afterGet, Option.bind_some, hread]

namespace World
variable {s : Issuer} {w : World} {user : Int64} {snapshot : Snapshot} {text : String}

theorem retains_of_held (hheld : w.store.entries.find? (s.profileKey user) = some ⟨text, none⟩)
    (hread : Snapshot.decode? text = some snapshot) : w.Retains s user snapshot where
  held := ⟨text, hheld, hread⟩
  alone log T h hwrites hremoves hresponds := by
    have hlive := h.held?_of_isLive hheld rfl hwrites hremoves
    have hcached : T.world.cached? s user = some snapshot := by
      have hfound : T.world.found? (s.profileKey user) = some text :=
        Option.map_eq_some_iff.mpr ⟨_, Store.State.live?_eq_some_iff.mpr ⟨hlive, rfl⟩, rfl⟩
      rw [cached?, hfound, Option.bind_some, hread]
    obtain ⟨hrun, hgets⟩ := run_profile_of_cached hresponds hcached
    exact ⟨_, (perform_of_deadline_eq_none rfl).mpr hrun, hgets.asked⟩
  among log T before i result after h hlog hwrites hremoves hget := by
    subst hlog
    obtain ⟨found, hget⟩ := hget
    obtain ⟨found, rest, hdiary, hafter⟩ := Issuer.get_of_after h.returned.2.2 hget
    -- The reply that the lookup has got is what was under the key then.
    have hmem : .called i (.remote (.store (.get (s.profileKey user))) (some s.cacheLimit))
        (some (.ok found)) ∈ before := mem_diary.mp (by rw [hdiary]; simp)
    obtain ⟨log₁, log₂, rfl⟩ := List.append_of_mem hmem
    rw [List.append_assoc, List.cons_append] at h
    obtain ⟨U, V, hU, hstep, -⟩ := h.at
    have hheld' : U.held? (s.profileKey user) = some ⟨text, none⟩ :=
      hU.held?_of_isLive hheld rfl (fun e he => hwrites e (List.mem_append_left _ he))
        fun e he => hremoves e (List.mem_append_left _ he)
    have hfound : found = some text := by
      rw [hstep.get_ok, Traffic.live?_eq_some_iff.mpr ⟨hheld', rfl⟩]
      rfl
    subst hfound
    rw [s.afterGet_of_readable user hread] at hafter
    obtain ⟨rfl, hresult⟩ := hafter.of_done
    cases hresult
    rw [hdiary]
    exact ⟨rfl, rfl⟩

/-- Profiles are read through the cache, and the lookup of one always comes to a result. A profile
that the lookup has kept is one that it has handed out, and it is retained. -/
theorem profile_reads_through (s : Issuer) (w : World) (user : Int64) :
    ∃ w' result, w.perform s (.profile user) = (w', some result) ∧
      w.ReadsThrough s user w' result ∧
      ∀ text lifetime, Stored (w.lookup s user) (.set (s.profileKey user) text lifetime) () →
        ∃ snapshot, result = .ok snapshot ∧ w'.Retains s user snapshot := by
  obtain ⟨w', result, hrun⟩ := exists_run_profile s w user
  refine ⟨w', result, (perform_of_deadline_eq_none rfl).mpr hrun, readsThrough_of_run hrun,
    fun text lifetime hkept => ?_⟩
  obtain ⟨snapshot, hresult, hread, hheld⟩ := kept_of_run hrun hkept
  exact ⟨snapshot, hresult, retains_of_held hheld hread⟩

end World

end SessionLedger
