import SessionLedger.Proofs.Session.Calls
import SessionLedger.Proofs.User.Directory
import SessionLedger.Proofs.World.Preserved

/-! Surroundings in which nothing goes wrong: neither store has a fault, and both answer in time.
There a call does what it is asked and takes just its latency, so that each part of a session
operation has one outcome, which can be told in advance. A deadline that has not come when a program
ends makes no difference to it. -/
namespace SessionLedger
open Session Token User

/-- Neither store has a fault, and both answer within the limits of a service. -/
structure World.IsSound (s : Issuer) (w : World) : Prop where
  store : w.store.IsSound
  storeInLimit : w.store.latency ≤ s.cacheLimit
  users : ∀ m, w.users.fault m = none
  usersInLimit : w.users.latency ≤ s.usersLimit

/-- The call compares no password. -/
def Effect.Call.ComparesNothing : Effect.Call → Prop
  | .compare _ => False
  | _ => True

namespace World
variable {s : Issuer} {w w' : World} {α : Type} {key value : String} {user : Int64}

/-- The surroundings after an answer of the key-value store that leaves certain entries. -/
def wrote (w : World) (entries : Store.Table Store.Entry) : World :=
  { w with clock := w.clock + w.store.latency, store := { w.store with entries } }

/-- The surroundings after an answer of the store of users. -/
def consulted (w : World) (c : Directory.Call) : World :=
  { w with clock := w.clock + w.users.latency, users := (w.users.answer c).1 }

section
variable (w : World) (entries : Store.Table Store.Entry) (c : Directory.Call)

@[simp] theorem clock_wrote : (w.wrote entries).clock = w.clock + w.store.latency := rfl

@[simp] theorem entries_wrote : (w.wrote entries).store.entries = entries := rfl

@[simp] theorem latency_wrote : (w.wrote entries).store.latency = w.store.latency := rfl

@[simp] theorem users_wrote : (w.wrote entries).users = w.users := rfl

@[simp] theorem clock_consulted : (w.consulted c).clock = w.clock + w.users.latency := rfl

@[simp] theorem store_consulted : (w.consulted c).store = w.store := rfl

@[simp] theorem users_consulted : (w.consulted c).users = (w.users.answer c).1 := rfl

@[simp] theorem latency_consulted : (w.consulted c).users.latency = w.users.latency := by
  rw [consulted, Directory.answer_eq]

end

theorem IsSound.wrote (h : w.IsSound s) (entries : Store.Table Store.Entry) :
    (w.wrote entries).IsSound s :=
  ⟨⟨h.store.available, h.store.writes, h.store.deletes⟩, h.storeInLimit, h.users, h.usersInLimit⟩

theorem IsSound.consulted (h : w.IsSound s) (c : Directory.Call) : (w.consulted c).IsSound s where
  store := h.store
  storeInLimit := h.storeInLimit
  users m := by
    rw [World.consulted, Directory.answer_eq]
    exact h.users m
  usersInLimit := by
    rw [latency_consulted]
    exact h.usersInLimit

/-! ## Calls -/

theorem run_clock_bind {deadline : Option Nat} {f : Nat → Task α} :
    run deadline (Task.clock.bind f) w = run deadline (f w.clock) w := rfl

theorem run_orHalt_bind {deadline : Option Nat} {β : Type} {o : Option β} {b : β} {f : β → Task α}
    (h : o = some b) : run deadline ((Program.orHalt o).bind f) w = run deadline (f b) w := by
  rw [h]
  rfl

theorem run_ask {c : Store.Call} {entries : Store.Table Store.Entry} {a : c.Answer}
    (hlimit : w.store.latency ≤ s.cacheLimit)
    (h : w.store.answer (w.clock + w.store.latency) c = ({ w.store with entries }, .ok a)) :
    run none (Cache.ask (some s.cacheLimit) c) w = (w.wrote entries, .finished (.ok a)) := by
  have hsettle : w.settle none (.remote (.store c) (some s.cacheLimit)) =
      (w.wrote entries, some (some (.ok a))) := by
    rw [settle_store, if_pos hlimit]
    simp only [answerRemote, advance, h]
    rfl
  exact run_call hsettle

theorem run_askUsers (c : Directory.Call) (hlimit : w.users.latency ≤ s.usersLimit) :
    run none (s.askUsers c) w = (w.consulted c, .finished (w.users.answer c).2) := by
  have hsettle : w.settle none (.remote (.users c) (some s.usersLimit)) =
      (w.consulted c, some (some (w.users.answer c).2)) := by
    have hlatency : w.latency (.users c) = w.users.latency := rfl
    simp only [settle, await_limit, hlatency, if_pos hlimit]
    rfl
  exact run_call hsettle

section
variable (hw : w.IsSound s)
include hw

/-- A value that is kept is there when the answer has come. -/
theorem run_set (key value : String) {lifetime : Nat}
    (hlifetime : lifetime ≤ Store.State.longestLifetime) :
    run none (Cache.set s.cacheLimit key value lifetime) w =
      (w.wrote (w.store.entries.insert key
        ⟨value, Store.State.expiryAt (w.clock + w.store.latency) lifetime⟩), .finished (.ok ())) :=
  run_ask hw.storeInLimit (hw.store.answer_set value hlifetime)

theorem run_get_of_live {e : Store.Entry}
    (he : w.store.live? (w.clock + w.store.latency) key = some e) :
    run none (Cache.get s.cacheLimit key) w =
      (w.wrote w.store.entries, .finished (.ok e.value)) := by
  rw [Cache.get, Program.bind_eq, run_bind (run_ask hw.storeInLimit
    (Store.State.answer_get_of_live hw.store.available he))]
  rfl

theorem run_get_of_find?_eq_none (hnone : w.store.entries.find? key = none) :
    run none (Cache.get s.cacheLimit key) w =
      (w.wrote w.store.entries, .finished (.error .notFound)) := by
  rw [Cache.get, Program.bind_eq, run_bind (run_ask hw.storeInLimit
    (Store.State.answer_get_of_find?_eq_none hw.store.available hnone))]
  rfl

/-! ## Profiles -/

/-- Dropping the profile of a user removes its key. -/
theorem run_dropProfile (user : Int64) :
    run none (s.dropProfile user) w =
      (w.wrote (w.store.entries.erase (s.profileKey user)), .finished (.ok ())) := by
  have hdelete : run none (Cache.delete s.cacheLimit [s.profileKey user]) w = _ :=
    run_ask hw.storeInLimit (hw.store.answer_delete _ _)
  rw [Issuer.dropProfile, Program.bind_eq, run_bind hdelete]
  rfl

/-- Where no profile of a user is cached, it is made from their row and cached for good. -/
theorem run_profile_of_find?_eq_none {a : Account} (ha : w.users.find? user = some a)
    (hnone : w.store.entries.find? (s.profileKey user) = none) :
    run none (s.profile user) w =
      (((w.wrote w.store.entries).consulted (.project user)).wrote
          (w.store.entries.insert (s.profileKey user)
            ⟨(Snapshot.ofProjection a.projection).encode, none⟩),
        .finished (.ok (Snapshot.ofProjection a.projection))) := by
  have hasked : run none (s.askUsers (.project user)) (w.wrote w.store.entries) =
      ((w.wrote w.store.entries).consulted (.project user), .finished (.ok a.projection)) := by
    rw [run_askUsers _ (hw.wrote _).usersInLimit, users_wrote,
      Directory.answer_project_of_find? (hw.users _) ha]
  have hrebuilt : run none (s.rebuildProfile user) (w.wrote w.store.entries) =
      (((w.wrote w.store.entries).consulted (.project user)).wrote
          (w.store.entries.insert (s.profileKey user)
            ⟨(Snapshot.ofProjection a.projection).encode, none⟩),
        .finished (.ok (Snapshot.ofProjection a.projection))) := by
    have hset := run_set ((hw.wrote w.store.entries).consulted (.project user)) (s.profileKey user)
      (Snapshot.ofProjection a.projection).encode (Nat.zero_le _)
    rw [Issuer.rebuildProfile, Program.bind_eq, run_bind hasked]
    exact run_bind hset
  have hget : run none (Cache.getSnapshot s.cacheLimit (s.profileKey user)) w =
      (w.wrote w.store.entries, .finished (.error .notFound)) := by
    rw [Cache.getSnapshot, Program.bind_eq, run_bind (run_get_of_find?_eq_none hw hnone)]
    rfl
  rw [Issuer.profile, Program.bind_eq, run_bind hget]
  exact hrebuilt

/-- A profile that is cached is handed out. -/
theorem run_profile_of_live {e : Store.Entry} {snapshot : Snapshot}
    (he : w.store.live? (w.clock + w.store.latency) (s.profileKey user) = some e)
    (hread : Snapshot.decode? e.value = some snapshot) :
    run none (s.profile user) w = (w.wrote w.store.entries, .finished (.ok snapshot)) := by
  have hget : run none (Cache.getSnapshot s.cacheLimit (s.profileKey user)) w =
      (w.wrote w.store.entries, .finished (.ok snapshot)) := by
    rw [Cache.getSnapshot, Program.bind_eq, run_bind (run_get_of_live hw he)]
    simp only [hread]
    rfl
  rw [Issuer.profile, Program.bind_eq, run_bind hget]
  rfl

/-! ## Tokens -/

section
variable {token : String} {kind : Kind} {claims : Claims} {e : Store.Entry}

/-- A token that can be read is accepted if it is registered to the user whom it names. -/
theorem run_checkToken_of_live (hread : s.signer.claimsOf w.clock token kind = .ok claims)
    (he : w.store.live? (w.clock + w.store.latency) (s.tokenKey kind (claims.uuid kind)) = some e)
    (howner : Text.Decimal.signed64? e.value = some claims.user) :
    run none (s.checkToken token kind) w =
      (w.wrote w.store.entries, .finished (.ok claims)) := by
  simp only [Issuer.checkToken, Program.bind_eq]
  rw [run_clock_bind]
  simp only [hread]
  rw [run_bind (run_get_of_live hw he)]
  simp only [howner, if_true]
  rfl

/-- It is resolved to its identity and the profile that is cached of its user. -/
theorem run_verify_of_live (hblank : Text.isAllBlank token = false)
    (hread : s.signer.claimsOf w.clock token .access = .ok claims)
    (he : w.store.live? (w.clock + w.store.latency) (s.tokenKey .access (claims.uuid .access)) =
      some e)
    (howner : Text.Decimal.signed64? e.value = some claims.user) {snapshot : Snapshot}
    {cached : Store.Entry}
    (hcached : w.store.live? (w.clock + w.store.latency + w.store.latency)
      (s.profileKey claims.user) = some cached)
    (hsnapshot : Snapshot.decode? cached.value = some snapshot) :
    run none (s.verify token) w =
      ((w.wrote w.store.entries).wrote w.store.entries, .finished
        (.ok ⟨⟨claims.user, claims.accessUuid, claims.refreshUuid⟩, snapshot⟩)) := by
  have hprofile := run_profile_of_live (hw.wrote w.store.entries) hcached hsnapshot
  simp only [Issuer.verify, hblank, Bool.false_eq_true, if_false, Program.bind_eq]
  rw [run_bind (run_checkToken_of_live hw hread he howner)]
  exact run_bind hprofile

end

end

/-! ## Deadlines -/

theorem clock_le_of_settle {deadline : Option Nat} {c : Effect.Call} {reply : Option c.Reply}
    (h : w.settle deadline c = (w', reply)) : w.clock ≤ w'.clock := by
  cases c with
  | clock =>
    cases h
    exact Nat.le_refl _
  | uuid =>
    cases h
    exact Nat.le_refl _
  | compare c =>
    cases h
    exact Nat.le_refl _
  | remote c limit =>
    simp only [settle] at h
    split at h
    all_goals
      obtain ⟨⟨millis, rfl⟩, -⟩ := await_cases ‹_›
      cases h
    · cases c <;> exact Nat.le_add_right _ _
    · exact Nat.le_add_right _ _
    · exact Nat.le_add_right _ _

theorem clock_le_of_run {deadline : Option Nat} {p : Task α} {ending : Ending α}
    (h : run deadline p w = (w', ending)) : w.clock ≤ w'.clock := by
  induction p generalizing w with
  | done a =>
    cases h
    exact Nat.le_refl _
  | halt =>
    cases h
    exact Nat.le_refl _
  | call c next ih =>
    rw [run] at h
    split at h
    next U reply hsettle => exact Nat.le_trans (clock_le_of_settle hsettle) (ih reply h)
    next U hsettle =>
      cases h
      exact clock_le_of_settle hsettle

theorem await_of_clock_le {c : Remote.Call} {limit : Option Nat} {deadline : Nat} {how : Arrival}
    (h : w.await c limit none = (w', how)) (hle : w'.clock ≤ deadline) :
    w.await c limit (some deadline) = (w', how) := by
  by_cases hzero : w.latency c = 0
  · simpa only [await, if_pos hzero] using h
  · simp only [await, if_neg hzero, Prod.mk.injEq] at h ⊢
    obtain ⟨rfl, rfl⟩ := h
    have hinstant : (arrival (w.clock + w.latency c) (limit.map (w.clock + ·)) none).1 ≤ deadline :=
      Nat.le_trans (Nat.le_max_right _ _) hle
    have harrival : arrival (w.clock + w.latency c) (limit.map (w.clock + ·)) (some deadline) =
        arrival (w.clock + w.latency c) (limit.map (w.clock + ·)) none := by
      unfold arrival at hinstant ⊢
      cases limit <;> simp only [notAfter, Option.map_none, Option.map_some, Option.all_none,
        Option.all_some] at * <;> grind
    rw [harrival]
    exact ⟨rfl, rfl⟩

/-- A comparison has its outcome before a deadline that has not come. -/
theorem settle_compare {deadline : Nat} (c : Comparison) (h : w.clock < deadline) :
    w.settle (some deadline) (.compare c) = (w, some (w.outcome c)) := by
  have hdue : w.isDue (some deadline) = false := by
    simpa only [isDue, Option.any_some, decide_eq_false_iff_not, Nat.not_le] using h
  rw [settle, hdue]
  rfl

theorem run_checkPassword {deadline : Nat} (password hash : String) (h : w.clock < deadline) :
    run (some deadline) (checkPassword password hash) w =
      (w, .finished (admission (w.outcome (.genuine password hash)))) :=
  run_call (settle_compare _ h)

/-- Where no password is compared, a deadline that has not passed when the program ends makes no
difference to it. -/
theorem run_of_clock_le {p : Task α} {deadline : Nat} {a : α}
    (hp : p.Only Effect.Call.ComparesNothing) (h : run none p w = (w', .finished a))
    (hle : w'.clock ≤ deadline) : run (some deadline) p w = (w', .finished a) := by
  induction p generalizing w with
  | done b => exact h
  | halt => exact h
  | call c next ih =>
    obtain ⟨U, reply, hsettle⟩ := w.exists_settle c
    rw [run_call hsettle] at h
    have hU : U.clock ≤ deadline := Nat.le_trans (clock_le_of_run h) hle
    have hsame : w.settle (some deadline) c = (U, some reply) := by
      cases c with
      | clock => exact hsettle
      | uuid => exact hsettle
      | compare x => exact hp.1.elim
      | remote c limit =>
        simp only [settle] at hsettle ⊢
        split at hsettle
        next V hawait =>
          cases hsettle
          rw [await_of_clock_le hawait (by cases c <;> exact hU)]
        next V hawait =>
          cases hsettle
          rw [await_of_clock_le hawait hU]
        next => cases hsettle
    rw [run_call hsame]
    exact ih reply (hp.2 reply) h

end World

end SessionLedger
