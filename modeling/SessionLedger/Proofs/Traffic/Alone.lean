import SessionLedger.Proofs.Session.Keys
import SessionLedger.Proofs.Session.Minted
import SessionLedger.Proofs.Store.Answer
import SessionLedger.Proofs.Traffic.Diary

/-! One operation after another, on surroundings that answer at once. What happens then can be
computed. -/
namespace SessionLedger
open Session Token Text

namespace World
variable {α : Type}

/-- The answer at once, and what becomes of the surroundings. -/
def reply (w : World) : (c : Effect.Call) → World × c.Reply
  | .clock => (w, w.clock)
  | .uuid => ({ w with drawn := w.drawn + 1 }, w.supply w.drawn)
  | .compare c => (w, w.outcome c)
  | .remote c _ =>
    let (w, reply) := w.answerRemote c
    (w, some reply)

theorem answers_reply (w : World) (c : Effect.Call) : w.Answers c (w.reply c).2 (w.reply c).1 := by
  cases c with
  | clock => exact .clock
  | uuid => exact .uuid
  | compare c => exact .compare c
  | remote c limit => exact .remote c limit

/-- The exchanges of a program, the surroundings after them, and the value if it ends with one. -/
def trace : Task α → World → Diary × World × Option α
  | .done a, w => ([], w, some a)
  | .halt, w => ([], w, none)
  | .call c next, w =>
    let (d, w', a) := trace (next (w.reply c).2) (w.reply c).1
    (⟨c, (w.reply c).2⟩ :: d, w', a)

theorem reply_clock (w : World) (c : Effect.Call) : (w.reply c).1.clock = w.clock := by
  cases c with
  | remote c limit => cases c <;> rfl
  | _ => rfl

/-- A program reads one instant only. -/
theorem eq_clock_of_mem_trace {p : Task α} {w : World} {now : Nat}
    (h : ⟨.clock, now⟩ ∈ (w.trace p).1) : now = w.clock := by
  induction p generalizing w with
  | done a => cases h
  | halt => cases h
  | call c next ih =>
    rcases List.mem_cons.mp h with heq | hmem
    · cases heq
      rfl
    · exact (ih _ hmem).trans (w.reply_clock c)

/-- No time passes. -/
theorem trace_clock (p : Task α) (w : World) : (w.trace p).2.1.clock = w.clock := by
  induction p generalizing w with
  | done a => rfl
  | halt => rfl
  | call c next ih => exact (ih _ _).trans (w.reply_clock c)

theorem trace_perform (w : World) (c : Effect.Call) (f : c.Reply → Task α) :
    w.trace (Program.bind (Program.perform (ι := Effect.interface) c) f) =
      (⟨c, (w.reply c).2⟩ :: ((w.reply c).1.trace (f (w.reply c).2)).1,
        ((w.reply c).1.trace (f (w.reply c).2)).2) := rfl

theorem trace_readClock (w : World) (f : Nat → Task α) :
    w.trace (Task.clock.bind f) =
      (⟨.clock, w.clock⟩ :: (w.trace (f w.clock)).1, (w.trace (f w.clock)).2) := rfl

theorem answerRemote_get {w : World} {key : String} {e : Store.Entry}
    (havailable : w.store.isAvailable = true) (hlive : w.store.live? w.clock key = some e) :
    w.answerRemote (.store (.get key)) = (w, .ok (some e.value)) := by
  obtain ⟨hheld, hlive⟩ := Store.State.live?_eq_some_iff.mp hlive
  simp only [answerRemote, Store.State.answer, havailable, hheld, hlive, Bool.not_true,
    Bool.false_eq_true, if_false, if_true]

theorem answerRemote_get_none {w : World} {key : String} (havailable : w.store.isAvailable = true)
    (habsent : w.store.entries.find? key = none) :
    w.answerRemote (.store (.get key)) = (w, .ok none) := by
  simp only [answerRemote, Store.State.answer, havailable, habsent, Bool.not_true,
    Bool.false_eq_true, if_false]

/-- What a check of a readable token comes to, given the owner that the ledger has for it. -/
def ownerChecked (claims : Claims) : Option String → Except CheckError Claims
  | none => .error (.rejected .notRegistered)
  | some owner =>
    if Decimal.signed64? owner = some claims.user then .ok claims
    else .error (.rejected .userMismatch)

/-- What is left of a verification when its token has been accepted. -/
def afterAccepted (s : Issuer) (claims : Claims) : Task (Except SessionError Verified) :=
  (s.profile claims.user).bind fun
    | .error e => .done (.error e)
    | .ok user => .done (.ok ⟨⟨claims.user, claims.accessUuid, claims.refreshUuid⟩, user⟩)

section
variable {s : Issuer} {w : World} {token owner : String} {claims : Claims} {kind : Kind}

/-- A check of a readable token reads the clock and asks the ledger. -/
theorem trace_checkToken {found : Option String} (f : Except CheckError Claims → Task α)
    (hread : s.signer.claimsOf w.clock token kind = .ok claims)
    (hget : w.answerRemote (.store (.get (s.tokenKey kind (claims.uuid kind)))) =
      (w, .ok found)) :
    w.trace ((s.checkToken token kind).bind f) =
      (⟨.clock, w.clock⟩ ::
        ⟨.remote (.store (.get (s.tokenKey kind (claims.uuid kind)))) (some s.cacheLimit),
          some (.ok found)⟩ ::
        (w.trace (f (ownerChecked claims found))).1,
        (w.trace (f (ownerChecked claims found))).2) := by
  have hreply : w.reply (.remote (.store (.get (s.tokenKey kind (claims.uuid kind))))
      (some s.cacheLimit)) = (w, some (.ok found)) := by
    simp only [World.reply, hget]
  simp only [Issuer.checkToken, Program.bind_eq, Program.bind_assoc, trace_readClock, hread,
    Cache.get, Cache.ask, Task.store]
  rw [trace_perform, hreply]
  cases found with
  | none => rfl
  | some owner =>
    simp only [ownerChecked, Program.pure_eq, Program.done_bind]
    split <;> rfl

/-- A refresh with a token that is readable and registered is a rotation. -/
theorem trace_refresh (hblank : isAllBlank token = false)
    (hread : s.signer.claimsOf w.clock token .refresh = .ok claims)
    (hget : w.answerRemote (.store (.get (s.tokenKey .refresh claims.refreshUuid))) =
      (w, .ok (some owner)))
    (howner : Decimal.signed64? owner = some claims.user) :
    w.trace (s.refresh token) =
      (⟨.clock, w.clock⟩ ::
        ⟨.remote (.store (.get (s.tokenKey .refresh claims.refreshUuid))) (some s.cacheLimit),
          some (.ok (some owner))⟩ ::
        (w.trace (s.rotate claims)).1, (w.trace (s.rotate claims)).2) := by
  simp only [Issuer.refresh, hblank, Bool.false_eq_true, if_false, Program.bind_eq]
  rw [trace_checkToken _ hread hget, ownerChecked, if_pos howner]
  rfl

/-- A refresh with a token that is readable but not registered is refused. -/
theorem trace_refresh_of_absent (hblank : isAllBlank token = false)
    (hread : s.signer.claimsOf w.clock token .refresh = .ok claims)
    (hget : w.answerRemote (.store (.get (s.tokenKey .refresh claims.refreshUuid))) =
      (w, .ok none)) :
    w.trace (s.refresh token) =
      ([⟨.clock, w.clock⟩,
        ⟨.remote (.store (.get (s.tokenKey .refresh claims.refreshUuid))) (some s.cacheLimit),
          some (.ok none)⟩], w, some (.error (.refreshRejected .notRegistered))) := by
  simp only [Issuer.refresh, hblank, Bool.false_eq_true, if_false, Program.bind_eq]
  rw [trace_checkToken _ hread hget]
  rfl

/-- A verification of a token that is readable and registered goes on with the profile. -/
theorem trace_verify (hblank : isAllBlank token = false)
    (hread : s.signer.claimsOf w.clock token .access = .ok claims)
    (hget : w.answerRemote (.store (.get (s.tokenKey .access claims.accessUuid))) =
      (w, .ok (some owner)))
    (howner : Decimal.signed64? owner = some claims.user) :
    w.trace (s.verify token) =
      (⟨.clock, w.clock⟩ ::
        ⟨.remote (.store (.get (s.tokenKey .access claims.accessUuid))) (some s.cacheLimit),
          some (.ok (some owner))⟩ ::
        (w.trace (afterAccepted s claims)).1, (w.trace (afterAccepted s claims)).2) := by
  simp only [Issuer.verify, hblank, Bool.false_eq_true, if_false, Program.bind_eq]
  rw [trace_checkToken _ hread hget, ownerChecked, if_pos howner]
  rfl

end

/-- A refresh with a token that is not readable is refused at once. -/
theorem trace_refresh_of_error {s : Issuer} {w : World} {token : String} {fault : SignerFault}
    (hblank : isAllBlank token = false)
    (hread : s.signer.claimsOf w.clock token .refresh = .error fault) :
    w.trace (s.refresh token) =
      ([⟨.clock, w.clock⟩], w, some (.error (.refreshRejected (.ofSigner fault)))) := by
  simp only [Issuer.refresh, hblank, Bool.false_eq_true, if_false, Issuer.checkToken,
    Program.bind_eq, Program.bind_assoc, trace_readClock, hread, Program.pure_eq,
    Program.done_bind, trace]

end World

/-- The exchange has met no fault and no limit. -/
def isServed : Effect.interface.Exchange → Bool
  | ⟨.remote (.store _) _, some (.ok _)⟩ => true
  | ⟨.remote (.users _) _, some (.ok _)⟩ => true
  | ⟨.remote _ _, _⟩ => false
  | _ => true

/-- The exchanges of an operation as events. -/
def eventsOf (i : Nat) (d : Diary) : List Event :=
  d.map fun x => .called i x.1 x.2

@[simp] theorem diary_eventsOf (i : Nat) (d : Diary) : diary (eventsOf i d) i = d := by
  induction d with
  | nil => rfl
  | cons x d ih => exact (diary_cons_called i x.1 x.2 _).trans (congrArg (x :: ·) ih)

theorem exists_ok {ε α : Type} {o : Option (Except ε α)} (h : o.any Except.isOk = true) :
    ∃ a, o = some (.ok a) := by
  match o with
  | some (.ok a) => exact ⟨a, rfl⟩
  | some (.error e) => cases h
  | none => cases h

namespace Traffic
variable {s : Issuer} {T : Traffic} {i : Nat} {op : Operation} {result : op.Result}

/-- The events of an operation that runs alone to its result. -/
def aloneLog (s : Issuer) (T : Traffic) (op : Operation) (result : op.Result) : List Event :=
  .started T.count op ::
    (eventsOf T.count (T.world.trace (op.task s)).1 ++ [.returned T.count op result])

/-- What becomes of the traffic when an operation runs alone. -/
def alone (s : Issuer) (T : Traffic) (op : Operation) : Traffic :=
  { T.put T.count none with
    world := (T.world.trace (op.task s)).2.1
    count := T.count + 1 }

theorem alone_clock (s : Issuer) (T : Traffic) (op : Operation) :
    (T.alone s op).world.clock = T.world.clock :=
  World.trace_clock _ _

theorem alone_world {x : Diary × World × Option op.Result}
    (h : T.world.trace (op.task s) = x) : (T.alone s op).world = x.2.1 := by
  rw [← h]
  rfl

/-- A part of an operation that runs alone to its end makes a part of a run. -/
theorem Steps.part {α : Type} {p : Task α} {f : α → Task op.Result} {a : α}
    (hi : T.flight? i = some ⟨op, p.bind f⟩) (h : (T.world.trace p).2.2 = some a) :
    Steps s T (eventsOf i (T.world.trace p).1)
      { T.put i (some ⟨op, f a⟩) with world := (T.world.trace p).2.1 } := by
  induction p generalizing T with
  | done b =>
    obtain rfl := Option.some.inj h
    have hself : T.put i (some ⟨op, f b⟩) = T := put_self hi
    show Steps s T [] { T.put i (some ⟨op, f b⟩) with world := T.world }
    rw [hself]
    exact .refl
  | halt => cases h
  | call c next ih =>
    refine .cons (.answer hi (T.world.answers_reply c)) ?_
    have hrest := ih (T.world.reply c).2
      (T := { T.put i (some ⟨op, (next (T.world.reply c).2).bind f⟩) with
        world := (T.world.reply c).1 }) (by simp [put]) h
    rw [put_put] at hrest
    exact hrest

theorem Steps.trace {p : Task op.Result} (hi : T.flight? i = some ⟨op, p⟩)
    (h : (T.world.trace p).2.2 = some result) :
    Steps s T (eventsOf i (T.world.trace p).1 ++ [.returned i op result])
      { T.put i none with world := (T.world.trace p).2.1 } := by
  have hpart := Steps.part (s := s) (f := .done) (hi.trans (by rw [Program.bind_done])) h
  have hflight : ({ T.put i (some ⟨op, .done result⟩) with world := (T.world.trace p).2.1 } :
      Traffic).flight? i = some ⟨op, .done result⟩ := by
    simp [put]
  have hdone := hpart.snoc (.finish hflight)
  rw [put_put] at hdone
  exact hdone

/-- An operation that runs alone makes a part of a run. -/
theorem Steps.alone (hop : op.IsSession) (h : (T.world.trace (op.task s)).2.2 = some result) :
    Steps s T (aloneLog s T op result) (T.alone s op) := by
  refine .cons (.start hop) ?_
  have hrest := Steps.trace (s := s) (T := { T.put T.count (some ⟨op, op.task s⟩) with
    count := T.count + 1 }) (i := T.count) (by simp [put]) h
  rw [put_put] at hrest
  exact hrest

/-- The events of an operation that runs alone. -/
theorem mem_aloneLog {e : Event} :
    e ∈ aloneLog s T op result ↔ e = .started T.count op ∨
      (∃ c reply, ⟨c, reply⟩ ∈ (T.world.trace (op.task s)).1 ∧ e = .called T.count c reply) ∨
      e = .returned T.count op result := by
  simp only [aloneLog, eventsOf, List.mem_cons, List.mem_append, List.mem_map, List.not_mem_nil,
    or_false]
  constructor
  · rintro (rfl | ⟨⟨c, reply⟩, hmem, rfl⟩ | rfl)
    · exact .inl rfl
    · exact .inr (.inl ⟨c, reply, hmem, rfl⟩)
    · exact .inr (.inr rfl)
  · rintro (rfl | ⟨c, reply, hmem, rfl⟩ | rfl)
    · exact .inl rfl
    · exact .inr (.inl ⟨⟨c, reply⟩, hmem, rfl⟩)
    · exact .inr (.inr rfl)

theorem started_mem_aloneLog : .started T.count op ∈ aloneLog s T op result :=
  mem_aloneLog.mpr (.inl rfl)

theorem returned_mem_aloneLog : .returned T.count op result ∈ aloneLog s T op result :=
  mem_aloneLog.mpr (.inr (.inr rfl))

theorem started_of_mem_aloneLog {op' : Operation} (h : .started i op' ∈ aloneLog s T op result) :
    i = T.count ∧ op' = op := by
  rcases mem_aloneLog.mp h with heq | ⟨c, reply, -, heq⟩ | heq
  · cases heq
    exact ⟨rfl, rfl⟩
  · cases heq
  · cases heq

theorem flight?_of_mem_aloneLog {e : Event} (h : e ∈ aloneLog s T op result) :
    e.flight? = some T.count := by
  rcases mem_aloneLog.mp h with rfl | ⟨c, reply, -, rfl⟩ | rfl <;> rfl

theorem mem_trace_of_mem_aloneLog {c : Effect.Call} {reply : c.Reply}
    (h : .called i c reply ∈ aloneLog s T op result) :
    ⟨c, reply⟩ ∈ (T.world.trace (op.task s)).1 := by
  rcases mem_aloneLog.mp h with heq | ⟨c', reply', hmem, heq⟩ | heq
  · cases heq
  · cases heq
    exact hmem
  · cases heq

theorem diary_aloneLog :
    diary (aloneLog s T op result) T.count = (T.world.trace (op.task s)).1 := by
  rw [aloneLog, diary_cons_of_none rfl, diary_snoc_of_none rfl, diary_eventsOf]

end Traffic

/-! ## A service with one user -/

/-- A service whose prefixes of keys are apart. -/
def sampleIssuer : Issuer where
  signer := ⟨"access secret", "refresh secret"⟩
  accessTtl := 900
  refreshTtl := 604800
  accessPrefix := "access:"
  refreshPrefix := "refresh:"
  userPrefix := "user:"
  cacheLimit := 500
  usersLimit := 2000
  requestLimit := 5000
  decoyCost := 4

/-- The row of a user with an identifier. -/
def sampleUser (id : Int64) : User.Row where
  id := id
  firstName := "Ada"
  lastName := "Lovelace"
  email := "ada@example.org"
  passwordHash := ""
  phone := none
  profilePicture := none
  lastLogin := none
  isFirstLogin := true
  created := Time.Stamp.epoch
  updated := Time.Stamp.epoch

/-- Surroundings with one user, whose password is whatever is given. Snapshots cannot be cached. -/
def sampleWorld (id : Int64) : World where
  clock := 0
  accepts := fun _ _ => .fits
  store := { failingPrefix := some "user:" }
  users := { accounts := [⟨sampleUser id, none, none, none, none, none, false⟩] }

/-- The login of the user. -/
abbrev sampleLogin : Operation :=
  .login "ada@example.org" "secret"

/-- The pair for a user with given identifiers that is issued at the start. -/
def samplePair (user : Int64) (accessUuid refreshUuid : String) : Pair where
  user := user
  accessToken := sign "access secret" ⟨user, accessUuid, refreshUuid, 0, 900, .access⟩
  refreshToken := sign "refresh secret" ⟨user, accessUuid, refreshUuid, 0, 604800, .refresh⟩
  accessUuid := accessUuid
  refreshUuid := refreshUuid
  accessExpiry := 900
  refreshExpiry := 604800

/-- The surroundings with a pair registered to the user. -/
def pairedWorld (id : Int64) : World :=
  { sampleWorld id with
    store := { entries :=
      [("access:a", ⟨Decimal.ofInt64 id, some 900000⟩),
        ("refresh:r", ⟨Decimal.ofInt64 id, some 604800000⟩)] } }

theorem pairAt?_samplePair (user : Int64) (accessUuid refreshUuid : String) :
    sampleIssuer.pairAt? 0 ⟨user, accessUuid, refreshUuid⟩ =
      some (samplePair user accessUuid refreshUuid) := rfl

/-- At the start a token of a complete pair is read as what it says. -/
theorem claimsOf_samplePair (user : Int64) (accessUuid refreshUuid : String) {now : Nat}
    (kind : Kind) (hnow : now = 0) (huser : 0 < user) (haccess : accessUuid ≠ "")
    (hrefresh : refreshUuid ≠ "") :
    sampleIssuer.signer.claimsOf now ((samplePair user accessUuid refreshUuid).token kind) kind =
      .ok ((samplePair user accessUuid refreshUuid).claims 0 kind) := by
  have hexpiry : (now / 1000 : Nat) ≤
      ((samplePair user accessUuid refreshUuid).expiry kind).toInt := by
    subst hnow
    cases kind with
    | access => exact (by decide : (0 : Int) ≤ Int64.toInt 900)
    | refresh => exact (by decide : (0 : Int) ≤ Int64.toInt 604800)
  exact (Issuer.claimsOf_token_eq_ok_iff (pairAt?_samplePair user accessUuid refreshUuid) now
    kind).mpr ⟨rfl, hexpiry, huser, haccess, hrefresh⟩

theorem sampleIssuer_prefixesApart : sampleIssuer.PrefixesApart := by
  constructor <;> decide

/-- The traffic after the login. -/
abbrev afterLogin : Traffic :=
  (Traffic.idle (sampleWorld 7)).alone sampleIssuer sampleLogin

/-- The login succeeds. -/
theorem run_sampleLogin : ∃ grant, Traffic.Run sampleIssuer (sampleWorld 7)
    (Traffic.aloneLog sampleIssuer (.idle (sampleWorld 7)) sampleLogin (.ok grant)) afterLogin := by
  have hgranted : ((sampleWorld 7).trace (sampleLogin.task sampleIssuer)).2.2.any Except.isOk := by
    decide +kernel
  obtain ⟨grant, hgrant⟩ := exists_ok hgranted
  exact ⟨grant, .alone trivial hgrant⟩

/-- A refresh with the token of the pair that is registered at the start. -/
abbrev pairedRefresh (user : Int64) : Operation :=
  .refresh (samplePair user "a" "r").refreshToken

/-- The traffic after that refresh. -/
abbrev afterPaired : Traffic :=
  (Traffic.idle (pairedWorld 7)).alone sampleIssuer (pairedRefresh 7)

/-- The refresh is a rotation. -/
theorem trace_pairedRefresh : (pairedWorld 7).trace ((pairedRefresh 7).task sampleIssuer) =
    (⟨.clock, (pairedWorld 7).clock⟩ ::
      ⟨.remote (.store (.get (sampleIssuer.tokenKey .refresh "r"))) (some 500),
        some (.ok (some "7"))⟩ ::
      ((pairedWorld 7).trace (sampleIssuer.rotate ((samplePair 7 "a" "r").claims 0 .refresh))).1,
      ((pairedWorld 7).trace
        (sampleIssuer.rotate ((samplePair 7 "a" "r").claims 0 .refresh))).2) := by
  have hminted := pairAt?_samplePair 7 "a" "r"
  have hclock : (pairedWorld 7).clock = 0 := rfl
  have hread := claimsOf_samplePair 7 "a" "r" .refresh hclock (by decide) (by decide) (by decide)
  have hlive : (pairedWorld 7).store.live? (pairedWorld 7).clock
      (sampleIssuer.tokenKey .refresh "r") = some ⟨"7", some 604800000⟩ := by
    decide +kernel
  exact World.trace_refresh (Issuer.isAllBlank_token hminted .refresh) hread
    (World.answerRemote_get (by decide +kernel) hlive) (by decide +kernel)

/-- It is granted. -/
theorem run_pairedRefresh : ∃ grant, Traffic.Run sampleIssuer (pairedWorld 7)
    (Traffic.aloneLog sampleIssuer (.idle (pairedWorld 7)) (pairedRefresh 7) (.ok grant))
    afterPaired := by
  have hgranted : ((pairedWorld 7).trace
      (sampleIssuer.rotate ((samplePair 7 "a" "r").claims 0 .refresh))).2.2.any Except.isOk := by
    decide +kernel
  obtain ⟨grant, hgrant⟩ := exists_ok hgranted
  refine ⟨grant, .alone trivial ?_⟩
  rw [Traffic.idle, trace_pairedRefresh]
  exact hgrant

/-- Another refresh after it finds the pair gone. -/
theorem trace_pairedRefresh_again : afterPaired.world.trace ((pairedRefresh 7).task sampleIssuer) =
    ([⟨.clock, afterPaired.world.clock⟩,
      ⟨.remote (.store (.get (sampleIssuer.tokenKey .refresh "r"))) (some 500), some (.ok none)⟩],
      afterPaired.world, some (.error (.refreshRejected .notRegistered))) := by
  have hminted := pairAt?_samplePair 7 "a" "r"
  have hclock : afterPaired.world.clock = 0 := Traffic.alone_clock ..
  have hread := claimsOf_samplePair 7 "a" "r" .refresh hclock (by decide) (by decide) (by decide)
  have hworld := Traffic.alone_world (T := .idle (pairedWorld 7)) trace_pairedRefresh
  have havailable : afterPaired.world.store.isAvailable = true := by
    rw [hworld]
    decide +kernel
  have habsent : afterPaired.world.store.entries.find? (sampleIssuer.tokenKey .refresh "r") =
      none := by
    rw [hworld]
    decide +kernel
  exact World.trace_refresh_of_absent (Issuer.isAllBlank_token hminted .refresh) hread
    (World.answerRemote_get_none havailable habsent)

/-- So it is refused. -/
theorem steps_pairedRefresh : Traffic.Steps sampleIssuer afterPaired
    (Traffic.aloneLog sampleIssuer afterPaired (pairedRefresh 7)
      (.error (.refreshRejected .notRegistered)))
    (afterPaired.alone sampleIssuer (pairedRefresh 7)) :=
  .alone trivial (congrArg (·.2.2) trace_pairedRefresh_again)

end SessionLedger
