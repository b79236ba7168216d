import SessionLedger.Proofs.Ledger.Verdict
import SessionLedger.Proofs.Text.Uuid
import SessionLedger.Proofs.Traffic.Alone
import SessionLedger.Proofs.Traffic.Entry

/-! How long a registered pair is good for. Its expiries are whole seconds, and so is the clock
when the lifetimes of its entries are counted, but the entries are written later and to the
millisecond. All of this rounding goes one way: an entry lives at least until its token expires,
and only a little longer. In the second of its expiry a token may still be accepted, and after it
never. -/
namespace SessionLedger
open Session Token Text

/-! ## Entries that are kept for good -/

/-- A write has a lifetime. -/
def Effect.Call.SetsToExpire : Effect.Call → Prop
  | .remote (.store (.set _ _ lifetime)) _ => 0 < lifetime
  | _ => True

theorem Store.State.expiry_isSome_of_answer {m : Store.State} {now : Nat} {c : Store.Call}
    {limit : Option Nat} {key : String} {x : Store.Entry}
    (hc : Effect.Call.SetsToExpire (.remote (.store c) limit))
    (h : (m.answer now c).1.entries.find? key = some x) :
    x.expiry.isSome = true ∨ m.entries.find? key = some x := by
  cases hr : (m.answer now c).2 with
  | error r =>
    rw [answer_error hr] at h
    exact .inr h
  | ok a =>
    cases c with
    | set k v lifetime =>
      rw [answer_set hr, Table.find?_insert] at h
      split at h
      · cases h
        have hpos : 0 < lifetime := hc
        left
        rw [expiryAt, if_neg (by omega), Option.isSome_some]
      · exact .inr h
    | get k =>
      have hread : (m.answer now (.get k)).1.entries.find? key = m.entries.find? key ∨
          (m.answer now (.get k)).1.entries.find? key = none ∧ m.live? now key = none :=
        find?_answer (fun v l heq => by cases heq) (fun ks heq => by cases heq)
      rcases hread with heq | ⟨hnone, -⟩
      · exact .inr (heq ▸ h)
      · rw [hnone] at h
        cases h
    | delete ks =>
      rw [(answer_delete hr).1, find?_deleteAll] at h
      split at h
      · cases h
      · exact .inr h
    | ping => exact .inr h

namespace World
variable {s : Issuer} {v v' w w' : World} {user : Int64} {pair : Pair} {kind : Kind} {α : Type}

/-- A lone call changes the key-value store only by its answer. -/
theorem settle_store_cases {deadline : Option Nat} {c : Effect.Call} {reply : Option c.Reply}
    (h : w.settle deadline c = (w', reply)) :
    w'.store = w.store ∨ ∃ now call limit, c = .remote (.store call) limit ∧
      w'.store = (w.store.answer now call).1 := by
  cases c with
  | clock =>
    cases h
    exact .inl rfl
  | uuid =>
    cases h
    exact .inl rfl
  | compare c =>
    cases h
    exact .inl rfl
  | remote c limit =>
    simp only [settle] at h
    split at h
    all_goals
      obtain ⟨⟨millis, rfl⟩, -⟩ := await_cases ‹_›
      cases h
    · cases c with
      | store call => exact .inr ⟨_, call, limit, rfl, rfl⟩
      | users call => exact .inl rfl
    · exact .inl rfl
    · exact .inl rfl

/-- A program whose writes have lifetimes leaves no entry for good that was not there before,
however it ends. -/
theorem expiry_isSome_of_run {deadline : Option Nat} {p : Task α}
    (hp : p.Only Effect.Call.SetsToExpire) (w : World) {key : String} {x : Store.Entry}
    (h : (run deadline p w).1.store.entries.find? key = some x) :
    x.expiry.isSome = true ∨ w.store.entries.find? key = some x := by
  induction p generalizing w with
  | done a => exact .inr h
  | halt => exact .inr h
  | call c next ih =>
    have hcall : ∀ {U reply}, w.settle deadline c = (U, reply) →
        x.expiry.isSome = true ∨ U.store.entries.find? key = some x →
        x.expiry.isSome = true ∨ w.store.entries.find? key = some x := by
      intro U reply hsettle hU
      rcases hU with hexpires | hU
      · exact .inl hexpires
      · rcases settle_store_cases hsettle with hstore | ⟨now, call, limit, rfl, hstore⟩
        · exact .inr (hstore ▸ hU)
        · rw [hstore] at hU
          exact Store.State.expiry_isSome_of_answer hp.1 hU
    match hsettle : w.settle deadline c with
    | (U, some reply) =>
      rw [run_call hsettle] at h
      exact hcall hsettle (ih reply (hp.2 reply) U h)
    | (U, none) =>
      rw [run, hsettle] at h
      exact hcall hsettle (.inr h)

/-- Registering a pair keeps nothing for good. -/
theorem expiry_isSome_of_register {key : String} {x : Store.Entry}
    (h : (w.perform s (.register pair)).1.store.entries.find? key = some x) :
    x.expiry.isSome = true ∨ w.store.entries.find? key = some x := by
  have hp : (s.register pair).Only Effect.Call.SetsToExpire :=
    only_register_of_pos trivial fun _ _ _ _ hpos => hpos
  have hworld : (w.perform s (.register pair)).1 = (run none (s.register pair) w).1 := by
    have hdeadline : (Operation.register pair).deadline s = none := rfl
    simp only [perform, hdeadline, Operation.task]
    split
    next hrun => rw [hrun]
    next hrun => rw [hrun]
  rw [hworld] at h
  exact expiry_isSome_of_run hp w h

/-! ## Entries of a registered pair -/

/-- A write that succeeds is written one latency later, and that is in time. -/
theorem ends_set (limit : Nat) (key value : String) (lifetime : Nat) :
    Ends (Cache.set limit key value lifetime) w fun w' result => result = .ok () →
      w.store.latency ≤ limit ∧ w'.clock = w.clock + w.store.latency ∧
      w'.store.latency = w.store.latency ∧
      w'.store.entries = w.store.entries.insert key
        ⟨value, Store.State.expiryAt (w.clock + w.store.latency) lifetime⟩ := by
  refine ends_call.mpr fun U reply hsettle => ?_
  rw [settle_store] at hsettle
  split at hsettle
  next hlimit =>
    cases hsettle
    have hstore := w.store.answer_eq (w.clock + w.store.latency) (.set key value lifetime)
    simp only [answerRemote, advance]
    cases hanswer : (w.store.answer (w.clock + w.store.latency) (.set key value lifetime)).2 with
    | ok a =>
      refine ends_done.mpr fun _ => ⟨hlimit, rfl, ?_, Store.State.answer_set hanswer⟩
      rw [hstore]
    | error r =>
      show Ends ((Program.orHalt (Cache.refused r)).bind _) _ _
      rw [ends_bind, ends_orHalt]
      exact fun fault _ => ends_done.mpr fun hok => by cases hok
  next =>
    cases hsettle
    exact ends_done.mpr fun hok => by cases hok

/-- The pair has been registered: its entries were written with the lifetimes that were counted at
the beginning, the second of them one latency after the first. -/
theorem ends_register (w : World) (pair : Pair) :
    Ends (s.register pair) w fun w' result => result = .ok () →
      ∃ access refresh, Issuer.remaining? pair.accessExpiry w.clock = some access ∧
        Issuer.remaining? pair.refreshExpiry w.clock = some refresh ∧
        w.store.latency ≤ s.cacheLimit ∧ w'.clock = w.clock + 2 * w.store.latency ∧
        w'.store.entries =
          (w.store.entries.insert (s.tokenKey .access pair.accessUuid)
            ⟨Decimal.ofInt64 pair.user,
              Store.State.expiryAt (w.clock + w.store.latency) access⟩).insert
            (s.tokenKey .refresh pair.refreshUuid)
            ⟨Decimal.ofInt64 pair.user,
              Store.State.expiryAt (w.clock + 2 * w.store.latency) refresh⟩ := by
  simp only [Issuer.register, Program.bind_eq]
  rw [ends_clock, ends_bind, ends_orHalt]
  intro access haccess
  rw [ends_bind]
  refine (ends_set _ _ _ _).imp fun U written hU => ?_
  cases written with
  | error e => exact ends_done.mpr fun hok => by cases hok
  | ok a =>
    obtain ⟨hlimit, hclock, hlatency, hentries⟩ := hU rfl
    dsimp only
    rw [ends_bind, ends_orHalt]
    intro refresh hrefresh
    refine (ends_set _ _ _ _).imp fun w' result hw' hok => ?_
    obtain ⟨-, hclock', -, hentries'⟩ := hw' hok
    have htwice : U.clock + U.store.latency = w.clock + 2 * w.store.latency := by
      omega
    refine ⟨access, refresh, haccess, hrefresh, hlimit, hclock'.trans htwice, ?_⟩
    rw [hentries', hentries, htwice]

/-- Each entry of a registered pair holds its user, and its lifetime was counted before it was
written. -/
theorem find?_of_register (h : w.perform s (.register pair) = (w', some (.ok ())))
    (hkeys : s.tokenKey .access pair.accessUuid ≠ s.tokenKey .refresh pair.refreshUuid)
    (kind : Kind) :
    ∃ written lifetime, w.clock ≤ written ∧ written ≤ w.clock + 2 * s.cacheLimit ∧
      Issuer.remaining? (pair.expiry kind) w.clock = some lifetime ∧
      w'.store.entries.find? (s.tokenKey kind (pair.uuid kind)) =
        some ⟨Decimal.ofInt64 pair.user, some (written + 1000 * lifetime)⟩ := by
  obtain ⟨access, refresh, haccess, hrefresh, hlimit, -, hentries⟩ :=
    ends_register w pair w' _ (run_of_perform rfl h) rfl
  have hpos := Issuer.remaining?_pos haccess
  have hpos' := Issuer.remaining?_pos hrefresh
  cases kind with
  | access =>
    refine ⟨w.clock + w.store.latency, access, by omega, by omega, haccess, ?_⟩
    rw [hentries, Pair.uuid, Store.Table.find?_insert, if_neg hkeys, Store.Table.find?_insert,
      if_pos rfl, Store.State.expiryAt, if_neg (by omega)]
  | refresh =>
    refine ⟨w.clock + 2 * w.store.latency, refresh, by omega, by omega, hrefresh, ?_⟩
    rw [hentries, Pair.uuid, Store.Table.find?_insert, if_pos rfl, Store.State.expiryAt,
      if_neg (by omega)]

/-! ## The window -/

/-- The two identifiers that are drawn next are canonical and not the same. -/
structure DrawsApart (v : World) : Prop where
  access : Uuid.IsCanonical (v.supply v.drawn)
  refresh : Uuid.IsCanonical (v.supply (v.drawn + 1))
  differ : v.supply v.drawn ≠ v.supply (v.drawn + 1)

/-- From when to when a token of a pair is good, and its identifier registered. The pair was minted
in certain surroundings, and registering it has led from some to others. -/
structure Window (s : Issuer) (v : World) (pair : Pair) (w w' : World) (kind : Kind) : Prop where
  live : ∀ now : Nat, (now : Int) < 1000 * (pair.expiry kind).toInt →
    w'.store.peek? now (s.tokenKey kind (pair.uuid kind)) = some (Decimal.ofInt64 pair.user)
  /-- Whatever happens after the registration, if its entry is neither removed nor written over, the
  token is accepted where that store is there and answers at once. -/
  accepted : ∀ log T, Traffic.Run s w' log T →
    (∀ e ∈ log, ∀ value, ¬ e.Writes (s.tokenKey kind (pair.uuid kind)) value) →
    (∀ e ∈ log, ¬ e.Removes (s.tokenKey kind (pair.uuid kind))) →
    ∀ u : World, u.store.entries = T.world.store.entries → T.world.clock ≤ u.clock →
      (u.clock : Int) < 1000 * (pair.expiry kind).toInt →
      u.store.isAvailable = true → u.store.latency = 0 →
      (u.perform s (.checkToken (pair.token kind) kind)).2 = some (.ok (pair.claims v.clock kind))
  gone : (w.clock / 1000 : Nat) < (pair.expiry kind).toInt →
    ∀ now : Nat, 1000 * (pair.expiry kind).toInt + 1000 + 2 * s.cacheLimit ≤ now →
      w'.store.live? now (s.tokenKey kind (pair.uuid kind)) = none

/-- What a pair that was minted for a user in certain surroundings is good for. -/
structure IsGood (s : Issuer) (v : World) (user : Int64) (pair : Pair) : Prop where
  subject : pair.user = user ∧ pair.accessUuid = v.supply v.drawn ∧
    pair.refreshUuid = v.supply (v.drawn + 1)
  /-- The lifetimes of its entries can be counted at every instant. -/
  counted : ∀ kind (now : Nat), (now / 1000 : Nat) ≤ Int64.maxValue.toInt →
    ∃ lifetime, Issuer.remaining? (pair.expiry kind) now = some lifetime ∧ 0 < lifetime
  /-- Whenever it is registered and whatever comes of it, nothing is kept for good. -/
  expires : ∀ (w : World) key x,
    (w.perform s (.register pair)).1.store.entries.find? key = some x →
    x.expiry.isSome = true ∨ w.store.entries.find? key = some x
  window : ∀ w w', w.perform s (.register pair) = (w', some (.ok ())) →
    ∀ kind, Window s v pair w w' kind
  /-- After the second of its expiry a token is refused, whatever the store holds. -/
  expired : ∀ kind (u : World), 1000 * ((pair.expiry kind).toInt + 1) ≤ u.clock →
    (u.perform s (.checkToken (pair.token kind) kind)).2 = some (.error (.rejected .expired))

section
variable (huser : 0 < user) (hdraws : v.DrawsApart)
variable (hmint : v.perform s (.mint user) = (v', some pair))
include hmint

theorem pairAt?_of_mint :
    s.pairAt? v.clock ⟨user, v.supply v.drawn, v.supply (v.drawn + 1)⟩ = some pair := by
  rw [perform_mint] at hmint
  exact (Prod.mk.inj hmint).2

theorem subject_of_mint : pair.user = user ∧ pair.accessUuid = v.supply v.drawn ∧
    pair.refreshUuid = v.supply (v.drawn + 1) := by
  obtain ⟨huser, haccess, hrefresh⟩ :=
    Subject.mk.inj (Issuer.pairAt?_subject (pairAt?_of_mint hmint))
  exact ⟨huser.symm, haccess.symm, hrefresh.symm⟩

theorem expiry_nonneg_of_mint (httl : ∀ kind, 0 < s.ttl kind) (kind : Kind) :
    0 ≤ (pair.expiry kind).toInt := by
  have hexpiry := Issuer.pairAt?_expiry (pairAt?_of_mint hmint) kind
  have hpos := httl kind
  omega

/-- Identifiers that are not the same have different keys, even under one prefix. -/
theorem keys_differ_of_mint (hdraws : v.DrawsApart) :
    s.tokenKey .access pair.accessUuid ≠ s.tokenKey .refresh pair.refreshUuid := by
  obtain ⟨-, haccess, hrefresh⟩ := subject_of_mint hmint
  rw [haccess, hrefresh]
  intro heq
  have hlength := hdraws.access.length.trans hdraws.refresh.length.symm
  exact hdraws.differ ((Issuer.tokenKey_eq_iff_of_length hlength).mp heq).2

include huser hdraws

/-- Until a token expires, a store that is there and answers at once has it accepted where its
identifier is registered for its user. -/
theorem accepted_of_mint {u : World} (hnow : (u.clock : Int) < 1000 * (pair.expiry kind).toInt)
    (havailable : u.store.isAvailable = true) (hlatency : u.store.latency = 0)
    (hpeek : u.store.peek? u.clock (s.tokenKey kind (pair.uuid kind)) =
      some (Decimal.ofInt64 pair.user)) :
    (u.perform s (.checkToken (pair.token kind) kind)).2 =
      some (.ok (pair.claims v.clock kind)) := by
  obtain ⟨hpair, haccess, hrefresh⟩ := subject_of_mint hmint
  obtain ⟨U, result, hrun, hverdict⟩ := u.run_checkToken s (pair.token kind) kind
  have hread : s.signer.claimsOf u.clock (pair.token kind) kind =
      .ok (pair.claims v.clock kind) := by
    refine (Issuer.claimsOf_token_eq_ok_iff (pairAt?_of_mint hmint) u.clock kind).mpr
      ⟨rfl, by omega, by rw [hpair]; exact huser, ?_, ?_⟩
    · rw [haccess]
      exact hdraws.access.ne_empty
    · rw [hrefresh]
      exact hdraws.refresh.ne_empty
  have hfound : u.found? (s.tokenKey kind ((pair.claims v.clock kind).uuid kind)) =
      some (Decimal.ofInt64 pair.user) := by
    rw [found?, hlatency, Nat.add_zero, Pair.uuid_claims, hpeek]
  have hresponds : u.Responds s := ⟨havailable, by omega⟩
  have haccepted : u.Verdict s (pair.token kind) kind (.ok (pair.claims v.clock kind)) :=
    .accepted hread hresponds hfound (Decimal.signed64?_ofInt64 pair.user)
  rw [perform_checkToken.mpr hrun, hverdict.unique haccepted]

theorem window_of_mint (h : w.perform s (.register pair) = (w', some (.ok ()))) (kind : Kind) :
    Window s v pair w w' kind := by
  obtain ⟨written, lifetime, hwritten, hlate, hremaining, hentry⟩ :=
    find?_of_register h (keys_differ_of_mint hmint hdraws) kind
  have hlifetime := Issuer.remaining?_eq_some hremaining
  have hlive : ∀ now : Nat, (now : Int) < 1000 * (pair.expiry kind).toInt →
      w'.store.live? now (s.tokenKey kind (pair.uuid kind)) =
        some ⟨Decimal.ofInt64 pair.user, some (written + 1000 * lifetime)⟩ := by
    intro now hnow
    refine Store.State.live?_eq_some_iff.mpr ⟨hentry, ?_⟩
    simp only [Store.Entry.isLive, Option.all_some, decide_eq_true_eq]
    omega
  refine ⟨fun now hnow => ?_, fun log T hrun hwrites hremoves u hentries hlater hnow
    havailable hlatency => ?_, fun hfuture now hnow => ?_⟩
  · rw [Store.State.peek?, hlive now hnow, Option.map_some]
  · have hheld := (hrun.live?_of_quiet hwrites hremoves).trans (hlive T.world.clock (by omega))
    refine accepted_of_mint huser hdraws hmint hnow havailable hlatency ?_
    have hfound := (Traffic.live?_eq_some_iff.mp hheld).1
    rw [Traffic.held?, ← hentries] at hfound
    rw [Store.State.peek?, Store.State.live?_eq_some_iff.mpr
      ⟨hfound, (Store.State.live?_eq_some_iff.mp (hlive u.clock hnow)).2⟩, Option.map_some]
  · refine Store.State.live?_eq_none_iff.mpr fun e he => ?_
    cases hentry.symm.trans he
    simp only [Store.Entry.isLive, Option.all_some, decide_eq_false_iff_not]
    omega

/-- A pair is good from when it has been registered until its tokens expire. No entry dies before
its token, so that only a revocation ends a session earlier; each of them dies at most a second and
two limits of a call after its token, if it was registered before that had expired; and nothing is
kept for good. -/
theorem isGood_of_mint (httl : ∀ kind, 0 < s.ttl kind) : IsGood s v user pair where
  subject := subject_of_mint hmint
  counted kind now hnow := by
    obtain ⟨lifetime, hlifetime⟩ :=
      Issuer.exists_remaining? (expiry_nonneg_of_mint hmint httl kind) hnow
    exact ⟨lifetime, hlifetime, Issuer.remaining?_pos hlifetime⟩
  expires _ _ _ := expiry_isSome_of_register
  window _ _ h := window_of_mint huser hdraws hmint h
  expired kind u hnow := by
    have hread : s.signer.claimsOf u.clock (pair.token kind) kind = .error .expired :=
      Issuer.claimsOf_token_of_expired (pairAt?_of_mint hmint)
        (expiry_nonneg_of_mint hmint httl kind) (by omega)
    rw [perform_checkToken.mpr (run_checkToken_of_error hread).1]
    rfl

end

end World

/-- Surroundings of a service in which the store takes a tenth of a second. -/
def laggingWorld : World :=
  { sampleWorld 7 with clock := 250, store := { latency := 100 } }

/-- The surroundings after a pair from the start has been registered there. -/
abbrev laggingRegistered : World :=
  (laggingWorld.perform sampleIssuer
    (.register (samplePair 7 (Uuid.numbered 1) (Uuid.numbered 2)))).1

/-- The access token of a pair that was minted at the start to live for 900 seconds is accepted in
the last millisecond before its expiry, and it is refused a second after it. Its entry is gone
after two more latencies. -/
theorem World.isGood_of_mint_of_lagging :
    (World.perform sampleIssuer (.checkToken
        (samplePair 7 (Uuid.numbered 1) (Uuid.numbered 2)).accessToken .access)
      { laggingRegistered with
        clock := 899999, store := { laggingRegistered.store with latency := 0 } }).2 =
      some (.ok ((samplePair 7 (Uuid.numbered 1) (Uuid.numbered 2)).claims 0 .access)) ∧
    (World.perform sampleIssuer (.checkToken
        (samplePair 7 (Uuid.numbered 1) (Uuid.numbered 2)).accessToken .access)
      { laggingRegistered with clock := 901000 }).2 = some (.error (.rejected .expired)) ∧
    laggingRegistered.store.live? 902000 (sampleIssuer.tokenKey .access (Uuid.numbered 1)) =
      none := by
  have hmint : (sampleWorld 7).perform sampleIssuer (.mint 7) =
      ({ sampleWorld 7 with drawn := 2 },
        some (samplePair 7 (Uuid.numbered 1) (Uuid.numbered 2))) := by
    rw [World.perform_mint]
    exact Prod.ext rfl (pairAt?_samplePair _ _ _)
  have hdraws : (sampleWorld 7).DrawsApart :=
    ⟨Uuid.isCanonical_numbered (by decide), Uuid.isCanonical_numbered (by decide),
      by decide +kernel⟩
  have hgood := World.isGood_of_mint (s := sampleIssuer) (by decide) hdraws hmint
    (fun kind => by cases kind <;> decide)
  have hok : (laggingWorld.perform sampleIssuer
      (.register (samplePair 7 (Uuid.numbered 1) (Uuid.numbered 2)))).2.any Except.isOk = true := by
    decide +kernel
  obtain ⟨⟨⟩, hregistered⟩ := exists_ok hok
  have hwindow := hgood.window laggingWorld laggingRegistered (Prod.ext rfl hregistered) .access
  refine ⟨?_, ?_, ?_⟩
  · exact hwindow.accepted [] _ .refl (by simp) (by simp) _ rfl (by decide +kernel) (by decide)
      (by decide +kernel) rfl
  · exact hgood.expired .access _ (by decide)
  · exact hwindow.gone (by decide) 902000 (by decide)

end SessionLedger
