import SessionLedger.Proofs.Ledger.Revocation

/-! The two identifiers of a pair stand together. They are registered one after the other, the
refresh identifier last and for no shorter time, and they are removed by one call, whichever
operation removes them. So while a pair that has been handed out can be verified, it can also be
refreshed, and both identifiers name its user. -/
namespace SessionLedger
open Session Token Text

/-- An operation presents a token of a kind. -/
inductive Session.Operation.Presents : Operation → String → Kind → Prop
  | refresh (token : String) : Presents (.refresh token) token .refresh
  | verify (token : String) : Presents (.verify token) token .access

theorem Session.Operation.Presents.of_verify {token token' : String} {kind : Kind}
    (h : Presents (.verify token) token' kind) : token' = token ∧ kind = .access := by
  cases h
  exact ⟨rfl, rfl⟩

/-- Callers forge nothing: a token that can be read has been minted in the run, and an identity that
is logged out is one that a verification has told. -/
structure Genuine (s : Issuer) (log : List Event) : Prop where
  token : ∀ {i op token kind now claims}, .started i op ∈ log → op.Presents token kind →
    s.signer.claimsOf now token kind = .ok claims →
    ∃ pair, MintedIn s log pair ∧ token = pair.token kind
  identity : ∀ {i identity}, .started i (.logout identity) ∈ log →
    ∃ j token verified, .returned j (.verify token) (.ok verified) ∈ log ∧
      verified.identity = identity

/-- While an access identifier is live, both it and a refresh identifier that does not die before it
are registered to an owner. -/
def Traffic.Paired (s : Issuer) (T : Traffic) (a r owner : String) : Prop :=
  ∀ x, T.live? (s.tokenKey .access a) = some x → x.value = owner ∧
    ∃ y, T.held? (s.tokenKey .refresh r) = some y ∧ y.value = owner ∧
      ∀ now, x.isLive now = true → y.isLive now = true

variable {s : Issuer} {w : World} {T U V T₁ : Traffic} {log log' log₁ log₂ : List Event}
variable {i lifetime : Nat} {a r key owner : String} {pair : Pair} {e : Event} {op : Operation}

/-- The identifiers that a genuine token names have been drawn together. -/
theorem Genuine.drawn_of_reads (h : Genuine s log) {d : Diary} {token : String} {kind : Kind}
    {claims : Claims} (hstart : .started i op ∈ log) (hop : op.Presents token kind)
    (hreads : Reads s d token kind claims) :
    ∃ j, [claims.accessUuid, claims.refreshUuid] <+: drawn (diary log j) := by
  obtain ⟨now, -, hread⟩ := hreads
  obtain ⟨pair, ⟨j, _, hdrawn, hminted⟩, rfl⟩ := h.token hstart hop hread
  obtain rfl := ((Issuer.claimsOf_token_eq_ok_iff hminted now kind).mp hread).1
  exact ⟨j, hdrawn⟩

namespace Traffic

/-- The refresh identifier of a live access identifier is live. -/
theorem Paired.live (h : T.Paired s a r owner) {x : Store.Entry}
    (hx : T.live? (s.tokenKey .access a) = some x) :
    x.value = owner ∧ ∃ y, T.live? (s.tokenKey .refresh r) = some y ∧ y.value = owner := by
  obtain ⟨hvalue, y, hy, hvalue', hlasts⟩ := h x hx
  exact ⟨hvalue, y, live?_eq_some_iff.mpr ⟨hy, hlasts _ (live?_eq_some_iff.mp hx).2⟩, hvalue'⟩

/-- A step that writes neither identifier and removes none or both keeps them together. -/
theorem Step.paired (h : Step s T e T₁) (hT : T.Paired s a r owner)
    (hw : ∀ key ∈ s.pairKeys a r, ∀ value, ¬ e.Writes key value)
    (hr : ∀ key ∈ s.pairKeys a r, e.Removes key → e.Removes (s.tokenKey .access a)) :
    T₁.Paired s a r owner := by
  have haccess : s.tokenKey .access a ∈ s.pairKeys a r := Issuer.mem_pairKeys.mpr (.inl rfl)
  have hrefresh : s.tokenKey .refresh r ∈ s.pairKeys a r := Issuer.mem_pairKeys.mpr (.inr rfl)
  intro x hx
  obtain ⟨hheld, hlive⟩ := live?_eq_some_iff.mp hx
  -- The access identifier was live before, and so was the refresh identifier.
  have hbefore : T.held? (s.tokenKey .access a) = some x :=
    (h.held?_eq_some hheld).resolve_left (hw _ haccess _)
  have hlive' := Store.Entry.isLive_of_le hlive h.clock_le
  obtain ⟨hvalue, y, hy, hvalue', hlasts⟩ := hT x (live?_eq_some_iff.mpr ⟨hbefore, hlive'⟩)
  refine ⟨hvalue, y, ?_, hvalue', hlasts⟩
  have hkept : ¬ e.Removes (s.tokenKey .refresh r) := fun hremoves => by
    rw [h.held?_of_removes (hr _ hrefresh hremoves)] at hheld
    cases hheld
  rcases h.held?_of_quiet (hw _ hrefresh) hkept with heq | ⟨-, hdead⟩
  · rw [heq, hy]
  · rw [live?_eq_some_iff.mpr ⟨hy, hlasts _ hlive'⟩] at hdead
    cases hdead

theorem Steps.paired_of_paired (h : Steps s T log T₁) (hT : T.Paired s a r owner)
    (hw : ∀ e ∈ log, ∀ key ∈ s.pairKeys a r, ∀ value, ¬ e.Writes key value)
    (hr : ∀ e ∈ log, ∀ key ∈ s.pairKeys a r, e.Removes key → e.Removes (s.tokenKey .access a)) :
    T₁.Paired s a r owner := by
  induction h with
  | refl => exact hT
  | snoc _ he ih =>
    have hU := ih (fun e he => hw e (by simp [he])) fun e he => hr e (by simp [he])
    exact he.paired hU (hw _ (by simp)) (hr _ (by simp))

/-- The write of the refresh identifier completes the pair: it comes after the write of the access
identifier, which it outlives. -/
theorem Step.paired_of_registered (hs : s.PrefixesApart) (hempty : w.store.entries = [])
    (httl : s.accessTtl ≤ s.refreshTtl) (hdistinct : (uuidsOf log).Nodup) (h : Run s w log U)
    {limit : Option Nat}
    (he : Step s U (.called i (.remote (.store (.set (s.tokenKey .refresh pair.refreshUuid)
      (Decimal.ofInt64 pair.user) lifetime)) limit) (some (.ok ()))) V)
    (hmints : Mints s (diary log i) op pair)
    (hfirst : RegisteredFirst s (diary log i) pair lifetime)
    (hnew : written (diary log i) = [s.tokenKey .access pair.accessUuid]) :
    V.Paired s pair.accessUuid pair.refreshUuid (Decimal.ofInt64 pair.user) := by
  intro x hx
  have hkeys : ∀ value, ¬ Event.Writes (s.tokenKey .access pair.accessUuid) value
      (.called i (.remote (.store (.set (s.tokenKey .refresh pair.refreshUuid)
        (Decimal.ofInt64 pair.user) lifetime)) limit) (some (.ok ()))) := by
    rintro value ⟨j, l, m, heq⟩
    simp only [Event.called.injEq, Effect.Call.remote.injEq, Remote.Call.store.injEq,
      Store.Call.set.injEq] at heq
    cases (hs.tokenKey_inj.mp heq.2.1.1.1).1
  have hU : U.held? (s.tokenKey .access pair.accessUuid) = some x :=
    (he.held?_eq_some (live?_eq_some_iff.mp hx).1).resolve_left (hkeys _)
  -- The entry of the access identifier was written by the same operation.
  obtain ⟨A, j, l, m, B, W, hlog, hA, hrest, hexpiry⟩ :=
    h.write_of_held (by simp [held?, idle, hempty]) hU
  rw [hlog] at h
  obtain ⟨op', pair', hreg, -⟩ := h.registration hs (s.isTokenKey_tokenKey .access _)
  have hearlier : A <+: log := hlog ▸ List.prefix_append A _
  obtain rfl : i = j := drawer_unique hdistinct (by rw [hmints.drawn]; simp)
    ((drawn_mono (diary_mono hearlier j)).subset (hreg.fresh hs).1)
  have hmem : .called i (.remote (.store (.set (s.tokenKey .access pair.accessUuid) x.value l)) m)
      (some (.ok ())) ∈ log := by
    rw [hlog]
    simp
  obtain ⟨now, first, ⟨m', hstored⟩, hremaining, hremaining'⟩ := hfirst
  obtain ⟨hvalue, rfl⟩ := write_unique hnew (mem_diary.mpr hmem) hstored
  obtain ⟨instant, -, hminted⟩ := hmints.minted
  have hexpiries : pair.accessExpiry.toInt ≤ pair.refreshExpiry.toInt := by
    have haccess := Issuer.pairAt?_expiry hminted .access
    have hrefresh := Issuer.pairAt?_expiry hminted .refresh
    simp only [Pair.expiry, Issuer.ttl] at haccess hrefresh
    omega
  obtain ⟨hpos, hle⟩ := Issuer.remaining?_mono hremaining hremaining' hexpiries
  exact ⟨hvalue, _, he.set_ok, rfl, fun now =>
    Store.State.isLive_of_expiryAt hexpiry rfl hrest.clock_le hpos hle⟩

/-- Where callers forge nothing, an operation that removes one identifier of a pair removes both. -/
theorem Steps.removes_both (hs : s.PrefixesApart) (hdistinct : (uuidsOf log).Nodup)
    (hgenuine : Genuine s log) (h : Run s w log T) (hdrawn : [a, r] <+: drawn (diary log i))
    (he : e ∈ log) (hkey : key ∈ s.pairKeys a r) (hr : e.Removes key) :
    ∀ key' ∈ s.pairKeys a r, e.Removes key' := by
  obtain ⟨j, keys, limit, n, hmem, rfl⟩ := hr
  obtain ⟨log₁, log₂, hlog⟩ := List.append_of_mem he
  obtain ⟨op, a', r', hstart, hremoval, rfl⟩ :=
    (hlog ▸ h).removal hs (Issuer.isTokenKey_of_mem hkey) hmem
  have hearlier : log₁ <+: log := hlog ▸ List.prefix_append log₁ _
  -- What is removed has been drawn together as well, so it is the same pair.
  have hpair : ∃ i', [a', r'] <+: drawn (diary log i') := by
    cases hremoval with
    | discard hmints =>
      refine ⟨j, ?_⟩
      rw [← hmints.drawn]
      exact drawn_mono (diary_mono hearlier j)
    | retire hop haccepted =>
      subst hop
      exact hgenuine.drawn_of_reads (hearlier.subset hstart) (.refresh _) haccepted.reads
    | revoke hop =>
      subst hop
      obtain ⟨j', token, verified, hreturned, rfl⟩ := hgenuine.identity (hearlier.subset hstart)
      obtain ⟨A, B, hlog'⟩ := List.append_of_mem hreturned
      obtain ⟨hstart', claims, haccepted, hidentity⟩ := (hlog' ▸ h).tells
      have hstart' : .started j' (.verify token) ∈ log := by
        rw [hlog']
        exact List.mem_append_left _ hstart'
      rw [hidentity]
      exact hgenuine.drawn_of_reads hstart' (.verify token) haccepted.reads
  obtain ⟨i', hdrawn'⟩ := hpair
  obtain ⟨rfl, rfl⟩ := drawn_pair_unique hs hdistinct hdrawn hdrawn' hkey hmem
  exact fun key' hkey' => ⟨j, _, limit, n, hkey', rfl⟩

/-- A pair stands together as soon as its refresh identifier has been registered. -/
theorem Steps.paired_of_written (hs : s.PrefixesApart) (hempty : w.store.entries = [])
    (httl : s.accessTtl ≤ s.refreshTtl) (hdistinct : (uuidsOf (log ++ log')).Nodup)
    (hgenuine : Genuine s (log ++ log')) (h : Run s w (log ++ log') T₁) (hT : Run s w log T)
    (hdrawn : [a, r] <+: drawn (diary log i)) {limit : Option Nat}
    (hmem : .called i (.remote (.store (.set (s.tokenKey .refresh r) owner lifetime)) limit)
      (some (.ok ())) ∈ log) : T.Paired s a r owner := by
  have hdrawn' := hdrawn.trans (drawn_mono (diary_mono (List.prefix_append log log') i))
  have hboth : ∀ e ∈ log, ∀ key ∈ s.pairKeys a r, e.Removes key →
      e.Removes (s.tokenKey .access a) := fun e he key hkey hr =>
    h.removes_both hs hdistinct hgenuine hdrawn' (List.mem_append_left _ he) hkey hr _
      (Issuer.mem_pairKeys.mpr (.inl rfl))
  obtain ⟨A, B, rfl⟩ := List.append_of_mem hmem
  obtain ⟨op, pair, hreg, rfl, rfl, hfirst, hnew⟩ := hT.registeredFirst hs
  obtain rfl : a = pair.accessUuid := by
    have hearlier := drawn_mono (diary_mono (List.prefix_append A (.called i (.remote (.store (.set
      (s.tokenKey .refresh pair.refreshUuid) (Decimal.ofInt64 pair.user) lifetime)) limit)
      (some (.ok ())) :: B)) i)
    rw [hreg.mints.drawn] at hearlier
    have heq := (List.prefix_of_prefix_length_le hdrawn hearlier (Nat.le_refl _)).eq_of_length rfl
    exact (List.cons.inj heq).1
  obtain ⟨U, V, hA, he, hrest⟩ := hT.at
  have hdistinct := nodup_uuidsOf_left hdistinct
  refine hrest.paired_of_paired (he.paired_of_registered hs hempty httl
    (nodup_uuidsOf_left hdistinct) hA hreg.mints hfirst hnew) (fun e he key hkey => ?_)
    fun e he => hboth e (List.mem_append_right _ (List.mem_cons_of_mem _ he))
  rw [List.append_cons] at hT hdistinct
  exact hT.not_writes_of_settled hs hdistinct (hreg.settled hs) hkey he

/-- A pair that has been handed out stands together. -/
theorem Steps.paired_of_handedOut (hs : s.PrefixesApart) (hempty : w.store.entries = [])
    (httl : s.accessTtl ≤ s.refreshTtl) (hdistinct : (uuidsOf (log ++ log')).Nodup)
    (hgenuine : Genuine s (log ++ log')) (h : Run s w (log ++ log') T₁) (hT : Run s w log T)
    (hpair : HandedOut s log pair) :
    T.Paired s pair.accessUuid pair.refreshUuid (Decimal.ofInt64 pair.user) := by
  obtain ⟨early, i, -, -, hearly, -, hdrawn, hregisters⟩ := hT.registers_of_handedOut hpair
  obtain ⟨lifetime, hstored⟩ := hregisters.refresh
  obtain ⟨limit, hwrite⟩ := stored_diary.mp hstored
  refine Steps.paired_of_written hs hempty httl hdistinct hgenuine h hT ?_ (hearly.subset hwrite)
  rw [← hdrawn]
  exact drawn_mono (diary_mono hearly i)

/-- In every run from an empty store, if callers forge nothing: while the access identifier of a
pair that has been handed out is live, its refresh identifier is live, and both name its user. An
access token that was handed out is verified only at a moment when both are live. -/
theorem Steps.stands_together (hs : s.PrefixesApart) (hempty : w.store.entries = [])
    (httl : s.accessTtl ≤ s.refreshTtl) (hdistinct : (uuidsOf log).Nodup)
    (hgenuine : Genuine s log) (h : Run s w log T) (hpair : HandedOut s log pair) :
    (∀ x, T.live? (s.tokenKey .access pair.accessUuid) = some x →
        x.value = Decimal.ofInt64 pair.user ∧
        ∃ y, T.live? (s.tokenKey .refresh pair.refreshUuid) = some y ∧
          y.value = Decimal.ofInt64 pair.user) ∧
      ∀ early late i verified, log = early ++ late → HandedOut s early pair →
        .started i (.verify pair.accessToken) ∈ late →
        .returned i (.verify pair.accessToken) (.ok verified) ∈ log →
        ∃ mid rest U x y, late = mid ++ rest ∧ Run s w (early ++ mid) U ∧
          .returned i (.verify pair.accessToken) (.ok verified) ∈ rest ∧
          U.live? (s.tokenKey .access pair.accessUuid) = some x ∧
          U.live? (s.tokenKey .refresh pair.refreshUuid) = some y ∧
          x.value = Decimal.ofInt64 pair.user ∧ y.value = Decimal.ofInt64 pair.user := by
  constructor
  · intro x hx
    rw [← List.append_nil log] at hdistinct hgenuine
    exact (Steps.paired_of_handedOut hs hempty httl hdistinct hgenuine
      (by rwa [List.append_nil]) h hpair).live hx
  · intro early late i verified hlog hpair' hstart hreturned
    obtain ⟨before, after, hcut⟩ := List.append_of_mem hreturned
    obtain ⟨-, claims, haccepted, -⟩ := (hcut ▸ h).tells
    obtain ⟨_, hminted⟩ := hpair.minted
    obtain ⟨_, -, hread⟩ := haccepted.reads
    obtain rfl := ((Issuer.claimsOf_token_eq_ok_iff hminted _ .access).mp hread).1
    -- The token is accepted when it is found in the ledger, which is after its operation started.
    obtain ⟨V, hbefore, -⟩ := (hcut ▸ h).split
    obtain ⟨log₁, limit, owner, log₂, U, x, rfl, hU, hx⟩ := hbefore.live_of_accepted haccepted
    subst hlog
    rw [List.append_assoc, List.cons_append] at hcut
    obtain ⟨mid, rfl⟩ := before_of_diary_eq_nil hcut (h.diary_eq_nil_of_started hstart)
    rw [List.append_assoc, List.append_cancel_left_eq] at hcut
    subst hcut
    rw [← List.append_assoc] at hdistinct hgenuine h
    have hpaired := Steps.paired_of_handedOut hs hempty httl hdistinct hgenuine h hU
      (hpair'.mono (List.prefix_append _ _))
    obtain ⟨hvalue, y, hy, hvalue'⟩ := hpaired.live hx
    exact ⟨mid, _, U, x, y, rfl, hU, by simp, hx, hy, hvalue, hvalue'⟩

end Traffic

/-! ## A login, a verification and a logout -/

/-- A verification after the login of the user. -/
abbrev sampleVerify : Operation :=
  .verify (samplePair 7 (Uuid.numbered 1) (Uuid.numbered 2)).accessToken

/-- The traffic after the verification. -/
abbrev afterVerify : Traffic :=
  afterLogin.alone sampleIssuer sampleVerify

/-- The token of the verification is accepted. -/
theorem trace_sampleVerify : afterLogin.world.trace (sampleVerify.task sampleIssuer) =
    (⟨.clock, afterLogin.world.clock⟩ ::
      ⟨.remote (.store (.get (sampleIssuer.tokenKey .access (Uuid.numbered 1)))) (some 500),
        some (.ok (some "7"))⟩ ::
      (afterLogin.world.trace (World.afterAccepted sampleIssuer
        ((samplePair 7 (Uuid.numbered 1) (Uuid.numbered 2)).claims 0 .access))).1,
      (afterLogin.world.trace (World.afterAccepted sampleIssuer
        ((samplePair 7 (Uuid.numbered 1) (Uuid.numbered 2)).claims 0 .access))).2) := by
  have hminted := pairAt?_samplePair 7 (Uuid.numbered 1) (Uuid.numbered 2)
  have hclock : afterLogin.world.clock = 0 := Traffic.alone_clock ..
  have hread := claimsOf_samplePair 7 (Uuid.numbered 1) (Uuid.numbered 2) .access hclock
    (by decide) (by decide) (by decide)
  have hlive : afterLogin.world.store.live? afterLogin.world.clock
      (sampleIssuer.tokenKey .access (Uuid.numbered 1)) = some ⟨"7", some 900000⟩ := by
    decide +kernel
  exact World.trace_verify (Issuer.isAllBlank_token hminted .access) hread
    (World.answerRemote_get (by decide +kernel) hlive) (by decide +kernel)

/-- It succeeds. -/
theorem steps_sampleVerify : ∃ user, Traffic.Steps sampleIssuer afterLogin
    (Traffic.aloneLog sampleIssuer afterLogin sampleVerify
      (.ok ⟨⟨7, Uuid.numbered 1, Uuid.numbered 2⟩, user⟩)) afterVerify := by
  have hverified : ((afterLogin.world.trace (World.afterAccepted sampleIssuer
      ((samplePair 7 (Uuid.numbered 1) (Uuid.numbered 2)).claims 0 .access))).2.2.bind
        Except.toOption).any (·.identity == ⟨7, Uuid.numbered 1, Uuid.numbered 2⟩) := by
    decide +kernel
  obtain ⟨⟨identity, user⟩, hresult, hidentity⟩ := (Option.any_eq_true _ _).mp hverified
  obtain ⟨result, hresult, hok⟩ := Option.bind_eq_some_iff.mp hresult
  obtain rfl := eq_ok_of_toOption hok
  obtain rfl := eq_of_beq hidentity
  refine ⟨user, .alone trivial ?_⟩
  rw [trace_sampleVerify]
  exact hresult

/-- The logout after that verification succeeds, too. -/
theorem steps_sampleLogout_afterVerify : Traffic.Steps sampleIssuer afterVerify
    (Traffic.aloneLog sampleIssuer afterVerify sampleLogout (.ok ()))
    (afterVerify.alone sampleIssuer sampleLogout) := by
  have hworld := Traffic.alone_world (T := afterLogin) trace_sampleVerify
  have hdone : (afterVerify.world.trace (sampleLogout.task sampleIssuer)).2.2.any Except.isOk := by
    rw [hworld]
    decide +kernel
  obtain ⟨⟨⟩, hresult⟩ := exists_ok hdone
  exact .alone trivial hresult

namespace Traffic

/-- What happens in a verification and a logout after the login. -/
abbrev verifyAndLogout (user : User.Snapshot) : List Event :=
  aloneLog sampleIssuer afterLogin sampleVerify
      (.ok ⟨⟨7, Uuid.numbered 1, Uuid.numbered 2⟩, user⟩) ++
    aloneLog sampleIssuer afterVerify sampleLogout (.ok ())

/-- With the login before them three operations are started. -/
theorem op_of_started_mem {grant : Grant} {user : User.Snapshot} {i : Nat} {op : Operation}
    (h : .started i op ∈ aloneLog sampleIssuer (idle (sampleWorld 7)) sampleLogin (.ok grant) ++
      verifyAndLogout user) : op = sampleLogin ∨ op = sampleVerify ∨ op = sampleLogout := by
  rcases List.mem_append.mp h with h | h
  · exact .inl (started_of_mem_aloneLog h).2
  · rcases List.mem_append.mp h with h | h
    · exact .inr (.inl (started_of_mem_aloneLog h).2)
    · exact .inr (.inr (started_of_mem_aloneLog h).2)

/-- The token that is verified was minted by the login, and it tells who is logged out. -/
theorem genuine_verifyAndLogout {grant : Grant} {user : User.Snapshot}
    (hminted : MintedIn sampleIssuer
      (aloneLog sampleIssuer (idle (sampleWorld 7)) sampleLogin (.ok grant) ++ verifyAndLogout user)
      (samplePair 7 (Uuid.numbered 1) (Uuid.numbered 2))) :
    Genuine sampleIssuer
      (aloneLog sampleIssuer (idle (sampleWorld 7)) sampleLogin (.ok grant) ++
        verifyAndLogout user) := by
  constructor
  · intro i op token kind now claims hstart hop hread
    rcases op_of_started_mem hstart with rfl | rfl | rfl
    · cases hop
    · obtain ⟨rfl, rfl⟩ := hop.of_verify
      exact ⟨_, hminted, rfl⟩
    · cases hop
  · intro i identity hstart
    rcases op_of_started_mem hstart with heq | heq | heq
    · cases heq
    · cases heq
    · cases heq
      exact ⟨1, _, _, List.mem_append_right _ (List.mem_append_left _ returned_mem_aloneLog), rfl⟩

theorem uuidsOf_verifyAndLogout (user : User.Snapshot) : uuidsOf (verifyAndLogout user) = [] := by
  have hworld := alone_world (T := afterLogin) trace_sampleVerify
  rw [uuidsOf_append, uuidsOf_aloneLog, uuidsOf_aloneLog, trace_sampleVerify, hworld]
  decide +kernel

/-- After a login its access token is verified, and who it is about is logged out. When the token
was accepted, both identifiers of the pair were live. -/
theorem Steps.stands_together_of_logout : ∃ grant user T mid rest U x y,
    verifyAndLogout user = mid ++ rest ∧
      Run sampleIssuer (sampleWorld 7) (aloneLog sampleIssuer (idle (sampleWorld 7)) sampleLogin
        (.ok grant) ++ verifyAndLogout user) T ∧
      Run sampleIssuer (sampleWorld 7) (aloneLog sampleIssuer (idle (sampleWorld 7)) sampleLogin
        (.ok grant) ++ mid) U ∧
      U.live? (sampleIssuer.tokenKey .access (Uuid.numbered 1)) = some x ∧ x.value = "7" ∧
      U.live? (sampleIssuer.tokenKey .refresh (Uuid.numbered 2)) = some y ∧ y.value = "7" := by
  obtain ⟨grant, hlogin, hpair⟩ := handedOut_sampleLogin
  obtain ⟨user, hverify⟩ := steps_sampleVerify
  have hrun := hlogin.trans (hverify.trans steps_sampleLogout_afterVerify)
  have hpair' := hpair.mono (List.prefix_append _ (verifyAndLogout user))
  have huuids : drawn ((sampleWorld 7).trace (sampleLogin.task sampleIssuer)).1 =
      [Uuid.numbered 1, Uuid.numbered 2] := by
    decide +kernel
  have hdistinct : (uuidsOf (aloneLog sampleIssuer (idle (sampleWorld 7)) sampleLogin (.ok grant) ++
      verifyAndLogout user)).Nodup := by
    rw [uuidsOf_append, uuidsOf_aloneLog, uuidsOf_verifyAndLogout, List.append_nil]
    exact huuids ▸ by decide
  obtain ⟨-, hverified⟩ := Steps.stands_together sampleIssuer_prefixesApart rfl (by decide)
    hdistinct (genuine_verifyAndLogout (hrun.mintedIn_of_handedOut hpair')) hrun hpair'
  obtain ⟨mid, rest, U, x, y, hcut, hU, -, hx, hy, hvalue, hvalue'⟩ := hverified _ _ 1 _ rfl hpair
    (List.mem_append_left _ started_mem_aloneLog)
    (List.mem_append_right _ (List.mem_append_left _ returned_mem_aloneLog))
  exact ⟨grant, user, _, mid, rest, U, x, y, hcut, hrun, hU, hx, hvalue, hy, hvalue'⟩

end Traffic

end SessionLedger
