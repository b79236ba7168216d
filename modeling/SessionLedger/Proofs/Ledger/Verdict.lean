import SessionLedger.Proofs.Session.Calls
import SessionLedger.Proofs.Session.Lifecycle
import SessionLedger.Proofs.World.Preserved

/-! The check of a token fails closed. A token is accepted just if it is readable and the key-value
store answers in time that its identifier is registered to the user whom it names; a store that
cannot be asked neither accepts nor refuses anything, and no check changes what is live. An
operation that starts with a check does not succeed where the check fails. -/
namespace SessionLedger
open Session Token Text

/-- What the key-value store finds under a key when it answers. -/
def World.found? (w : World) (key : String) : Option String :=
  w.store.peek? (w.clock + w.store.latency) key

/-- What the check of a token comes to. -/
inductive World.Verdict (s : Issuer) (w : World) (token : String) (kind : Kind) :
    Except CheckError Claims → Prop
  | unreadable {fault} (h : s.signer.claimsOf w.clock token kind = .error fault) :
      Verdict s w token kind (.error (.rejected (.ofSigner fault)))
  | late {claims} (h : s.signer.claimsOf w.clock token kind = .ok claims)
      (hlate : s.cacheLimit < w.store.latency) : Verdict s w token kind (.error (.cache .timeout))
  | offline {claims} (h : s.signer.claimsOf w.clock token kind = .ok claims)
      (hintime : w.store.latency ≤ s.cacheLimit) (hoffline : w.store.isAvailable = false) :
      Verdict s w token kind (.error (.cache (.unavailable "memory store offline")))
  | absent {claims} (h : s.signer.claimsOf w.clock token kind = .ok claims) (hw : w.Responds s)
      (hfound : w.found? (s.tokenKey kind (claims.uuid kind)) = none) :
      Verdict s w token kind (.error (.rejected .notRegistered))
  | foreign {claims owner} (h : s.signer.claimsOf w.clock token kind = .ok claims)
      (hw : w.Responds s) (hfound : w.found? (s.tokenKey kind (claims.uuid kind)) = some owner)
      (howner : Decimal.signed64? owner ≠ some claims.user) :
      Verdict s w token kind (.error (.rejected .userMismatch))
  | accepted {claims owner} (h : s.signer.claimsOf w.clock token kind = .ok claims)
      (hw : w.Responds s) (hfound : w.found? (s.tokenKey kind (claims.uuid kind)) = some owner)
      (howner : Decimal.signed64? owner = some claims.user) :
      Verdict s w token kind (.ok claims)

namespace World
variable {s : Issuer} {w w' : World} {token : String} {kind : Kind} {claims : Claims}
variable {result : Except CheckError Claims} {α : Type}

theorem settle_get_of_late {limit : Nat} {key : String} (hlate : limit < w.store.latency) :
    w.settle none (.remote (.store (.get key)) (some limit)) = (w.advance limit, some none) := by
  rw [settle_store, if_neg (by omega)]

theorem settle_get_of_offline {limit : Nat} {key : String} (hintime : w.store.latency ≤ limit)
    (hoffline : w.store.isAvailable = false) :
    w.settle none (.remote (.store (.get key)) (some limit)) =
      (w.advance w.store.latency, some (some (.error .offline))) := by
  rw [settle_store, if_pos hintime]
  simp [answerRemote, Store.State.answer, advance, hoffline]

theorem Responds.settle_get (h : w.Responds s) (key : String) :
    ∃ w', w.settle none (.remote (.store (.get key)) (some s.cacheLimit)) =
      (w', some (some (.ok (w.found? key)))) := by
  rw [settle_store, if_pos h.inLimit]
  have hanswer : ((w.advance w.store.latency).answerRemote (.store (.get key))).2 =
      .ok (w.found? key) := Store.State.answer_get_of_available h.available
  rw [hanswer]
  exact ⟨_, rfl⟩

/-- The check of a token comes to a verdict. -/
theorem run_checkToken (s : Issuer) (w : World) (token : String) (kind : Kind) :
    ∃ w' result, run none (s.checkToken token kind) w = (w', .finished result) ∧
      w.Verdict s token kind result := by
  change ∃ w' result, run none (Task.clock.bind _) w = (w', .finished result) ∧ _
  rw [Task.clock, Program.perform_bind, run_call rfl]
  cases hread : s.signer.claimsOf w.clock token kind with
  | error fault => exact ⟨w, _, rfl, .unreadable hread⟩
  | ok claims =>
    by_cases hlate : s.cacheLimit < w.store.latency
    · exact ⟨_, _, run_call (settle_get_of_late hlate), .late hread hlate⟩
    · rw [Nat.not_lt] at hlate
      by_cases hoffline : w.store.isAvailable = false
      · exact ⟨_, _, run_call (settle_get_of_offline hlate hoffline), .offline hread hlate hoffline⟩
      · have hw : w.Responds s := ⟨by simpa using hoffline, hlate⟩
        obtain ⟨w', hsettle⟩ := hw.settle_get (s.tokenKey kind (claims.uuid kind))
        cases hfound : w.found? (s.tokenKey kind (claims.uuid kind)) with
        | none =>
          rw [hfound] at hsettle
          exact ⟨w', _, run_call hsettle, .absent hread hw hfound⟩
        | some owner =>
          rw [hfound] at hsettle
          by_cases howner : Decimal.signed64? owner = some claims.user
          · refine ⟨w', .ok claims, (run_call hsettle).trans ?_, .accepted hread hw hfound howner⟩
            simp [howner, run]
          · refine ⟨w', _, (run_call hsettle).trans ?_, .foreign hread hw hfound howner⟩
            simp [howner, run]

/-- The check of a token has come to a result, and left certain surroundings. -/
structure Checks (s : Issuer) (w : World) (token : String) (kind : Kind) (w' : World)
    (result : Except CheckError Claims) : Prop where
  accepted : ∀ claims, result = .ok claims ↔
    s.signer.claimsOf w.clock token kind = .ok claims ∧ w.Responds s ∧
      ∃ owner, w.found? (s.tokenKey kind (claims.uuid kind)) = some owner ∧
        Decimal.signed64? owner = some claims.user
  /-- A token that is not readable is refused at once: nothing happens but that the clock is
  read. -/
  unreadable : ∀ fault, s.signer.claimsOf w.clock token kind = .error fault →
    result = .error (.rejected (.ofSigner fault)) ∧ w' = w ∧
      ∀ i, passage i none (s.checkToken token kind) w = [.passed 0, .called i .clock w.clock]
  absent : result = .error (.rejected .notRegistered) ↔
    ∃ claims, s.signer.claimsOf w.clock token kind = .ok claims ∧ w.Responds s ∧
      w.found? (s.tokenKey kind (claims.uuid kind)) = none
  foreign : result = .error (.rejected .userMismatch) ↔
    ∃ claims owner, s.signer.claimsOf w.clock token kind = .ok claims ∧ w.Responds s ∧
      w.found? (s.tokenKey kind (claims.uuid kind)) = some owner ∧
        Decimal.signed64? owner ≠ some claims.user
  cache : (∃ cause, result = .error (.cache cause)) ↔
    (∃ claims, s.signer.claimsOf w.clock token kind = .ok claims) ∧
      (s.cacheLimit < w.store.latency ∨ w.store.isAvailable = false)
  live : ∀ key later, w'.clock ≤ later → w'.store.live? later key = w.store.live? later key

/-- No reason for which a token cannot be read is one that the ledger gives. -/
theorem ofSigner_ne (fault : SignerFault) :
    Rejection.ofSigner fault ≠ .notRegistered ∧ Rejection.ofSigner fault ≠ .userMismatch := by
  cases fault <;> simp [Rejection.ofSigner]

/-- There is one verdict. -/
theorem Verdict.unique {result' : Except CheckError Claims} (h : w.Verdict s token kind result)
    (h' : w.Verdict s token kind result') : result = result' := by
  have hresponds : w.Responds s → w.store.isAvailable = true ∧ w.store.latency ≤ s.cacheLimit :=
    fun hw => ⟨hw.available, hw.inLimit⟩
  cases h with
  | unreadable hread => cases h' <;> grind
  | late hread hlate => cases h' <;> grind
  | offline hread hintime hoffline => cases h' <;> grind
  | absent hread hw hfound => cases h' <;> grind
  | foreign hread hw hfound howner => cases h' <;> grind
  | accepted hread hw hfound howner => cases h' <;> grind

/-- Surroundings that answer alike come to the same verdict. -/
theorem Verdict.congr (h : w.Verdict s token kind result) (hclock : w'.clock = w.clock)
    (havailable : w'.store.isAvailable = w.store.isAvailable)
    (hlatency : w'.store.latency = w.store.latency)
    (hfound : ∀ key, s.IsTokenKey key → w'.found? key = w.found? key) :
    w'.Verdict s token kind result := by
  have hw' : w.Responds s → w'.Responds s :=
    fun hw => ⟨havailable.trans hw.available, hlatency ▸ hw.inLimit⟩
  have hkey : ∀ uuid, w'.found? (s.tokenKey kind uuid) = w.found? (s.tokenKey kind uuid) :=
    fun uuid => hfound _ (s.isTokenKey_tokenKey kind uuid)
  cases h with
  | unreadable h => exact .unreadable (hclock ▸ h)
  | late h hlate => exact .late (hclock ▸ h) (hlatency ▸ hlate)
  | offline h hintime hoffline =>
    exact .offline (hclock ▸ h) (hlatency ▸ hintime) (havailable.trans hoffline)
  | absent h hw habsent => exact .absent (hclock ▸ h) (hw' hw) ((hkey _).trans habsent)
  | foreign h hw howned howner =>
    exact .foreign (hclock ▸ h) (hw' hw) ((hkey _).trans howned) howner
  | accepted h hw howned howner =>
    exact .accepted (hclock ▸ h) (hw' hw) ((hkey _).trans howned) howner

theorem Verdict.accepted_iff (h : w.Verdict s token kind result) :
    result = .ok claims ↔ s.signer.claimsOf w.clock token kind = .ok claims ∧ w.Responds s ∧
      ∃ owner, w.found? (s.tokenKey kind (claims.uuid kind)) = some owner ∧
        Decimal.signed64? owner = some claims.user := by
  constructor
  · intro hresult
    subst hresult
    cases h with
    | accepted hread hw hfound howner => exact ⟨hread, hw, _, hfound, howner⟩
  · intro hok
    obtain ⟨hread, hw, owner, hfound, howner⟩ := hok
    exact h.unique (.accepted hread hw hfound howner)

theorem Verdict.absent_iff (h : w.Verdict s token kind result) :
    result = .error (.rejected .notRegistered) ↔
      ∃ claims, s.signer.claimsOf w.clock token kind = .ok claims ∧ w.Responds s ∧
        w.found? (s.tokenKey kind (claims.uuid kind)) = none := by
  constructor
  · intro hresult
    cases h with
    | @unreadable fault => simp [(ofSigner_ne fault).1] at hresult
    | absent hread hw hfound => exact ⟨_, hread, hw, hfound⟩
    | _ => simp at hresult
  · intro hok
    obtain ⟨claims, hread, hw, hfound⟩ := hok
    exact h.unique (.absent hread hw hfound)

theorem Verdict.foreign_iff (h : w.Verdict s token kind result) :
    result = .error (.rejected .userMismatch) ↔
      ∃ claims owner, s.signer.claimsOf w.clock token kind = .ok claims ∧ w.Responds s ∧
        w.found? (s.tokenKey kind (claims.uuid kind)) = some owner ∧
          Decimal.signed64? owner ≠ some claims.user := by
  constructor
  · intro hresult
    cases h with
    | @unreadable fault => simp [(ofSigner_ne fault).2] at hresult
    | foreign hread hw hfound howner => exact ⟨_, _, hread, hw, hfound, howner⟩
    | _ => simp at hresult
  · intro hok
    obtain ⟨claims, owner, hread, hw, hfound, howner⟩ := hok
    exact h.unique (.foreign hread hw hfound howner)

theorem Verdict.cache_iff (h : w.Verdict s token kind result) :
    (∃ cause, result = .error (.cache cause)) ↔
      (∃ claims, s.signer.claimsOf w.clock token kind = .ok claims) ∧
        (s.cacheLimit < w.store.latency ∨ w.store.isAvailable = false) := by
  constructor
  · intro hresult
    obtain ⟨cause, hresult⟩ := hresult
    cases h with
    | late hread hlate => exact ⟨⟨_, hread⟩, .inl hlate⟩
    | offline hread hintime hoffline => exact ⟨⟨_, hread⟩, .inr hoffline⟩
    | _ => simp at hresult
  · intro hcache
    obtain ⟨⟨claims, hread⟩, hfault⟩ := hcache
    by_cases hlate : s.cacheLimit < w.store.latency
    · exact ⟨_, h.unique (.late hread hlate)⟩
    · have hoffline := hfault.resolve_left hlate
      exact ⟨_, h.unique (.offline hread (Nat.not_lt.mp hlate) hoffline)⟩

/-- A check changes nothing of what is live. -/
theorem preserves_checkToken (h : run none (s.checkToken token kind) w = (w', .finished result)) :
    w.Preserves s (fun _ => True) w' :=
  ends_of_only (only_checkToken trivial fun _ => ⟨rfl, trivial⟩) w' result h

/-- A check that cannot read its token only reads the clock. -/
theorem run_checkToken_of_error {fault : SignerFault}
    (hread : s.signer.claimsOf w.clock token kind = .error fault) :
    run none (s.checkToken token kind) w =
        (w, .finished (.error (.rejected (.ofSigner fault)))) ∧
      ∀ i, passage i none (s.checkToken token kind) w = [.passed 0, .called i .clock w.clock] := by
  have hclock : w.settle none .clock = (w, some w.clock) := rfl
  have hnext : ∀ next : Nat → Task (Except CheckError Claims),
      next w.clock = .done (.error (.rejected (.ofSigner fault))) →
      run none (.call .clock next) w = (w, .finished (.error (.rejected (.ofSigner fault)))) ∧
        ∀ i, passage i none (.call .clock next) w = [.passed 0, .called i .clock w.clock] := by
    intro next hnext
    constructor
    · rw [run_call hclock, hnext, run]
    · intro i
      simp only [passage, hclock, hnext, Nat.sub_self]
  exact hnext _ (by simp only [hread, Program.pure_eq, Program.done_bind])

theorem checks_of_run (h : run none (s.checkToken token kind) w = (w', .finished result)) :
    w.Checks s token kind w' result := by
  obtain ⟨U, verdict, hrun, hverdict⟩ := w.run_checkToken s token kind
  cases h.symm.trans hrun
  refine ⟨fun claims => hverdict.accepted_iff, fun fault hread => ?_, hverdict.absent_iff,
    hverdict.foreign_iff, hverdict.cache_iff, fun key => (preserves_checkToken h).live key trivial⟩
  obtain ⟨hrun, hpassage⟩ := run_checkToken_of_error hread
  cases h.symm.trans hrun
  exact ⟨rfl, rfl, hpassage⟩

end World

/-! ## Operations that start with a check -/

/-- An operation that checks a token of a kind reports that it has not been accepted. -/
inductive Reports (token : String) : Kind → CheckError → SessionError → Prop
  | blank {kind e} (h : isAllBlank token = true) : Reports token kind e .missingCredentials
  | access {reason} : Reports token .access (.rejected reason) (.accessRejected reason)
  | refresh {reason} : Reports token .refresh (.rejected reason) (.refreshRejected reason)
  | cache {kind cause} : Reports token kind (.cache cause) (.cache cause)
  | late {kind e} : Reports token kind e .deadlineExceeded

namespace World
variable {s : Issuer} {w w' : World} {token : String} {e : CheckError}

theorem run_verify_of_error
    (h : run none (s.checkToken token .access) w = (w', .finished (.error e))) :
    ∃ U e', run none (s.verify token) w = (U, .finished (.error e')) ∧
      Reports token .access e e' := by
  unfold Issuer.verify
  by_cases hblank : isAllBlank token = true
  · rw [if_pos hblank]
    exact ⟨w, _, rfl, .blank hblank⟩
  · rw [if_neg hblank, Program.bind_eq, run_bind h]
    cases e with
    | rejected reason => exact ⟨w', _, rfl, .access⟩
    | cache cause => exact ⟨w', _, rfl, .cache⟩

theorem run_refresh_of_error
    (h : run none (s.checkToken token .refresh) w = (w', .finished (.error e))) :
    ∃ U e', run none (s.refresh token) w = (U, .finished (.error e')) ∧
      Reports token .refresh e e' := by
  unfold Issuer.refresh
  by_cases hblank : isAllBlank token = true
  · rw [if_pos hblank]
    exact ⟨w, _, rfl, .blank hblank⟩
  · rw [if_neg hblank, Program.bind_eq, run_bind h]
    cases e with
    | rejected reason => exact ⟨w', _, rfl, .refresh⟩
    | cache cause => exact ⟨w', _, rfl, .cache⟩

/-- The identity of a verified token is what its claims say. -/
theorem run_verify_of_ok {claims : Claims} {verified : Verified} {U : World}
    (h : run none (s.checkToken token .access) w = (w', .finished (.ok claims)))
    (hverify : run none (s.verify token) w = (U, .finished (.ok verified))) :
    verified.identity = ⟨claims.user, claims.accessUuid, claims.refreshUuid⟩ := by
  unfold Issuer.verify at hverify
  by_cases hblank : isAllBlank token = true
  · rw [if_pos hblank] at hverify
    cases hverify
  · rw [if_neg hblank, Program.bind_eq, run_bind h] at hverify
    refine (ends_bind (Q := fun _ (result : Except SessionError Verified) => ∀ v, result = .ok v →
      v.identity = ⟨claims.user, claims.accessUuid, claims.refreshUuid⟩) _ _).mpr
      (fun V profile _ => ?_) U _ hverify verified rfl
    cases profile with
    | error e => simp
    | ok user => simp

/-- The check of a token as an operation of its own has no deadline. -/
theorem perform_checkToken {kind : Kind} {result : Except CheckError Claims} :
    w.perform s (.checkToken token kind) = (w', some result) ↔
      run none (s.checkToken token kind) w = (w', .finished result) := by
  constructor
  · intro h
    rcases perform_cases h with ⟨limit, hdeadline⟩ | hrun
    · cases hdeadline
    · exact hrun
  · intro h
    rcases perform_of_run (.checkToken token kind) h with hperform | ⟨_, _, hdeadline, -⟩
    · exact hperform
    · cases hdeadline

theorem perform_verify_of_error
    (h : w.perform s (.checkToken token .access) = (w', some (.error e))) :
    ∃ e', (w.perform s (.verify token)).2 = some (.error e') ∧ Reports token .access e e' := by
  obtain ⟨U, e', hrun, hreports⟩ := run_verify_of_error (perform_checkToken.mp h)
  rcases perform_of_run (.verify token) hrun with hperform | ⟨limit, late, hdeadline, hlate⟩
  · exact ⟨e', by rw [hperform], hreports⟩
  · cases hdeadline
    exact ⟨.deadlineExceeded, hlate, .late⟩

theorem perform_refresh_of_error
    (h : w.perform s (.checkToken token .refresh) = (w', some (.error e))) :
    ∃ e', (w.perform s (.refresh token)).2 = some (.error e') ∧ Reports token .refresh e e' := by
  obtain ⟨U, e', hrun, hreports⟩ := run_refresh_of_error (perform_checkToken.mp h)
  rcases perform_of_run (.refresh token) hrun with hperform | ⟨limit, late, hdeadline, hlate⟩
  · exact ⟨e', by rw [hperform], hreports⟩
  · cases hdeadline
    exact ⟨.deadlineExceeded, hlate, .late⟩

/-- A verification succeeds only with a token that the check accepts. -/
theorem accepts_of_perform_verify {verified : Verified}
    (h : (w.perform s (.verify token)).2 = some (.ok verified)) :
    ∃ w' claims, w.perform s (.checkToken token .access) = (w', some (.ok claims)) ∧
      verified.identity = ⟨claims.user, claims.accessUuid, claims.refreshUuid⟩ := by
  obtain ⟨w', result, hrun, -⟩ := w.run_checkToken s token .access
  have hcheck := perform_checkToken.mpr hrun
  cases result with
  | error e =>
    obtain ⟨e', he, -⟩ := perform_verify_of_error hcheck
    cases he.symm.trans h
  | ok claims =>
    refine ⟨w', claims, hcheck, ?_⟩
    rcases perform_cases (Prod.ext rfl h) with ⟨limit, hdeadline⟩ | hfinished
    · cases hdeadline
    · exact run_verify_of_ok hrun hfinished

/-- A refresh hands out a pair only for a token that the check accepts. -/
theorem accepts_of_perform_refresh {result : Except SessionError Grant} {grant : Grant}
    (h : (w.perform s (.refresh token)).2 = some result)
    (hgrant : Hands (.refresh token) result grant) :
    ∃ w' claims, w.perform s (.checkToken token .refresh) = (w', some (.ok claims)) := by
  obtain ⟨w', checked, hrun, -⟩ := w.run_checkToken s token .refresh
  have hcheck := perform_checkToken.mpr hrun
  cases checked with
  | error e =>
    obtain ⟨e', he, hreports⟩ := perform_refresh_of_error hcheck
    cases he.symm.trans h
    -- No error that a check gives rise to hands out a pair.
    cases hgrant
    cases hreports
  | ok claims => exact ⟨w', claims, hcheck⟩

/-- The check of a token is exact, and what starts with a check fails where it fails: a verification
or a refresh reports what the check has come to, unless its token is blank or its deadline passes,
and it succeeds only with a token that the check accepts. Among other operations, too, it succeeds
only after it has read the token as claims and found them registered to their user. -/
theorem checks_exactly (s : Issuer) (w : World) (token : String) :
    (∀ kind, ∃ w' result, w.perform s (.checkToken token kind) = (w', some result) ∧
      w.Checks s token kind w' result) ∧
    (∀ w' e, w.perform s (.checkToken token .access) = (w', some (.error e)) →
      ∃ e', (w.perform s (.verify token)).2 = some (.error e') ∧ Reports token .access e e') ∧
    (∀ w' e, w.perform s (.checkToken token .refresh) = (w', some (.error e)) →
      ∃ e', (w.perform s (.refresh token)).2 = some (.error e') ∧ Reports token .refresh e e') ∧
    (∀ verified, (w.perform s (.verify token)).2 = some (.ok verified) →
      ∃ w' claims, w.perform s (.checkToken token .access) = (w', some (.ok claims)) ∧
        verified.identity = ⟨claims.user, claims.accessUuid, claims.refreshUuid⟩) ∧
    (∀ result grant, (w.perform s (.refresh token)).2 = some result →
      Hands (.refresh token) result grant →
      ∃ w' claims, w.perform s (.checkToken token .refresh) = (w', some (.ok claims))) ∧
    ∀ log i T, (∀ verified,
        Traffic.Run s w (log ++ [.returned i (.verify token) (.ok verified)]) T →
        ∃ claims, Accepted s (diary log i) token .access claims) ∧
      ∀ result grant, Traffic.Run s w (log ++ [.returned i (.refresh token) result]) T →
        Hands (.refresh token) result grant →
        ∃ claims, Accepted s (diary log i) token .refresh claims := by
  refine ⟨fun kind => ?_, fun w' e => perform_verify_of_error, fun w' e => perform_refresh_of_error,
    fun verified => accepts_of_perform_verify, fun result grant => accepts_of_perform_refresh,
    fun log i T => ⟨fun verified hrun => ?_, fun result grant hrun hgrant => ?_⟩⟩
  · obtain ⟨w', result, hrun, -⟩ := w.run_checkToken s token kind
    exact ⟨w', result, perform_checkToken.mpr hrun, checks_of_run hrun⟩
  · obtain ⟨claims, haccepted, -⟩ := hrun.tells.2
    exact ⟨claims, haccepted⟩
  · exact hrun.tells.2.accepted hgrant

end World

end SessionLedger
