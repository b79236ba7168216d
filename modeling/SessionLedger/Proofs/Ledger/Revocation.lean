import SessionLedger.Proofs.Ledger.Spent
import SessionLedger.Proofs.World.Lone

/-! Revocation is for good. A logout with the identifiers of a pair, or a granted refresh with its
refresh token, has removed both of its keys, and no operation writes them again: not a rotation
under way, nor a late cleanup, nor a registration that was cut halfway. -/
namespace SessionLedger
open Session Token

/-- A pair has been revoked: by a logout that did nothing before the pair was handed out, or by a
refresh with its refresh token. -/
inductive Revoked (s : Issuer) (log : List Event) (pair : Pair) : Prop
  | logout {early late i user} (hlog : log = early ++ late) (hpair : HandedOut s early pair)
      (hquiet : diary early i = [])
      (hreturned : .returned i (.logout ⟨user, pair.accessUuid, pair.refreshUuid⟩) (.ok ()) ∈ log)
  | refresh {i grant} (hreturned : .returned i (.refresh pair.refreshToken) (.ok grant) ∈ log)

/-- The store carries out removals within the limits of a service. -/
structure World.Works (s : Issuer) (w : World) : Prop where
  available : w.store.isAvailable = true
  deletes : w.store.deletesFail = false
  inLimit : w.store.latency ≤ s.cacheLimit
  inTime : w.store.latency ≤ s.requestLimit

variable {s : Issuer} {w : World} {T : Traffic} {log log' before after : List Event} {i : Nat}
variable {pair : Pair}

/-- Where an operation has done nothing yet, all of its exchanges are still to come. -/
theorem before_of_diary_eq_nil {c : Effect.Call} {reply : c.Reply}
    (h : before ++ after = log ++ .called i c reply :: log') (hquiet : diary before i = []) :
    before <+: log := by
  rcases List.append_eq_append_iff.mp h with ⟨mid, rfl, -⟩ | ⟨mid, rfl, hmid⟩
  · exact List.prefix_append _ _
  · rcases List.cons_eq_append_iff.mp hmid with ⟨rfl, -⟩ | ⟨mid, rfl, -⟩
    · simp only [List.append_nil, List.prefix_refl]
    · simp at hquiet

/-- A store that works answers a removal in time, and its keys are gone. -/
theorem World.settle_delete (h : w.Works s) (keys : List String) :
    ∃ w' n, w.settle (some (w.clock + s.requestLimit))
        (.remote (.store (.delete keys)) (some s.cacheLimit)) = (w', some (some (.ok n))) ∧
      ∀ key ∈ keys, w'.store.live? w'.clock key = none := by
  have hawait := await_of_le (c := .store (.delete keys)) h.inLimit h.inTime
  simp only [settle, hawait, answerRemote, Store.State.answer, advanceTo, h.available, h.deletes,
    Bool.not_true, Bool.false_eq_true, if_false]
  refine ⟨_, _, rfl, fun key hkey => Store.State.live?_eq_none_iff.mpr fun e he => ?_⟩
  rw [Store.State.find?_deleteAll, if_pos hkey] at he
  cases he

/-- Under a store that works a logout alone succeeds and leaves neither key of its identity. -/
theorem World.perform_logout (h : w.Works s) (identity : Subject) :
    ∃ w', w.perform s (.logout identity) = (w', some (.ok ())) ∧
      ∀ key ∈ s.pairKeys identity.accessUuid identity.refreshUuid,
        w'.store.live? w'.clock key = none := by
  obtain ⟨w', n, hsettle, hgone⟩ :=
    settle_delete h (s.pairKeys identity.accessUuid identity.refreshUuid)
  refine ⟨w', ?_, hgone⟩
  have hrun : run (some (w.clock + s.requestLimit)) (s.logout identity) w =
      (w', .finished (.ok ())) := by
    change run _ (.call (.remote (.store (.delete (s.pairKeys identity.accessUuid
      identity.refreshUuid))) (some s.cacheLimit)) _) w = _
    rw [run, hsettle]
    rfl
  simp only [perform, Operation.deadline, Operation.task, hrun]

namespace Traffic

/-- A pair that has been revoked had been settled, and it has been removed since. -/
theorem Steps.removal_of_revoked (hs : s.PrefixesApart) (hempty : w.store.entries = [])
    (hdistinct : (uuidsOf (before ++ after)).Nodup) (hminted : MintedIn s (before ++ after) pair)
    (h : Run s w before T) (hrevoked : Revoked s before pair) :
    ∃ A B i n, before = A ++ .removal s i pair.accessUuid pair.refreshUuid n :: B ∧
      Settled s A pair.accessUuid pair.refreshUuid := by
  cases hrevoked with
  | @logout early late i user hlog hpair hquiet hreturned =>
    -- The removal of the logout is its only exchange, so it follows the hand-out.
    obtain ⟨L, rest, rfl⟩ := List.append_of_mem hreturned
    obtain ⟨-, n, hdiary⟩ := h.tells
    obtain ⟨A, B, rfl, -, -⟩ := diary_eq_append_cons (d := []) hdiary
    rw [List.append_assoc, List.cons_append] at h hlog ⊢
    have hearly := before_of_diary_eq_nil hlog.symm hquiet
    rw [hlog] at h
    obtain ⟨U, hU, -⟩ := h.split
    exact ⟨A, _, i, n, rfl, (hU.settled_of_handedOut hpair).mono hearly⟩
  | @refresh i grant hreturned =>
    -- The refresh was granted because its removal has found the pair.
    obtain ⟨L, rest, rfl⟩ := List.append_of_mem hreturned
    rw [List.append_assoc] at hdistinct hminted
    obtain ⟨A, B, n, rfl, hsettled, -⟩ := h.removal_of_granted hs hempty hdistinct hminted
    exact ⟨A, _, i, n + 1, List.append_assoc .., hsettled⟩

/-- The keys of a pair that has been revoked stay absent. -/
theorem Steps.held?_of_revoked (hs : s.PrefixesApart) (hempty : w.store.entries = [])
    (hdistinct : (uuidsOf (before ++ (after ++ log'))).Nodup)
    (hminted : MintedIn s (before ++ (after ++ log')) pair)
    (h : Run s w (before ++ after) T) (hrevoked : Revoked s before pair) {key : String}
    (hkey : key ∈ s.pairKeys pair.accessUuid pair.refreshUuid) : T.held? key = none := by
  obtain ⟨U, hU, -⟩ := h.split
  obtain ⟨A, B, i, n, rfl, hsettled⟩ := hU.removal_of_revoked hs hempty hdistinct hminted hrevoked
  rw [← List.append_assoc, List.append_assoc A] at hdistinct
  rw [List.append_assoc] at h
  exact h.gone_of_settled hs (nodup_uuidsOf_left hdistinct) hsettled hkey (List.mem_cons_self ..)
    (Event.removes_removal hkey)

/-- No token is accepted whose identifier is absent since before its operation was started. -/
theorem Steps.not_accepted_of_absent {op : Operation} {token : String} {kind : Kind}
    {claims : Claims} (h : Run s w (before ++ after) T) (hstart : .started i op ∈ after)
    (habsent : ∀ mid rest U, after = mid ++ rest → Run s w (before ++ mid) U →
      U.held? (s.tokenKey kind (claims.uuid kind)) = none)
    (hlog : log <+: before ++ after) : ¬ Accepted s (diary log i) token kind claims := by
  intro haccepted
  obtain ⟨rest, hrest⟩ := hlog
  rw [← hrest] at h
  obtain ⟨V, hV, -⟩ := h.split
  obtain ⟨log₁, limit, owner, log₂, U, e, rfl, hU, hlive⟩ := hV.live_of_accepted haccepted
  rw [hrest] at h
  rw [List.append_assoc, List.cons_append] at hrest
  -- The read that accepts the token comes after the start of the operation.
  obtain ⟨mid, rfl⟩ := before_of_diary_eq_nil hrest.symm (h.diary_eq_nil_of_started hstart)
  rw [List.append_assoc, List.append_cancel_left_eq] at hrest
  rw [live?_eq_none_of_held? (habsent mid _ U hrest.symm hU)] at hlive
  cases hlive

/-- Once a pair has been revoked, its access token is not verified any more, its refresh token
yields no pair any more, and neither of its keys is live, whatever else goes on. A further logout
succeeds under a store that works, and neither key is live after it. -/
theorem Steps.revoked_stays (hs : s.PrefixesApart) (hempty : w.store.entries = [])
    (hdistinct : (uuidsOf (before ++ after)).Nodup) (h : Run s w (before ++ after) T)
    (hpair : HandedOut s (before ++ after) pair) (hrevoked : Revoked s before pair) :
    (∀ i, .started i (.verify pair.accessToken) ∈ after → ∀ verified,
        .returned i (.verify pair.accessToken) (.ok verified) ∉ before ++ after) ∧
      (∀ i, .started i (.refresh pair.refreshToken) ∈ after → ∀ result grant,
        Hands (.refresh pair.refreshToken) result grant →
        .returned i (.refresh pair.refreshToken) result ∉ before ++ after) ∧
      (∀ key ∈ s.pairKeys pair.accessUuid pair.refreshUuid, T.live? key = none) ∧
      ∀ user, (∀ i result, .started i (.logout ⟨user, pair.accessUuid, pair.refreshUuid⟩) ∈ after →
          Calm (diary (before ++ after) i) →
          .returned i (.logout ⟨user, pair.accessUuid, pair.refreshUuid⟩) result ∈ before ++ after →
          result = .ok ()) ∧
        (T.world.Works s → ∃ w',
          T.world.perform s (.logout ⟨user, pair.accessUuid, pair.refreshUuid⟩) =
            (w', some (.ok ())) ∧
          ∀ key ∈ s.pairKeys pair.accessUuid pair.refreshUuid,
            w'.store.live? w'.clock key = none) := by
  have hminted := h.mintedIn_of_handedOut hpair
  obtain ⟨now, hissued⟩ := hpair.minted
  have habsent : ∀ key ∈ s.pairKeys pair.accessUuid pair.refreshUuid, ∀ mid rest U,
      after = mid ++ rest → Run s w (before ++ mid) U → U.held? key = none := by
    rintro key hkey mid rest U rfl hU
    exact hU.held?_of_revoked hs hempty hdistinct hminted hrevoked hkey
  refine ⟨fun i hstart verified hmem => ?_, fun i hstart result grant hhands hmem => ?_,
    fun key hkey => ?_, fun user => ⟨fun i result hstart hcalm hmem => ?_, fun hworks => ?_⟩⟩
  · obtain ⟨log, rest, hlog⟩ := List.append_of_mem hmem
    obtain ⟨claims, haccepted, -⟩ := (hlog ▸ h).tells.2
    obtain ⟨_, -, hread⟩ := haccepted.reads
    obtain rfl := ((Issuer.claimsOf_token_eq_ok_iff hissued _ .access).mp hread).1
    refine h.not_accepted_of_absent hstart (habsent _ ?_) (hlog ▸ List.prefix_append _ _) haccepted
    exact Issuer.mem_pairKeys.mpr (.inl rfl)
  · obtain ⟨log, rest, hlog⟩ := List.append_of_mem hmem
    obtain ⟨claims, haccepted⟩ := (hlog ▸ h).tells.2.accepted hhands
    obtain ⟨_, -, hread⟩ := haccepted.reads
    obtain rfl := ((Issuer.claimsOf_token_eq_ok_iff hissued _ .refresh).mp hread).1
    refine h.not_accepted_of_absent hstart (habsent _ ?_) (hlog ▸ List.prefix_append _ _) haccepted
    exact Issuer.mem_pairKeys.mpr (.inr rfl)
  · exact live?_eq_none_of_held? (habsent key hkey after [] T (List.append_nil _).symm h)
  · obtain ⟨log, rest, hlog⟩ := List.append_of_mem hmem
    have htells := (hlog ▸ h).tells.2
    cases result with
    | ok => rfl
    | error e =>
      rw [hlog] at hcalm
      exact absurd (hcalm.of_subset (diary_mono (List.prefix_append _ _) i).subset) htells
  · exact World.perform_logout hworks _

end Traffic

/-! ## A login and a logout -/

/-- The logout after the login of the user. -/
abbrev sampleLogout : Operation :=
  .logout ⟨7, Uuid.numbered 1, Uuid.numbered 2⟩

/-- The logout succeeds. -/
theorem steps_sampleLogout : Traffic.Steps sampleIssuer afterLogin
    (Traffic.aloneLog sampleIssuer afterLogin sampleLogout (.ok ()))
    (afterLogin.alone sampleIssuer sampleLogout) := by
  have hdone : (afterLogin.world.trace (sampleLogout.task sampleIssuer)).2.2.any Except.isOk := by
    decide +kernel
  obtain ⟨⟨⟩, hresult⟩ := exists_ok hdone
  exact .alone trivial hresult

namespace Traffic

/-- A second after a login and a logout the pair of the login is gone. -/
theorem Steps.revoked_stays_of_logout : ∃ before after T pair,
    Run sampleIssuer (sampleWorld 7) (before ++ after) T ∧ Revoked sampleIssuer before pair ∧
      ∀ key ∈ sampleIssuer.pairKeys pair.accessUuid pair.refreshUuid, T.live? key = none := by
  obtain ⟨grant, hlogin, hpair⟩ := handedOut_sampleLogin
  have hrun := hlogin.trans steps_sampleLogout
  have hreturned : .returned 1 sampleLogout (.ok ()) ∈
      aloneLog sampleIssuer afterLogin sampleLogout (.ok ()) :=
    returned_mem_aloneLog
  have hrevoked : Revoked sampleIssuer _ (samplePair 7 (Uuid.numbered 1) (Uuid.numbered 2)) :=
    .logout rfl hpair (hrun.diary_eq_nil_of_started started_mem_aloneLog)
      (List.mem_append_right _ hreturned)
  have hdistinct : (uuidsOf (aloneLog sampleIssuer (idle (sampleWorld 7)) sampleLogin (.ok grant) ++
      aloneLog sampleIssuer afterLogin sampleLogout (.ok ()) ++ [.passed 1000])).Nodup := by
    rw [uuidsOf_append, uuidsOf_append, uuidsOf_aloneLog, uuidsOf_aloneLog]
    decide +kernel
  have hlater := hrun.snoc (.pass 1000)
  obtain ⟨-, -, hgone, -⟩ := Steps.revoked_stays sampleIssuer_prefixesApart rfl hdistinct hlater
    ((hpair.mono (List.prefix_append _ _)).mono (List.prefix_append _ _)) hrevoked
  exact ⟨_, _, _, _, hlater, hrevoked, hgone⟩

end Traffic

end SessionLedger
