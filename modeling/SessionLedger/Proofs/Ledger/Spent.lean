import SessionLedger.Proofs.Ledger.Registration
import SessionLedger.Proofs.Session.Minted

/-! What happens to a pair after it was handed out. Both of its keys have been written by then,
and nothing is written under them any more, so the first removal of the pair takes both keys away
for good and every later one finds nothing. A refresh is granted only if its own removal has found
something: of all refreshes with one token at most one is granted. -/
namespace SessionLedger
open Session Token

/-- The removal of the two keys of a pair, with the number of keys that were live. -/
def Event.removal (s : Issuer) (i : Nat) (accessUuid refreshUuid : String) (n : Nat) : Event :=
  .called i (.remote (.store (.delete (s.pairKeys accessUuid refreshUuid))) (some s.cacheLimit))
    (some (.ok n))

/-- A login or a refresh has handed out a pair, be it along with an error. -/
structure HandedOut (s : Issuer) (log : List Event) (pair : Pair) : Prop where
  minted : ∃ now, s.pairAt? now ⟨pair.user, pair.accessUuid, pair.refreshUuid⟩ = some pair
  returned : ∃ i op result snapshot,
    .returned i op result ∈ log ∧ Hands op result (pair.grant snapshot)

variable {s : Issuer} {w : World} {T : Traffic} {log log' log₁ log₂ : List Event} {i j n : Nat}
variable {a r key : String} {pair : Pair}

theorem HandedOut.mono (h : HandedOut s log pair) (hlog : log <+: log') :
    HandedOut s log' pair := by
  obtain ⟨hminted, i, op, result, snapshot, hmem, hhands⟩ := h
  exact ⟨hminted, i, op, result, snapshot, hlog.subset hmem, hhands⟩

theorem Event.removes_removal (h : key ∈ s.pairKeys a r) : (removal s i a r n).Removes key :=
  ⟨i, _, _, n, h, rfl⟩

/-- The access identifier that was settled along with the refresh identifier of a minted pair is
the one of the pair. -/
theorem MintedIn.accessUuid_eq (h : MintedIn s log pair) (hdistinct : (uuidsOf log).Nodup)
    (hsettled : Settled s log a pair.refreshUuid) : a = pair.accessUuid := by
  obtain ⟨i, now, hminted, -⟩ := h
  obtain ⟨j, hdrawn, -⟩ := hsettled
  -- Both operations have drawn the refresh identifier, so they are the same.
  have hrefresh : pair.refreshUuid ∈ [a, pair.refreshUuid] := by simp
  have hrefresh' : pair.refreshUuid ∈ [pair.accessUuid, pair.refreshUuid] := by simp
  obtain rfl := drawer_unique hdistinct (hdrawn.subset hrefresh) (hminted.subset hrefresh')
  have heq := (List.prefix_of_prefix_length_le hdrawn hminted (by simp)).eq_of_length (by simp)
  exact (List.cons.inj heq).1

namespace Traffic

/-- A token is accepted where its identifier is live in the ledger. -/
theorem Steps.live_of_accepted {token : String} {kind : Kind} {claims : Claims}
    (h : Run s w log T) (haccepted : Accepted s (diary log i) token kind claims) :
    ∃ log₁ limit owner log₂ U e,
      log = log₁ ++ .called i (.remote (.store (.get (s.tokenKey kind (claims.uuid kind)))) limit)
        (some (.ok (some owner))) :: log₂ ∧
      Run s w log₁ U ∧ U.live? (s.tokenKey kind (claims.uuid kind)) = some e := by
  obtain ⟨owner, hstored, -⟩ := haccepted.owner
  obtain ⟨limit, hmem⟩ := stored_diary.mp hstored
  obtain ⟨log₁, log₂, rfl⟩ := List.append_of_mem hmem
  obtain ⟨U, V, h₁, he, -⟩ := h.at
  obtain ⟨e, hlive, -⟩ := Option.map_eq_some_iff.mp he.get_ok.symm
  exact ⟨log₁, limit, owner, log₂, U, e, rfl, h₁, hlive⟩

/-- Where the refresh token of a minted pair is accepted, the pair has been settled. -/
theorem Steps.settled_of_accepted (hs : s.PrefixesApart) (hempty : w.store.entries = [])
    (hdistinct : (uuidsOf (log ++ log')).Nodup) (hminted : MintedIn s (log ++ log') pair)
    (h : Run s w log T) {claims : Claims}
    (haccepted : Accepted s (diary log i) pair.refreshToken .refresh claims) :
    claims.accessUuid = pair.accessUuid ∧ claims.refreshUuid = pair.refreshUuid ∧
      Settled s log pair.accessUuid pair.refreshUuid := by
  obtain ⟨log₁, limit, owner, log₂, U, e, hlog, h₁, hlive⟩ := h.live_of_accepted haccepted
  obtain ⟨now, -, hread⟩ := haccepted.reads
  obtain ⟨_, minted, -, hpair⟩ := id hminted
  obtain rfl := ((Issuer.claimsOf_token_eq_ok_iff hpair _ .refresh).mp hread).1
  obtain ⟨a, hsettled⟩ := h₁.settled_of_held hs hempty (live?_eq_some_iff.mp hlive).1
  have hlog₁ : log₁ <+: log := hlog ▸ List.prefix_append log₁ _
  have hsettled := hsettled.mono hlog₁
  obtain rfl := hminted.accessUuid_eq hdistinct (hsettled.mono (List.prefix_append log log'))
  exact ⟨rfl, rfl, hsettled⟩

/-- Before its return the operation that hands out a pair has drawn its identifiers and registered
them. -/
theorem Steps.registers_of_handedOut (h : Run s w log T) (hpair : HandedOut s log pair) :
    ∃ early i op result, early <+: log ∧ .returned i op result ∈ log ∧
      drawn (diary early i) = [pair.accessUuid, pair.refreshUuid] ∧
      Registers s (diary early i) pair := by
  obtain ⟨⟨now, hpair⟩, i, op, result, snapshot, hmem, hhands⟩ := hpair
  obtain ⟨early, late, rfl⟩ := List.append_of_mem hmem
  obtain ⟨pair', snapshot', hgrant, hmints, haccess', hrefresh'⟩ := h.tells.2.hands hhands
  obtain ⟨now', -, hpair'⟩ := hmints.minted
  obtain ⟨huser, haccess, hrefresh⟩ :=
    Issuer.pairAt?_refreshToken_inj hpair hpair' (congrArg Grant.refreshToken hgrant)
  refine ⟨early, i, op, result, List.prefix_append early _, hmem, ?_, ?_, ?_⟩
  · rw [haccess, hrefresh, hmints.drawn]
  · rwa [Registered, huser, haccess]
  · rwa [Registered, huser, hrefresh]

/-- A pair that has been handed out has been settled. -/
theorem Steps.settled_of_handedOut (h : Run s w log T) (hpair : HandedOut s log pair) :
    Settled s log pair.accessUuid pair.refreshUuid := by
  obtain ⟨early, i, -, -, hearly, -, hdrawn, hregisters⟩ := h.registers_of_handedOut hpair
  refine Settled.mono ⟨i, ?_, fun key => hregisters.mem_written⟩ hearly
  simp only [hdrawn, List.prefix_refl]

theorem Steps.mintedIn_of_handedOut (h : Run s w log T) (hpair : HandedOut s log pair) :
    MintedIn s log pair := by
  obtain ⟨i, hdrawn, -⟩ := h.settled_of_handedOut hpair
  obtain ⟨now, hminted⟩ := hpair.minted
  exact ⟨i, now, hdrawn, hminted⟩

/-- What is returned to a caller is a pair that has been handed out. -/
theorem Steps.handedOut_of_returned {op : Operation} {result : op.Result} {grant : Grant}
    (h : Run s w log T) (hmem : .returned i op result ∈ log) (hhands : Hands op result grant) :
    ∃ pair, HandedOut s log pair ∧ Mints s (diary log i) op pair := by
  obtain ⟨pair, snapshot, rfl, hmints, -⟩ := (h.tells_of_mem hmem).2.hands hhands
  obtain ⟨now, -, hminted⟩ := hmints.minted
  exact ⟨pair, ⟨⟨now, hminted⟩, i, op, result, snapshot, hmem, hhands⟩, hmints⟩

/-- Once a pair has been removed, a further removal finds nothing, unless one of its keys has been
written meanwhile. -/
theorem Steps.removal_eq_zero {A mid : List Event} {m : Nat}
    (h : Run s w (A ++ .removal s i a r m :: mid ++ .removal s j a r n :: log') T)
    (hwrites : ∀ key ∈ s.pairKeys a r, ∀ e ∈ mid, ∀ value, ¬ e.Writes key value) : n = 0 := by
  obtain ⟨U, V, h₁, hstep, -⟩ := h.at
  refine hstep.delete_ok.2.mpr fun key hkey => live?_eq_none_of_held? ?_
  exact h₁.held?_of_removes (Event.removes_removal hkey) (hwrites key hkey)

/-- Of the removals of a pair only the first finds anything, unless one of its keys has been written
meanwhile. -/
theorem Steps.removal_unique (h : Run s w log T) {A A' B B' : List Event} {m : Nat}
    (hi : log = A ++ .removal s i a r (m + 1) :: B)
    (hB : ∀ key ∈ s.pairKeys a r, ∀ e ∈ B, ∀ value, ¬ e.Writes key value)
    (hj : log = A' ++ .removal s j a r (n + 1) :: B')
    (hB' : ∀ key ∈ s.pairKeys a r, ∀ e ∈ B', ∀ value, ¬ e.Writes key value) : i = j := by
  subst hi
  -- Whichever of two removals comes later cannot have found anything.
  rcases cut_cases hj with ⟨-, heq, -⟩ | ⟨mid, rfl⟩ | ⟨mid, rfl⟩
  · cases heq
    rfl
  · obtain rfl : B = mid ++ .removal s j a r (n + 1) :: B' := by simpa using hj
    rw [← List.cons_append, ← List.append_assoc] at h
    cases h.removal_eq_zero fun key hkey e he => hB key hkey e (List.mem_append_left _ he)
  · obtain rfl : B' = mid ++ .removal s i a r (m + 1) :: B := by simpa using hj.symm
    cases h.removal_eq_zero fun key hkey e he => hB' key hkey e (List.mem_append_left _ he)

/-- A refresh with the refresh token of a minted pair is granted only if its removal of the settled
pair has found something. -/
theorem Steps.removal_of_granted (hs : s.PrefixesApart) (hempty : w.store.entries = [])
    {grant : Grant}
    (h : Run s w (log₁ ++ .returned i (.refresh pair.refreshToken) (.ok grant) :: log₂) T)
    (hdistinct : (uuidsOf (log₁ ++ log')).Nodup) (hminted : MintedIn s (log₁ ++ log') pair) :
    ∃ A B n, log₁ = A ++ .removal s i pair.accessUuid pair.refreshUuid (n + 1) :: B ∧
      Settled s A pair.accessUuid pair.refreshUuid ∧ diary B i = [] := by
  obtain ⟨-, pair', snapshot, claims, d, n, -, hrotates, hdiary⟩ := h.tells
  obtain ⟨A, B, rfl, rfl, hB⟩ := diary_eq_append_cons hdiary
  obtain ⟨U, V, hA, -⟩ := h.at
  obtain ⟨U, V, hA, -⟩ := hA.at
  rw [List.append_assoc] at hdistinct hminted
  obtain ⟨haccess, hrefresh, hsettled⟩ :=
    hA.settled_of_accepted hs hempty hdistinct hminted hrotates.accepted
  rw [haccess, hrefresh]
  exact ⟨A, B, n, rfl, hsettled, hB⟩

/-- Of all refreshes with the refresh token of a minted pair at most one is granted. None is granted
whose own removal of the pair does not come before another one that follows the hand-out. -/
theorem Steps.spent_once (hs : s.PrefixesApart) (hempty : w.store.entries = [])
    (hdistinct : (uuidsOf log).Nodup) (h : Run s w log T) (hminted : MintedIn s log pair) :
    (∀ i j grant grant', .returned i (.refresh pair.refreshToken) (.ok grant) ∈ log →
        .returned j (.refresh pair.refreshToken) (.ok grant') ∈ log → i = j ∧ grant = grant') ∧
      ∀ A B i j n, log = A ++ .removal s i pair.accessUuid pair.refreshUuid n :: B →
        HandedOut s A pair → i ≠ j →
        (∀ m, .removal s j pair.accessUuid pair.refreshUuid m ∉ A) →
        ∀ grant, .returned j (.refresh pair.refreshToken) (.ok grant) ∉ log := by
  have hspent : ∀ j grant, .returned j (.refresh pair.refreshToken) (.ok grant) ∈ log →
      ∃ A B n, log = A ++ .removal s j pair.accessUuid pair.refreshUuid (n + 1) :: B ∧
        Settled s A pair.accessUuid pair.refreshUuid := by
    intro j grant hmem
    obtain ⟨before, after, rfl⟩ := List.append_of_mem hmem
    obtain ⟨A, B, n, rfl, hsettled, -⟩ := h.removal_of_granted hs hempty hdistinct hminted
    exact ⟨A, _, n, List.append_assoc .., hsettled⟩
  have hquiet : ∀ A e B, log = A ++ e :: B → Settled s A pair.accessUuid pair.refreshUuid →
      ∀ key ∈ s.pairKeys pair.accessUuid pair.refreshUuid, ∀ e' ∈ B, ∀ value,
        ¬ e'.Writes key value := by
    rintro A e B rfl hsettled key hkey e' he'
    exact h.not_writes_of_settled hs hdistinct hsettled hkey (List.mem_cons_of_mem e he')
  constructor
  · intro i j grant grant' hi hj
    obtain ⟨A, B, n, hA, hsettled⟩ := hspent i grant hi
    obtain ⟨A', B', n', hA', hsettled'⟩ := hspent j grant' hj
    obtain rfl := h.removal_unique hA (hquiet _ _ _ hA hsettled) hA' (hquiet _ _ _ hA' hsettled')
    exact ⟨rfl, Except.ok.inj (h.result_unique hi hj)⟩
  · intro A B i j n hA hpair hne hown grant hmem
    obtain ⟨A', B', n', hA', -⟩ := hspent j grant hmem
    rcases cut_cases (hA.symm.trans hA') with ⟨-, heq, -⟩ | ⟨mid, rfl⟩ | ⟨mid, rfl⟩
    · cases heq
      exact hne rfl
    · -- The other removal comes first, after the hand-out, and leaves nothing to find.
      rw [List.append_assoc, List.cons_append] at hA'
      obtain ⟨U, -, hAU, -⟩ := (hA' ▸ h).at
      have hwrites := hquiet _ _ _ hA' (hAU.settled_of_handedOut hpair)
      rw [hA', ← List.cons_append, ← List.append_assoc] at h
      cases h.removal_eq_zero fun key hkey e he => hwrites key hkey e (List.mem_append_left _ he)
    · -- The refresh has removed the pair before, which was excluded.
      exact hown (n' + 1) (by simp)

/-- If the exchange finds a row by its email, it is the one of that user. -/
def findsOnly (user : Int64) : Effect.interface.Exchange → Bool
  | ⟨.remote (.users (.findByEmail _)) _, some (.ok row)⟩ => row.id == user
  | _ => true

/-- The pair that the login of the user hands out. -/
theorem handedOut_sampleLogin : ∃ grant, Run sampleIssuer (sampleWorld 7)
    (aloneLog sampleIssuer (idle (sampleWorld 7)) sampleLogin (.ok grant)) afterLogin ∧
      HandedOut sampleIssuer (aloneLog sampleIssuer (idle (sampleWorld 7)) sampleLogin (.ok grant))
        (samplePair 7 (Uuid.numbered 1) (Uuid.numbered 2)) := by
  obtain ⟨grant, hrun⟩ := run_sampleLogin
  refine ⟨grant, hrun, ?_⟩
  obtain ⟨pair, hpair, hmints⟩ := hrun.handedOut_of_returned returned_mem_aloneLog .login
  rw [diary_aloneLog] at hmints
  have hrows : ((sampleWorld 7).trace (sampleLogin.task sampleIssuer)).1.all (findsOnly 7) := by
    decide +kernel
  have hdrawn : drawn ((sampleWorld 7).trace (sampleLogin.task sampleIssuer)).1 =
      [Uuid.numbered 1, Uuid.numbered 2] := by
    decide +kernel
  obtain ⟨haccess, hrefresh⟩ : pair.accessUuid = Uuid.numbered 1 ∧
      pair.refreshUuid = Uuid.numbered 2 := by
    simpa using hmints.drawn.symm.trans hdrawn
  have huser : pair.user = 7 := by
    have hauthenticated := hmints.user
    generalize pair.user = user at hauthenticated
    cases hauthenticated with
    | login hrow => exact eq_of_beq (List.all_eq_true.mp hrows _ hrow)
  obtain ⟨now, hnow, hminted⟩ := hmints.minted
  obtain rfl := World.eq_clock_of_mem_trace hnow
  rw [huser, haccess, hrefresh, show (idle (sampleWorld 7)).world.clock = 0 from rfl,
    pairAt?_samplePair] at hminted
  exact Option.some.inj hminted ▸ hpair

end Traffic

/-! ## A login and a refresh -/

/-- A refresh after the login of the user. -/
abbrev sampleRefresh : Operation :=
  .refresh (samplePair 7 (Uuid.numbered 1) (Uuid.numbered 2)).refreshToken

/-- The refresh is a rotation. -/
theorem trace_sampleRefresh : afterLogin.world.trace (sampleRefresh.task sampleIssuer) =
    (⟨.clock, afterLogin.world.clock⟩ ::
      ⟨.remote (.store (.get (sampleIssuer.tokenKey .refresh (Uuid.numbered 2)))) (some 500),
        some (.ok (some "7"))⟩ ::
      (afterLogin.world.trace (sampleIssuer.rotate
        ((samplePair 7 (Uuid.numbered 1) (Uuid.numbered 2)).claims 0 .refresh))).1,
      (afterLogin.world.trace (sampleIssuer.rotate
        ((samplePair 7 (Uuid.numbered 1) (Uuid.numbered 2)).claims 0 .refresh))).2) := by
  have hminted := pairAt?_samplePair 7 (Uuid.numbered 1) (Uuid.numbered 2)
  have hclock : afterLogin.world.clock = 0 := Traffic.alone_clock ..
  have hread := claimsOf_samplePair 7 (Uuid.numbered 1) (Uuid.numbered 2) .refresh hclock
    (by decide) (by decide) (by decide)
  have hlive : afterLogin.world.store.live? afterLogin.world.clock
      (sampleIssuer.tokenKey .refresh (Uuid.numbered 2)) = some ⟨"7", some 604800000⟩ := by
    decide +kernel
  exact World.trace_refresh (Issuer.isAllBlank_token hminted .refresh) hread
    (World.answerRemote_get (by decide +kernel) hlive) (by decide +kernel)

/-- It succeeds. -/
theorem steps_sampleRefresh : ∃ grant, Traffic.Steps sampleIssuer afterLogin
    (Traffic.aloneLog sampleIssuer afterLogin sampleRefresh (.ok grant))
    (afterLogin.alone sampleIssuer sampleRefresh) := by
  have hgranted : (afterLogin.world.trace (sampleIssuer.rotate
      ((samplePair 7 (Uuid.numbered 1) (Uuid.numbered 2)).claims 0 .refresh))).2.2.any
        Except.isOk := by
    decide +kernel
  obtain ⟨grant, hgrant⟩ := exists_ok hgranted
  refine ⟨grant, .alone trivial ?_⟩
  rw [trace_sampleRefresh]
  exact hgrant

namespace Traffic

/-- After a login and a refresh no other refresh with that token has been granted. -/
theorem Steps.spent_once_of_refresh : ∃ log T grant, Run sampleIssuer (sampleWorld 7) log T ∧
    .returned 1 sampleRefresh (.ok grant) ∈ log ∧
      ∀ j grant', .returned j sampleRefresh (.ok grant') ∈ log → 1 = j ∧ grant = grant' := by
  obtain ⟨first, hlogin, hpair⟩ := handedOut_sampleLogin
  obtain ⟨grant, hrefresh⟩ := steps_sampleRefresh
  have hrun := hlogin.trans hrefresh
  have hreturned : .returned 1 sampleRefresh (.ok grant) ∈
      aloneLog sampleIssuer (idle (sampleWorld 7)) sampleLogin (.ok first) ++
        aloneLog sampleIssuer afterLogin sampleRefresh (.ok grant) :=
    List.mem_append_right _ returned_mem_aloneLog
  have hminted := hrun.mintedIn_of_handedOut (hpair.mono (List.prefix_append _ _))
  have hdistinct : (uuidsOf (aloneLog sampleIssuer (idle (sampleWorld 7)) sampleLogin (.ok first) ++
      aloneLog sampleIssuer afterLogin sampleRefresh (.ok grant))).Nodup := by
    rw [uuidsOf_append, uuidsOf_aloneLog, uuidsOf_aloneLog, trace_sampleRefresh]
    change (_ ++ drawn (afterLogin.world.trace _).1).Nodup
    decide +kernel
  obtain ⟨honce, -⟩ := Steps.spent_once sampleIssuer_prefixesApart rfl hdistinct hrun hminted
  exact ⟨_, _, grant, hrun, hreturned, fun j grant' hmem => honce 1 j grant grant' hreturned hmem⟩

end Traffic

end SessionLedger
