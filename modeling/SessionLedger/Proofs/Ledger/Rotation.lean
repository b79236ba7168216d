import SessionLedger.Proofs.Ledger.Spent
import SessionLedger.Proofs.Session.Sparing

/-! A rotation is all or nothing for its caller. A refresh takes the old pair out of the ledger only
with its last call, when both identifiers of the new pair have been written, and then it is granted.
If it ends otherwise, at its deadline too, it has taken nothing of the old pair. -/
namespace SessionLedger
open Session Token Text

/-- An operation has taken a live entry out of the ledger. -/
def Takes (s : Issuer) (w : World) (log : List Event) (i : Nat) (key : String) : Prop :=
  ∃ before e after U V, log = before ++ e :: after ∧ e.flight? = some i ∧
    Traffic.Run s w before U ∧ Traffic.Step s U e V ∧ U.live? key ≠ none ∧ V.live? key = none

/-- An operation has drawn two identifiers, minted a pair of them for a user, whose tokens are those
of a grant, and written both identifiers. -/
def Issued (s : Issuer) (log : List Event) (i : Nat) (user : Int64) (grant : Grant) : Prop :=
  ∃ pair snapshot, grant = pair.grant snapshot ∧
    drawn (diary log i) = [pair.accessUuid, pair.refreshUuid] ∧
    (∃ now, s.pairAt? now ⟨user, pair.accessUuid, pair.refreshUuid⟩ = some pair) ∧
    ∀ key ∈ s.pairKeys pair.accessUuid pair.refreshUuid, ∃ lifetime,
      Stored (diary log i) (.set key (Decimal.ofInt64 user) lifetime) ()

/-- An operation has issued a grant and then removed the pair that claims name, of which something
was live. Since then the old identifiers have been absent, unless they were written again. -/
def Rotated (s : Issuer) (w : World) (log : List Event) (T : Traffic) (i : Nat) (claims : Claims)
    (grant : Grant) : Prop :=
  ∃ A n B U V, log = A ++ .removal s i claims.accessUuid claims.refreshUuid (n + 1) :: B ∧
    Traffic.Run s w A U ∧
    Traffic.Step s U (.removal s i claims.accessUuid claims.refreshUuid (n + 1)) V ∧
    Traffic.Steps s V B T ∧ Issued s A i claims.user grant ∧
    (∃ key ∈ s.pairKeys claims.accessUuid claims.refreshUuid, U.live? key ≠ none) ∧
    ∀ key ∈ s.pairKeys claims.accessUuid claims.refreshUuid, V.held? key = none ∧
      ((∀ e ∈ B, ∀ value, ¬ e.Writes key value) → T.held? key = none)

variable {s : Issuer} {w : World} {T U V : Traffic} {log after : List Event} {e : Event}
variable {i now : Nat} {key token : String} {claims claims' : Claims} {grant : Grant} {pair : Pair}
variable {d : Diary}

/-- A rotation is for the user whom the token names. -/
theorem Mints.user_eq (h : Mints s d (.refresh token) pair)
    (hread : s.signer.claimsOf now token .refresh = .ok claims) : pair.user = claims.user := by
  have huser := h.user
  generalize pair.user = user at huser ⊢
  cases huser with
  | refresh haccepted =>
    obtain ⟨now', -, hread'⟩ := haccepted.reads
    rw [Signer.claimsOf_unique hread' hread]

theorem Rotates.claims_eq (h : Rotates s d token claims' pair)
    (hread : s.signer.claimsOf now token .refresh = .ok claims) : claims' = claims := by
  obtain ⟨now', -, hread'⟩ := h.accepted.reads
  exact Signer.claimsOf_unique hread' hread

/-- When a refresh is about to remove the old pair, it has issued the new one. -/
theorem Rotates.issued (h : Rotates s (diary log i) token claims' pair)
    (hread : s.signer.claimsOf now token .refresh = .ok claims) (snapshot : User.Snapshot) :
    Issued s log i claims.user (pair.grant snapshot) := by
  obtain ⟨instant, -, hminted⟩ := h.mints.minted
  rw [← h.mints.user_eq hread]
  exact ⟨pair, snapshot, rfl, h.mints.drawn, ⟨instant, hminted⟩, fun key hkey =>
    h.registers.stored hkey⟩

/-- What has been issued stays so as long as nothing more is drawn. -/
theorem Issued.mono {log log' : List Event} {user : Int64} (h : Issued s log i user grant)
    (hlog : log <+: log') (hdrawn : drawn (diary log' i) = drawn (diary log i)) :
    Issued s log' i user grant := by
  obtain ⟨pair, snapshot, hgrant, hown, hminted, hwritten⟩ := h
  refine ⟨pair, snapshot, hgrant, hdrawn.trans hown, hminted, fun key hkey => ?_⟩
  obtain ⟨lifetime, hstored⟩ := hwritten key hkey
  exact ⟨lifetime, hstored.mono (diary_mono hlog i)⟩

namespace Traffic

/-- A live entry is gone after a step of an operation only if the step has removed it. -/
theorem Step.removal_of_taken (h : Step s U e V) (he : e.flight? = some i)
    (hlive : U.live? key ≠ none) (hgone : V.live? key = none) :
    ∃ keys limit n, key ∈ keys ∧
      e = .called i (.remote (.store (.delete keys)) limit) (some (.ok (n + 1))) := by
  obtain ⟨x, hx⟩ := Option.ne_none_iff_exists'.mp hlive
  have hclock := h.clock_eq he
  have hw : ∀ value, ¬ e.Writes key value := by
    rintro value ⟨j, lifetime, limit, rfl⟩
    have hdead := live?_eq_none_iff.mp hgone _ h.set_ok
    rw [hclock, Store.State.isLive_expiryAt] at hdead
    cases hdead
  by_cases hr : e.Removes key
  · obtain ⟨j, keys, limit, n, hmem, rfl⟩ := hr
    cases he
    cases n with
    | zero =>
      rw [h.delete_ok.2.mp rfl key hmem] at hx
      cases hx
    | succ n => exact ⟨keys, limit, n, hmem, rfl⟩
  · rcases h.held?_of_quiet hw hr with heq | ⟨-, hdead⟩
    · rw [live?_eq_some_iff] at hx
      have hdead := live?_eq_none_iff.mp hgone x (heq.trans hx.1)
      rw [hclock, hx.2] at hdead
      cases hdead
    · rw [hx] at hdead
      cases hdead

/-- A refresh that is granted has rotated the pair. -/
theorem Steps.rotated_of_granted
    (hread : s.signer.claimsOf now token .refresh = .ok claims)
    (h : Run s w (log ++ .returned i (.refresh token) (.ok grant) :: after) T) :
    ∃ R, Rotated s w log R i claims grant ∧
      Steps s R (.returned i (.refresh token) (.ok grant) :: after) T := by
  obtain ⟨-, pair, snapshot, claims', d, n, rfl, hrotates, hdiary⟩ := h.tells
  obtain rfl := hrotates.claims_eq hread
  obtain ⟨A, B, rfl, rfl, -⟩ := diary_eq_append_cons hdiary
  obtain ⟨R, hR, hrest⟩ := h.split
  obtain ⟨U, V, hA, hstep, hB⟩ := hR.at
  refine ⟨R, ⟨A, n, B, U, V, rfl, hA, hstep, hB, hrotates.issued hread snapshot, ?_,
    fun key hkey => ?_⟩, hrest⟩
  · have hfound : ¬ ∀ key ∈ s.pairKeys claims'.accessUuid claims'.refreshUuid,
        U.live? key = none := fun hnone => absurd (hstep.delete_ok.2.mpr hnone) (Nat.succ_ne_zero n)
    simpa only [Classical.not_forall, exists_prop] using hfound
  · have hgone := hstep.held?_of_removes (Event.removes_removal hkey)
    exact ⟨hgone, hB.held?_eq_none hgone⟩

/-- An incomplete rotation has issued the new pair and taken nothing. -/
theorem Steps.issued_of_incomplete {a r : String} {cause : CacheFault}
    (hread : s.signer.claimsOf now token .refresh = .ok claims)
    (h : Run s w (log ++ .returned i (.refresh token)
      (.error (.rotationIncomplete grant a r cause)) :: after) T) :
    Issued s log i claims.user grant ∧ a = claims.accessUuid ∧ r = claims.refreshUuid ∧
      removed (diary log i) = [] := by
  obtain ⟨-, htells⟩ := h.tells
  generalize hdiary : diary log i = d at htells
  cases htells with
  | @incomplete d _ claims' pair snapshot reply cause hrotates hreply =>
    obtain rfl := hrotates.claims_eq hread
    obtain ⟨A, B, rfl, rfl, -⟩ := diary_eq_append_cons hdiary
    have hdrawn : drawn (diary A i ++ [s.removal claims'.accessUuid claims'.refreshUuid reply]) =
        drawn (diary A i) := by
      rw [drawn_append]
      exact List.append_nil _
    refine ⟨(hrotates.issued hread snapshot).mono (List.prefix_append A _) (hdiary ▸ hdrawn),
      rfl, rfl, ?_⟩
    rw [removed_append, hrotates.kept]
    match reply with
    | some (.ok n) => exact absurd rfl (hreply n)
    | some (.error e) => rfl
    | none => rfl
  | disturbed _ hbare => exact absurd rfl (hbare _ _ _ _)

/-- What an operation has taken it has removed. -/
theorem removed_of_takes (h : Takes s w log i key) :
    ∃ keys n, key ∈ keys ∧ (keys, n + 1) ∈ removed (diary log i) := by
  obtain ⟨before, e, after, U, V, rfl, he, -, hstep, hlive, hgone⟩ := h
  have hcalled : e ∈ before ++ e :: after := by simp
  obtain ⟨keys, limit, n, hmem, rfl⟩ := hstep.removal_of_taken he hlive hgone
  exact ⟨keys, n, hmem, mem_removed_diary hcalled⟩

/-- Where a pair is unharmed and nothing excuses its harm, none of its entries has been taken. -/
theorem not_takes_of_unharmed (hunharmed : Unharmed s claims (diary log i))
    (hknown : ∀ limit, .called i (.remote (.users (.findById claims.user)) limit)
      (some (.error .notFound)) ∉ log)
    (hfresh : ∀ uuid ∈ drawn (diary log i), uuid ∉ [claims.accessUuid, claims.refreshUuid])
    (hkey : key ∈ s.pairKeys claims.accessUuid claims.refreshUuid) : ¬ Takes s w log i key := by
  intro htakes
  obtain ⟨keys, n, hmem, hremoved⟩ := removed_of_takes htakes
  rcases hunharmed with hexcused | hspared
  · cases hexcused with
    | unknown hcall => exact hknown _ (mem_diary.mp hcall)
    | drawn huuid hold => exact hfresh _ huuid hold
  · cases hspared keys (n + 1) hremoved key hmem hkey

/-- A refresh that takes an entry of the old pair is granted, if it ends. -/
theorem Steps.granted_of_takes (hs : s.PrefixesApart)
    (hread : s.signer.claimsOf now token .refresh = .ok claims)
    (hknown : ∀ limit, .called i (.remote (.users (.findById claims.user)) limit)
      (some (.error .notFound)) ∉ log)
    (hfresh : ∀ uuid ∈ drawn (diary log i), uuid ∉ [claims.accessUuid, claims.refreshUuid])
    (h : Run s w log T) (hkey : key ∈ s.pairKeys claims.accessUuid claims.refreshUuid)
    (htakes : Takes s w log i key) :
    ¬ CutShort s log i (.refresh token) ∧
      ∀ result, .returned i (.refresh token) result ∈ log → ∃ grant, result = .ok grant := by
  have hkeeps := keeps_refresh_unharmed hs hread
  constructor
  · rintro ⟨before, late, after, c, next, rfl, hafter⟩
    have hunharmed := (hkeeps.after hafter).1
    rw [← h.diary_of_end rfl] at hunharmed
    exact not_takes_of_unharmed hunharmed hknown hfresh hkey htakes
  · intro result hmem
    obtain ⟨before, after, rfl⟩ := List.append_of_mem hmem
    cases result with
    | ok grant => exact ⟨grant, rfl⟩
    | error e =>
      by_cases hbare : e.IsBare
      · have hunharmed := hkeeps.after h.returned.2.2 e rfl hbare
        rw [← h.diary_of_end rfl] at hunharmed
        cases not_takes_of_unharmed hunharmed hknown hfresh hkey htakes
      · -- An incomplete rotation has removed nothing at all.
        obtain ⟨grant, a, r, cause, rfl⟩ : ∃ grant a r cause,
            e = .rotationIncomplete grant a r cause := by
          simpa only [SessionError.IsBare, Classical.not_forall, Classical.not_not] using hbare
        obtain ⟨-, -, -, hnone⟩ := h.issued_of_incomplete hread
        obtain ⟨keys, n, -, hremoved⟩ := removed_of_takes htakes
        rw [h.diary_of_end rfl, hnone] at hremoved
        cases hremoved

/-- Whatever else runs, if the user of the token is not unknown and the refresh draws no identifier
of the old pair: a refresh that is granted has rotated the pair, one that is incomplete hands out
the new pair and has taken nothing, and one that ends otherwise, at its deadline too, has taken
nothing of the old pair. -/
theorem Steps.all_or_nothing (hs : s.PrefixesApart)
    (hread : s.signer.claimsOf now token .refresh = .ok claims)
    (hknown : ∀ limit, .called i (.remote (.users (.findById claims.user)) limit)
      (some (.error .notFound)) ∉ log)
    (hfresh : ∀ uuid ∈ drawn (diary log i), uuid ∉ [claims.accessUuid, claims.refreshUuid])
    (h : Run s w log T) :
    (∀ before grant after, log = before ++ .returned i (.refresh token) (.ok grant) :: after →
        ∃ R, Rotated s w before R i claims grant ∧
          Steps s R (.returned i (.refresh token) (.ok grant) :: after) T) ∧
      (∀ grant a r cause,
        .returned i (.refresh token) (.error (.rotationIncomplete grant a r cause)) ∈ log →
        (∀ key, ¬ Takes s w log i key) ∧ a = claims.accessUuid ∧ r = claims.refreshUuid ∧
          Issued s log i claims.user grant) ∧
      ∀ key ∈ s.pairKeys claims.accessUuid claims.refreshUuid, Takes s w log i key →
        ¬ CutShort s log i (.refresh token) ∧
          ∀ result, .returned i (.refresh token) result ∈ log → ∃ grant, result = .ok grant := by
  refine ⟨?granted, ?incomplete, ?otherwise⟩
  case granted =>
    rintro before grant after rfl
    exact h.rotated_of_granted hread
  case incomplete =>
    intro grant a r cause hmem
    obtain ⟨before, after, rfl⟩ := List.append_of_mem hmem
    obtain ⟨hissued, haccess, hrefresh, hnone⟩ := h.issued_of_incomplete hread
    have hdiary := h.diary_of_end rfl
    refine ⟨fun key htakes => ?_, haccess, hrefresh,
      hissued.mono (List.prefix_append before _) (congrArg drawn hdiary)⟩
    obtain ⟨keys, n, -, hremoved⟩ := removed_of_takes htakes
    rw [hdiary, hnone] at hremoved
    cases hremoved
  case otherwise =>
    intro key hkey htakes
    exact h.granted_of_takes hs hread hknown hfresh hkey htakes

/-- The refresh of a registered pair takes both of its entries. -/
theorem Steps.all_or_nothing_of_refresh : ∃ log T R grant,
    Run sampleIssuer (pairedWorld 7) log T ∧ .returned 0 (pairedRefresh 7) (.ok grant) ∈ log ∧
      ∃ before, Rotated sampleIssuer (pairedWorld 7) before R 0
        ((samplePair 7 "a" "r").claims 0 .refresh) grant := by
  obtain ⟨grant, hrun⟩ := run_pairedRefresh
  have hread : sampleIssuer.signer.claimsOf 0 (samplePair 7 "a" "r").refreshToken .refresh =
      .ok ((samplePair 7 "a" "r").claims 0 .refresh) :=
    claimsOf_samplePair 7 "a" "r" .refresh rfl (by decide) (by decide) (by decide)
  have hserved : ((pairedWorld 7).trace ((pairedRefresh 7).task sampleIssuer)).1.all isServed := by
    rw [trace_pairedRefresh]
    decide +kernel
  have hdrawn : drawn (diary (aloneLog sampleIssuer (.idle (pairedWorld 7)) (pairedRefresh 7)
      (.ok grant)) 0) = [Uuid.numbered 1, Uuid.numbered 2] := by
    refine (congrArg drawn diary_aloneLog).trans ?_
    rw [Traffic.idle, trace_pairedRefresh]
    decide +kernel
  obtain ⟨hgranted, -, -⟩ := Steps.all_or_nothing (i := 0) sampleIssuer_prefixesApart hread
    (fun limit hmem => by
      have hexchange := mem_trace_of_mem_aloneLog hmem
      cases List.all_eq_true.mp hserved _ hexchange)
    (by
      rw [hdrawn]
      decide) hrun
  have hreturned : .returned 0 (pairedRefresh 7) (.ok grant) ∈
      aloneLog sampleIssuer (.idle (pairedWorld 7)) (pairedRefresh 7) (.ok grant) :=
    returned_mem_aloneLog
  obtain ⟨before, after, hlog⟩ := List.append_of_mem hreturned
  obtain ⟨R, hrotated, -⟩ := hgranted before grant after hlog
  exact ⟨_, _, R, grant, hrun, hreturned, before, hrotated⟩

end Traffic

end SessionLedger
