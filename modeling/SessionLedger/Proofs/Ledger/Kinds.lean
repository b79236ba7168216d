import SessionLedger.Proofs.Session.Lifecycle
import SessionLedger.Proofs.Token.Genuine
import SessionLedger.Proofs.Traffic.Alone

/-! Tokens of the two kinds never stand in for one another. A verification reads its token as an
access token and a refresh that hands out a pair has read its token as a refresh token, so one text
cannot serve both, in whatever states of the world and under whatever secrets. -/
namespace SessionLedger
open Session Token

variable {s s' : Issuer} {d d' : Diary} {token : String} {kind kind' : Kind}
variable {claims claims' : Claims}

/-- Operations that have read one text have read it as a token of one kind. -/
theorem Reads.kind_unique (h : Reads s d token kind claims)
    (h' : Reads s' d' token kind' claims') : kind = kind' := by
  obtain ⟨now, -, hread⟩ := h
  obtain ⟨now', -, hread'⟩ := h'
  exact Signer.kind_unique hread hread'

namespace Traffic
variable {w w' : World} {T T' : Traffic} {log log' : List Event} {i j : Nat}

/-- A verification that succeeds has read its token as an access token. -/
theorem Steps.reads_of_verified {verified : Verified} (h : Run s w log T)
    (hmem : .returned i (.verify token) (.ok verified) ∈ log) :
    ∃ d claims, Reads s d token .access claims := by
  obtain ⟨claims, haccepted, -⟩ := (h.tells_of_mem hmem).2
  exact ⟨_, claims, haccepted.reads⟩

/-- A refresh that hands out a pair has read its token as a refresh token. -/
theorem Steps.reads_of_refreshed {result : Except SessionError Grant} {grant : Grant}
    (h : Run s w log T) (hmem : .returned i (.refresh token) result ∈ log)
    (hhands : Hands (.refresh token) result grant) :
    ∃ d claims, Reads s d token .refresh claims := by
  obtain ⟨claims, haccepted⟩ := (h.tells_of_mem hmem).2.accepted hhands
  exact ⟨_, claims, haccepted.reads⟩

/-- What is read as a token is a genuine one and nothing else is, at any instant and under any
secrets. No text is read as an access token at one instant and as a refresh token at another; and no
text is verified in one run and makes a refresh hand out a pair in another, be it along with an
error, whatever the two stores hold. -/
theorem genuine_and_of_one_kind (token : String) :
    (∀ (σ : Signer) (now : Nat) (kind : Kind) (c : Claims),
      σ.claimsOf now token kind = .ok c ↔
        ∃ header payload, Genuine σ now token kind c header payload) ∧
    (∀ (σ σ' : Signer) (now now' : Nat) (c c' : Claims),
      σ.claimsOf now token .access = .ok c → σ'.claimsOf now' token .refresh ≠ .ok c') ∧
    ∀ (s s' : Issuer) (w w' : World) (log log' : List Event) (T T' : Traffic) (i j : Nat)
      (verified : Verified) (result : Except SessionError Grant) (grant : Grant),
      Run s w log T → .returned i (.verify token) (.ok verified) ∈ log →
      Run s' w' log' T' → .returned j (.refresh token) result ∈ log' →
      ¬ Hands (.refresh token) result grant := by
  refine ⟨fun _ _ _ _ => Signer.claimsOf_eq_ok_iff, ?_, ?_⟩
  · intro σ σ' now now' c c' haccess hrefresh
    cases Signer.kind_unique haccess hrefresh
  · intro s s' w w' log log' T T' i j verified result grant h hverified h' hrefreshed hhands
    obtain ⟨d, claims, hreads⟩ := h.reads_of_verified hverified
    obtain ⟨d', claims', hreads'⟩ := h'.reads_of_refreshed hrefreshed hhands
    cases hreads.kind_unique hreads'

/-- The token of a refresh that is granted is a genuine one, and it is verified in no run. -/
theorem genuine_and_of_one_kind_of_refresh : ∃ grant log T,
    Run sampleIssuer (pairedWorld 7) log T ∧
      .returned 0 (pairedRefresh 7) (.ok grant) ∈ log ∧
      (∃ header payload, Genuine sampleIssuer.signer 0 (samplePair 7 "a" "r").refreshToken .refresh
        ((samplePair 7 "a" "r").claims 0 .refresh) header payload) ∧
      ∀ (s : Issuer) (w : World) (log' : List Event) (T' : Traffic) (i : Nat)
        (verified : Verified), Run s w log' T' →
        .returned i (.verify (samplePair 7 "a" "r").refreshToken) (.ok verified) ∉ log' := by
  obtain ⟨hgenuine, -, hruns⟩ := genuine_and_of_one_kind (samplePair 7 "a" "r").refreshToken
  obtain ⟨grant, hrun⟩ := run_pairedRefresh
  have hread := claimsOf_samplePair 7 "a" "r" .refresh rfl (by decide) (by decide) (by decide)
  refine ⟨grant, _, _, hrun, returned_mem_aloneLog, (hgenuine _ _ _ _).mp hread, ?_⟩
  intro s w log' T' i verified h hverified
  exact hruns _ _ _ _ _ _ _ _ _ _ _ _ grant h hverified hrun returned_mem_aloneLog .refresh

end Traffic

end SessionLedger
