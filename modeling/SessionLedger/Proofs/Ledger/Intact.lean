import SessionLedger.Proofs.Ledger.Verdict
import SessionLedger.Proofs.Traffic.Alone

/-! A login or a refresh that fails leaves the ledger as it was. An error may come after one or both
identifiers of the new pair have been registered, but then the store has carried out a write within
the limit, and under the same faults it carries out the removal of the pair, too. Before the old
pair is removed nothing of it is touched, and a removal that has not found it changes nothing. -/
namespace SessionLedger
open Session Token User

/-- A login or a refresh has failed with an error. -/
inductive Fails : (op : Operation) → op.Result → SessionError → Prop
  | login {email password e} : Fails (.login email password) (.error e) e
  | refresh {token e} : Fails (.refresh token) (.error e) e

/-- The error is none of those after which something may be left, or something may be gone: no pair
is handed out along with it, the deadline has not passed, and the user of the token is known. -/
structure Session.SessionError.IsUndone (e : SessionError) : Prop where
  bare : e.IsBare
  inTime : e ≠ .deadlineExceeded
  known : e ≠ .refreshRejected .unknownUser

/-- The key is one of a token, but not of a certain pair. -/
def Session.Issuer.IsOtherKey (s : Issuer) (pair : Pair) (key : String) : Prop :=
  s.IsTokenKey key ∧ key ∉ s.pairKeys pair.accessUuid pair.refreshUuid

namespace World
variable {s : Issuer} {w U : World} {pair : Pair} {claims : Claims} {user : Int64}

/-! ## Calls that preserve the ledger -/

section
variable {kept : String → Prop} (hs : s.PrefixesApart) (hkept : ∀ key, kept key → s.IsTokenKey key)
include hs hkept

theorem not_kept_profileKey (user : Int64) : ¬ kept (s.profileKey user) :=
  fun h => hs.not_isTokenKey_profileKey user (hkept _ h)

theorem only_profile_preserves : (s.profile user).Only (Effect.Call.Preserves s kept) :=
  only_profile trivial (fun _ => ⟨rfl, not_kept_profileKey hs hkept user⟩) ⟨rfl, trivial⟩

theorem only_noteLogin_preserves : (s.noteLogin user).Only (Effect.Call.Preserves s kept) := by
  refine only_noteLogin trivial (fun _ => trivial) ⟨rfl, fun key hkey => ?_⟩
  obtain rfl := List.mem_singleton.mp hkey
  exact not_kept_profileKey hs hkept user

end

/-- A store that responds and does remove carries out a removal. -/
theorem settle_delete_of_responds (h : w.Responds s) (hdeletes : w.store.deletesFail = false)
    (keys : List String) :
    ∃ w' n, w.settle none (.remote (.store (.delete keys)) (some s.cacheLimit)) =
        (w', some (some (.ok n))) ∧
      ∀ key ∈ keys, ∀ later, w'.store.live? later key = none := by
  have hanswer : ((w.advance w.store.latency).store.answer (w.clock + w.store.latency)
      (.delete keys)).2 = .ok (Store.State.deleteAll (w.clock + w.store.latency) keys
        w.store.entries).2 := by
    simp [Store.State.answer, advance, h.available, hdeletes]
  rw [settle_store, if_pos h.inLimit]
  refine ⟨_, _, Prod.ext rfl (congrArg (some ∘ some) hanswer), fun key hkey later => ?_⟩
  exact (Store.State.live?_delete hanswer).trans (if_pos hkey)

/-- A removal that has found nothing preserves everything. -/
theorem ends_revoke (U : World) (accessUuid refreshUuid : String) :
    Ends (s.revoke accessUuid refreshUuid) U fun w' result =>
      result = .ok 0 → U.Preserves s s.IsTokenKey w' := by
  change Ends (.call (.remote (.store (.delete (s.pairKeys accessUuid refreshUuid)))
    (some s.cacheLimit)) _) U _
  refine ends_call.mpr fun w' reply hsettle => ?_
  have hw' : U.Preserves s (fun _ => False) w' := by
    refine settle_preserves ?_ hsettle
    exact ⟨rfl, fun _ _ h => h⟩
  match reply with
  | none => simp
  | some (.error refusal) =>
    show Ends (Program.bind (Program.orHalt (Cache.refused refusal)) _) w' _
    rw [ends_bind]
    simp
  | some (.ok n) =>
    refine ends_done.mpr fun hzero => ?_
    cases hzero
    refine { hw' with live := fun key _ later hlater => ?_ }
    rw [settle_store] at hsettle
    split at hsettle
    · have hanswer := Option.some.inj (Option.some.inj (congrArg Prod.snd hsettle))
      cases congrArg Prod.fst hsettle
      exact Store.State.live?_delete_of_zero hanswer hlater
    · cases hsettle

/-! ## Cleaning up -/

section
variable (hdeletes : w.store.deletesFail = false)
variable (hfresh : ∀ key ∈ s.pairKeys pair.accessUuid pair.refreshUuid,
  w.store.live? w.clock key = none)
include hdeletes hfresh

/-- What has been registered of a pair that was fresh is gone once the pair is discarded. -/
theorem ends_discard (h : w.Preserves s (s.IsOtherKey pair) U) :
    Ends (s.discard pair) U fun w' _ => w.Preserves s s.IsTokenKey w' := by
  intro w' a hrun
  have hother : w.Preserves s (s.IsOtherKey pair) w' :=
    h.ends (only_discard ⟨rfl, fun key hkey hkept => hkept.2 hkey⟩) w' a hrun
  refine { hother with live := fun key hkey later hlater => ?_ }
  by_cases hpair : key ∈ s.pairKeys pair.accessUuid pair.refreshUuid
  · by_cases hresponds : w.Responds s
    · have hU : U.store.deletesFail = false := h.deletesFail.trans hdeletes
      obtain ⟨V, n, hsettle, hgone⟩ := settle_delete_of_responds (h.responds_iff.mpr hresponds) hU
        (s.pairKeys pair.accessUuid pair.refreshUuid)
      cases hrun.symm.trans (run_call hsettle)
      rw [hgone key hpair, Store.State.live?_eq_none_of_le (hfresh key hpair)
        (Nat.le_trans hother.clock hlater)]
    · -- A store that does not respond has not been written to in the first place.
      simp only [Store.State.live?, hother.unresponsive hresponds]
  · exact hother.live key ⟨hkey, hpair⟩ later hlater

/-- What a pair is discarded for is reported afterwards. -/
theorem ends_discard_error {α : Type} {e : SessionError}
    (h : w.Preserves s (s.IsOtherKey pair) U) :
    Ends ((s.discard pair).bind fun _ => (.done (.error e) : Task (Except SessionError α))) U
      fun w' result => w.Preserves s (s.IsOtherKey pair) w' ∧
        ∀ e, result = .error e → w.Preserves s s.IsTokenKey w' := by
  rw [ends_bind]
  refine (ends_discard hdeletes hfresh h).imp fun w' _ hw' => ?_
  exact ends_done.mpr ⟨hw'.imp fun _ hkey => hkey.1, fun _ _ => hw'⟩

theorem ends_registerFresh :
    Ends (s.registerFresh pair) w fun w' result =>
      w.Preserves s (s.IsOtherKey pair) w' ∧
        ∀ e, result = .error e → w.Preserves s s.IsTokenKey w' := by
  have hregister : (s.register pair).Only (Effect.Call.Preserves s (s.IsOtherKey pair)) :=
    only_register trivial fun key hkey _ _ => ⟨rfl, fun hkept => hkept.2 hkey⟩
  simp only [Issuer.registerFresh, Program.bind_eq, ends_bind]
  refine (ends_of_only hregister).imp fun U result hU => ?_
  cases result with
  | ok => simpa using hU
  | error e => exact ends_discard_error hdeletes hfresh hU

theorem ends_profileFor (hs : s.PrefixesApart) (h : w.Preserves s (s.IsOtherKey pair) U) :
    Ends (s.profileFor pair) U fun w' result =>
      w.Preserves s (s.IsOtherKey pair) w' ∧
        ∀ e, result = .error e → w.Preserves s s.IsTokenKey w' := by
  simp only [Issuer.profileFor, Program.bind_eq, ends_bind]
  refine (h.ends (only_profile_preserves hs fun _ hkey => hkey.1)).imp fun V result hV => ?_
  cases result with
  | ok snapshot => simpa using hV
  | error e => exact ends_discard_error hdeletes hfresh hV

/-- A rotation that has not found the old pair drops the new one. -/
theorem ends_retire {snapshot : Snapshot} (h : w.Preserves s (s.IsOtherKey pair) U) :
    Ends (s.retire claims pair snapshot) U fun w' result =>
      ∀ e, result = .error e → e.IsBare → w.Preserves s s.IsTokenKey w' := by
  simp only [Issuer.retire, Program.bind_eq, ends_bind]
  refine (ends_revoke U claims.accessUuid claims.refreshUuid).imp fun V result hV => ?_
  cases result with
  | error cause =>
    refine ends_done.mpr fun e he hbare => ?_
    cases he
    exact absurd rfl (hbare _ _ _ _)
  | ok n =>
    cases n with
    | zero =>
      have hother := h.trans ((hV rfl).imp fun _ hkey => hkey.1)
      exact (ends_discard_error hdeletes hfresh hother).imp fun w' result hw' e he _ => hw'.2 e he
    | succ n => simp

end

/-! ## Logins and rotations -/

/-- The two identifiers that are drawn next are not registered. -/
def DrawsFresh (s : Issuer) (w : World) : Prop :=
  ∀ kind, ∀ uuid ∈ [w.supply w.drawn, w.supply (w.drawn + 1)],
    w.store.live? w.clock (s.tokenKey kind uuid) = none

/-- The ledger holds what it held for as long as that lives, behind the same faults. -/
structure Intact (s : Issuer) (w w' : World) : Prop where
  clock : w.clock ≤ w'.clock
  faults : w'.store = { w.store with entries := w'.store.entries }
  live : ∀ key, s.IsTokenKey key → ∀ later, w'.clock ≤ later →
    w'.store.live? later key = w.store.live? later key

theorem Intact.live?_eq_some_iff {key : String} {x : Store.Entry} (h : w.Intact s U)
    (hkey : s.IsTokenKey key) :
    U.store.live? U.clock key = some x ↔
      w.store.live? w.clock key = some x ∧ x.isLive U.clock = true := by
  rw [h.live key hkey _ (Nat.le_refl _)]
  simp only [Store.State.live?_eq_some_iff]
  constructor
  · intro hx
    exact ⟨⟨hx.1, x.isLive_of_le hx.2 h.clock⟩, hx.2⟩
  · intro hx
    exact ⟨hx.1.1, hx.2⟩

theorem Preserves.intact (h : w.Preserves s s.IsTokenKey U) : w.Intact s U :=
  ⟨h.clock, h.faults, h.live⟩

theorem Intact.trans {V : World} (h : w.Intact s U) (h' : U.Intact s V) : w.Intact s V where
  clock := Nat.le_trans h.clock h'.clock
  faults := by
    rw [h'.faults, h.faults]
  live key hkey later hlater := by
    rw [h'.live key hkey later hlater, h.live key hkey later (Nat.le_trans h'.clock hlater)]

theorem Preserves.drawsFresh (h : w.Preserves s s.IsTokenKey U) (hfresh : w.DrawsFresh s) :
    U.DrawsFresh s := by
  intro kind uuid huuid
  rw [h.supply, h.drawn] at huuid
  exact h.live?_eq_none (s.isTokenKey_tokenKey kind uuid) (hfresh kind uuid huuid) (Nat.le_refl _)

/-- Minting draws two identifiers and does nothing else. -/
theorem ends_mint (w : World) (user : Int64) :
    Ends (s.mint user) w fun w' pair => w' = { w with drawn := w.drawn + 2 } ∧
      pair.accessUuid = w.supply w.drawn ∧ pair.refreshUuid = w.supply (w.drawn + 1) := by
  simp only [Issuer.mint, Program.bind_eq]
  rw [ends_uuid, ends_uuid, ends_clock, ends_orHalt]
  intro pair hpair
  obtain ⟨-, haccess, hrefresh⟩ := Subject.mk.inj (Issuer.pairAt?_subject hpair)
  exact ⟨rfl, haccess.symm, hrefresh.symm⟩

/-- A fresh pair is minted, and what goes on from there leaves the ledger as it was before. -/
theorem ends_mint_bind {α : Type} {f : Pair → Task α} {Q : α → Prop} (hfresh : w.DrawsFresh s)
    (h : ∀ U pair, U.store = w.store → U.clock = w.clock →
      (∀ key ∈ s.pairKeys pair.accessUuid pair.refreshUuid, U.store.live? U.clock key = none) →
      Ends (f pair) U fun w' result => Q result → U.Preserves s s.IsTokenKey w') :
    Ends ((s.mint user).bind f) w fun w' result => Q result → w.Intact s w' := by
  rw [ends_bind]
  refine (ends_mint w user).imp fun U pair hpair => ?_
  obtain ⟨rfl, haccess, hrefresh⟩ := hpair
  refine (h { w with drawn := w.drawn + 2 } pair rfl rfl fun key hkey => ?_).imp
    fun w' result hw' => ?_
  · obtain ⟨kind, uuid, huuid, rfl⟩ := Issuer.exists_of_mem_pairKeys hkey
    rw [haccess, hrefresh] at huuid
    exact hfresh kind uuid huuid
  · intro hresult
    obtain ⟨hclock, -, -, hfaults, hlive, -⟩ := hw' hresult
    exact ⟨hclock, hfaults, hlive⟩

theorem ends_openFor (hs : s.PrefixesApart) (hdeletes : w.store.deletesFail = false)
    (hfresh : w.DrawsFresh s) :
    Ends (s.openFor user) w fun w' result => (∃ e, result = .error e) → w.Intact s w' := by
  simp only [Issuer.openFor, Program.bind_eq]
  refine ends_mint_bind hfresh fun U pair hstore _ hpair => ?_
  rw [← hstore] at hdeletes
  rw [ends_bind]
  refine (ends_registerFresh hdeletes hpair).imp fun V registered hV => ?_
  cases registered with
  | error e => exact ends_done.mpr fun _ => hV.2 e rfl
  | ok =>
    simp only [ends_bind]
    refine (hV.1.ends (only_noteLogin_preserves hs fun _ hkey => hkey.1)).imp fun V₁ _ hV₁ => ?_
    refine (ends_profileFor hdeletes hpair hs hV₁).imp fun V₂ profile hV₂ => ?_
    cases profile with
    | error e => exact ends_done.mpr fun _ => hV₂.2 e rfl
    | ok snapshot => simp

theorem ends_login (hs : s.PrefixesApart) (hdeletes : w.store.deletesFail = false)
    (hfresh : w.DrawsFresh s) (email password : String) :
    Ends (s.login email password) w fun w' result => (∃ e, result = .error e) → w.Intact s w' := by
  have hstart : w.Preserves s s.IsTokenKey w := .refl w
  unfold Issuer.login
  split
  · exact ends_done.mpr fun _ => hstart.intact
  · rw [Program.bind_eq, ends_bind]
    refine (hstart.ends (only_askUsers trivial)).imp fun U found hU => ?_
    match found with
    | .error .notFound =>
      have hdecoy : (Task.decoy s.decoyCost).Only (Effect.Call.Preserves s s.IsTokenKey) :=
        ⟨trivial, fun _ => trivial⟩
      rw [Program.bind_eq, ends_bind]
      exact (hU.ends hdecoy).imp fun V _ hV => ends_done.mpr fun _ => hV.intact
    | .error .timeout => exact ends_done.mpr fun _ => hU.intact
    | .error (.database text) => exact ends_done.mpr fun _ => hU.intact
    | .ok row =>
      simp only [Program.bind_eq, ends_bind]
      refine (hU.ends (only_checkPassword trivial)).imp fun V checked hV => ?_
      cases checked with
      | error e => exact ends_done.mpr fun _ => hV.intact
      | ok =>
        refine (ends_openFor hs (hV.deletesFail.trans hdeletes) (hV.drawsFresh hfresh)).imp
          fun w' result hw' => ?_
        exact fun herror => hV.intact.trans (hw' herror)

theorem ends_rotate (hs : s.PrefixesApart) (hdeletes : w.store.deletesFail = false)
    (hfresh : w.DrawsFresh s) :
    Ends (s.rotate claims) w fun w' result =>
      (∃ e, result = .error e ∧ e.IsUndone) → w.Intact s w' := by
  have hstart : w.Preserves s s.IsTokenKey w := .refl w
  simp only [Issuer.rotate, Program.bind_eq, ends_bind]
  refine (hstart.ends (only_askUsers trivial)).imp fun U found hU => ?_
  cases found with
  | error e =>
    cases e with
    | notFound =>
      -- Whatever the clean-up does, its error is one of those that are left out.
      rw [ends_bind]
      intro V _ _
      refine ends_done.mpr fun herror => ?_
      obtain ⟨e, he, hundone⟩ := herror
      cases he
      exact absurd rfl hundone.known
    | timeout => exact ends_done.mpr fun _ => hU.intact
    | database text => exact ends_done.mpr fun _ => hU.intact
  | ok row =>
    refine (ends_mint_bind (Q := fun result => ∃ e, result = .error e ∧ e.IsUndone)
      (hU.drawsFresh hfresh) fun V pair hstore _ hpair => ?_).imp fun w' result hw' => ?_
    · have hV : V.store.deletesFail = false := by
        rw [hstore]
        exact hU.deletesFail.trans hdeletes
      rw [ends_bind]
      refine (ends_registerFresh hV hpair).imp fun V₁ registered hV₁ => ?_
      cases registered with
      | error e => exact ends_done.mpr fun _ => hV₁.2 e rfl
      | ok =>
        rw [ends_bind]
        refine (ends_profileFor hV hpair hs hV₁.1).imp fun V₂ profile hV₂ => ?_
        cases profile with
        | error e => exact ends_done.mpr fun _ => hV₂.2 e rfl
        | ok snapshot =>
          refine (ends_retire hV hpair hV₂.1).imp fun w' result hw' => ?_
          intro herror
          obtain ⟨e, he, hundone⟩ := herror
          exact hw' e he hundone.bare
    · exact fun herror => hU.intact.trans (hw' herror)

theorem ends_refresh (hs : s.PrefixesApart) (hdeletes : w.store.deletesFail = false)
    (hfresh : w.DrawsFresh s) (token : String) :
    Ends (s.refresh token) w fun w' result =>
      (∃ e, result = .error e ∧ e.IsUndone) → w.Intact s w' := by
  have hstart : w.Preserves s s.IsTokenKey w := .refl w
  unfold Issuer.refresh
  split
  · exact ends_done.mpr fun _ => hstart.intact
  · rw [Program.bind_eq, ends_bind]
    refine (hstart.ends (only_checkToken trivial fun _ => ⟨rfl, trivial⟩)).imp
      fun U checked hU => ?_
    match checked with
    | .error (.rejected reason) => exact ends_done.mpr fun _ => hU.intact
    | .error (.cache cause) => exact ends_done.mpr fun _ => hU.intact
    | .ok claims =>
      refine (ends_rotate hs (hU.deletesFail.trans hdeletes) (hU.drawsFresh hfresh)).imp
        fun w' result hw' => ?_
      exact fun herror => hU.intact.trans (hw' herror)

/-- Where the ledger is intact, a token is checked as it would have been otherwise. -/
theorem Intact.checkToken (h : w.Intact s U) (token : String) (kind : Kind) :
    (U.perform s (.checkToken token kind)).2 =
      ((w.advanceTo U.clock).perform s (.checkToken token kind)).2 := by
  have hclock : U.clock = (w.advanceTo U.clock).clock := (Nat.max_eq_right h.clock).symm
  have havailable : U.store.isAvailable = w.store.isAvailable := by
    rw [h.faults]
  have hlatency : U.store.latency = w.store.latency := by
    rw [h.faults]
  obtain ⟨V, result, hrun, hverdict⟩ := (w.advanceTo U.clock).run_checkToken s token kind
  obtain ⟨V', result', hrun', hverdict'⟩ := U.run_checkToken s token kind
  have hsame : U.Verdict s token kind result := by
    refine hverdict.congr hclock havailable hlatency fun key hkey => ?_
    have hlater : U.clock ≤ U.clock + U.store.latency := Nat.le_add_right _ _
    simp only [found?, Store.State.peek?, ← hclock]
    rw [h.live key hkey _ hlater, hlatency]
    rfl
  rw [perform_checkToken.mpr hrun, perform_checkToken.mpr hrun', hverdict'.unique hsame]

/-- A login or a refresh that fails leaves the ledger as it was, unless its deadline has passed, it
hands out a pair all the same, or the user of its token is unknown. What is registered is what was
and has not expired since; of the new pair nothing is; and each token, the one presented to a
refresh among them, is checked as if nothing had been tried. -/
theorem failure_keeps_ledger {op : Operation} {result : op.Result} {e : SessionError} {w' : World}
    (hs : s.PrefixesApart) (hdeletes : w.store.deletesFail = false) (hfresh : w.DrawsFresh s)
    (h : w.perform s op = (w', some result)) (hfails : Fails op result e) (he : e.IsUndone) :
    (∀ key x, s.IsTokenKey key → (w'.store.live? w'.clock key = some x ↔
      w.store.live? w.clock key = some x ∧ x.isLive w'.clock = true)) ∧
    (∀ kind, ∀ uuid ∈ [w.supply w.drawn, w.supply (w.drawn + 1)],
      w'.store.live? w'.clock (s.tokenKey kind uuid) = none) ∧
    ∀ token kind, (w'.perform s (.checkToken token kind)).2 =
      ((w.advanceTo w'.clock).perform s (.checkToken token kind)).2 := by
  have hintact : w.Intact s w' := by
    rcases perform_cases h with ⟨limit, hdeadline⟩ | hrun
    · -- The result for the deadline is the one error for it.
      cases hfails with
      | login =>
        cases hdeadline
        exact absurd rfl he.inTime
      | refresh =>
        cases hdeadline
        exact absurd rfl he.inTime
    · cases hfails with
      | login => exact ends_login hs hdeletes hfresh _ _ _ _ hrun ⟨e, rfl⟩
      | refresh => exact ends_refresh hs hdeletes hfresh _ _ _ hrun ⟨e, rfl, he⟩
  refine ⟨fun key x hkey => hintact.live?_eq_some_iff hkey, fun kind uuid huuid => ?_,
    hintact.checkToken⟩
  rw [hintact.live _ (s.isTokenKey_tokenKey kind uuid) _ (Nat.le_refl _)]
  exact Store.State.live?_eq_none_of_le (hfresh kind uuid huuid) hintact.clock

end World

/-! ## A login whose second write is refused -/

/-- The error that a result is. -/
def errorOf? {ε α : Type} : Except ε α → Option ε
  | .ok _ => none
  | .error e => some e

theorem eq_error_of_errorOf? {ε α : Type} {o : Option (Except ε α)} {e : ε}
    (h : o.bind errorOf? = some e) : o = some (.error e) := by
  match o with
  | none => cases h
  | some (.ok a) => cases h
  | some (.error e') =>
    cases h
    rfl

/-- Surroundings with one user and a store that refuses to register refresh identifiers. An access
identifier is registered there. -/
def refusingWorld : World :=
  { sampleWorld 7 with
    store := { entries := [("access:a", ⟨"7", some 900000⟩)], failingPrefix := some "refresh:" } }

/-- The surroundings after the login. -/
abbrev afterRefusal : World :=
  (refusingWorld.perform sampleIssuer sampleLogin).1

/-- Why the login fails. -/
abbrev refusal : SessionError :=
  .registerFailed (.unavailable ("write rejected for refresh:" ++ Uuid.numbered 2))

theorem perform_refused :
    refusingWorld.perform sampleIssuer sampleLogin = (afterRefusal, some (.error refusal)) :=
  Prod.ext rfl (eq_error_of_errorOf? (by decide +kernel))

/-- The login has registered its access identifier when its refresh identifier is refused. It fails,
and what is registered is what was. -/
theorem World.failure_keeps_ledger_of_login :
    refusal.IsUndone ∧
      afterRefusal.store.live? afterRefusal.clock "access:a" = some ⟨"7", some 900000⟩ ∧
      ∀ kind, afterRefusal.store.live? afterRefusal.clock
        (sampleIssuer.tokenKey kind (Uuid.numbered 1)) = none := by
  have hundone : refusal.IsUndone := by
    constructor <;> simp [SessionError.IsBare]
  have hfresh : refusingWorld.DrawsFresh sampleIssuer := by
    intro kind
    cases kind <;> decide +kernel
  obtain ⟨hlive, hgone, -⟩ := World.failure_keeps_ledger sampleIssuer_prefixesApart rfl hfresh
    perform_refused .login hundone
  refine ⟨hundone, ?_, fun kind => ?_⟩
  · exact (hlive _ _ ⟨.access, by decide⟩).mpr ⟨by decide, by decide +kernel⟩
  · exact hgone kind _ (List.mem_cons_self ..)

end SessionLedger
