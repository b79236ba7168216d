import SessionLedger.Proofs.Ledger.Login
import SessionLedger.Proofs.Ledger.ReadThrough
import SessionLedger.Proofs.Ledger.Rotation
import SessionLedger.Proofs.Token.Genuine

/-! Users whose row is gone. A refresh that finds no row removes the pair it was called with and the
cached profile of the user, and mints nothing. Other sessions of the user are left in the ledger,
but their tokens are of no use: a profile is cached only from a row, so as long as there is none
it stays absent, and without a profile and a row neither a verification nor a refresh succeeds. -/
namespace SessionLedger
open Session Token User Text

/-- Whenever the token can be read as one of a kind, it is about a user. -/
def Session.Issuer.Names (s : Issuer) (token : String) (kind : Kind) (user : Int64) : Prop :=
  ∀ now claims, s.signer.claimsOf now token kind = .ok claims → claims.user = user

/-- What a token is about it is about at every time. -/
theorem Session.Issuer.names_of_claimsOf {s : Issuer} {now : Nat} {token : String} {kind : Kind}
    {claims : Claims} (h : s.signer.claimsOf now token kind = .ok claims) :
    s.Names token kind claims.user :=
  fun _ _ h' => congrArg Claims.user (Signer.claimsOf_unique h' h)

/-- The row of a user is gone, and no profile of theirs is cached. -/
structure World.CutOff (s : Issuer) (w : World) (user : Int64) : Prop where
  row : w.users.find? user = none
  profile : w.store.entries.find? (s.profileKey user) = none

/-- The tokens of a user are of no use. -/
structure Traffic.ShutsOut (s : Issuer) (log : List Event) (T : Traffic) (user : Int64) : Prop where
  absent : T.held? (s.profileKey user) = none
  /-- The next operation is alone. -/
  verify : ∀ token, s.Names token .access user →
    ∃ w e, T.world.perform s (.verify token) = (w, some (.error e))
  refresh : ∀ token, s.Names token .refresh user →
    ∃ w e, T.world.perform s (.refresh token) = (w, some (.error e))
  /-- Operations of the run may have been in flight together. -/
  verified : ∀ token result, Ended log (.verify token) result → s.Names token .access user →
    ∃ e, result = .error e
  refreshed : ∀ token result, Ended log (.refresh token) result → s.Names token .refresh user →
    ∃ e, result = .error e

/-! ## Runs -/

namespace Traffic
variable {s : Issuer} {w : World} {T T₁ : Traffic} {log log₁ log₂ : List Event} {i : Nat}
variable {user : Int64} {token : String}

/-- Operations that run alone, one after another, make no row. -/
theorem StepsWithout.perform {op : Operation} {result : op.Result}
    (h : StepsWithout s user T log T₁) (hop : op.IsSession)
    (hperform : T₁.world.perform s op = (w, some result)) :
    ∃ part, Ended part op result ∧ StepsWithout s user T (log ++ part)
      { T₁.put T₁.count none with world := w, count := T₁.count + 1 } := by
  have hpassage : ∀ deadline,
      .altered ∉ World.passage T₁.count deadline (op.task s) T₁.world := by
    intro deadline hmem
    rcases World.mem_passage hmem with ⟨millis, heq⟩ | ⟨c, reply, heq⟩ <;> cases heq
  rcases World.perform_eq_some_iff.mp hperform with hrun | ⟨limit, hdeadline, hrun⟩
  · exact ⟨_, ⟨T₁.count, .inl (by simp)⟩, h.append (.finishes hop hrun) (by simp [hpassage])⟩
  · exact ⟨_, ⟨T₁.count, .inr (by simp)⟩,
      h.append (Steps.lapses hop hdeadline hrun).1 (by simp [hpassage])⟩

section
variable (hs : s.PrefixesApart) (hrow : w.users.find? user = none)
include hs hrow

/-- Without a row no profile is cached. -/
theorem StepsWithout.not_writes (h : RunWithout s user w log T) :
    ∀ e ∈ log, ∀ value, ¬ e.Writes (s.profileKey user) value := by
  intro e he value hwrites
  obtain ⟨log₁, log₂, rfl⟩ := List.append_of_mem he
  obtain ⟨i, user', p, front, read, mid, -, rfl, -, hread, -, hkey, -⟩ :=
    h.steps.projects_of_writes hs (Issuer.prefix_profileKey s user) hwrites
  obtain rfl := Issuer.profileKey_inj.mp hkey
  exact (h.row?_eq_none hrow).2 read (by simp) p hread

variable (hprofile : w.store.entries.find? (s.profileKey user) = none)
include hprofile

theorem StepsWithout.cutOff (h : RunWithout s user w log T) : T.world.CutOff s user where
  row := (h.row?_eq_none hrow).1
  profile := h.steps.held?_eq_none hprofile (h.not_writes hs hrow)

/-- So none is looked up either, neither in the cache nor in the rows. -/
theorem StepsWithout.not_looked (h : RunWithout s user w (log₁ ++ log₂) T) {snapshot : Snapshot} :
    ¬ Looked s (diary log₁ i) user snapshot := by
  intro hlooked
  cases hlooked with
  | rebuilt hmem =>
    exact (h.row?_eq_none hrow).2 _ (List.mem_append_left _ (mem_diary.mp hmem)) _ ⟨i, _, rfl⟩
  | cached hstored hread =>
    obtain ⟨limit, hmem⟩ := stored_diary.mp hstored
    obtain ⟨A, B, rfl⟩ := List.append_of_mem hmem
    have hsteps := h.steps
    rw [List.append_assoc, List.cons_append] at hsteps
    obtain ⟨U, V, hU, he, -⟩ := hsteps.at
    have habsent : U.held? (s.profileKey user) = none :=
      hU.held?_eq_none hprofile fun e hmem => h.not_writes hs hrow e (by simp [hmem])
    have hget := he.get_ok
    rw [live?_eq_none_of_held? habsent] at hget
    cases hget

theorem StepsWithout.verified (h : RunWithout s user w log T)
    {result : Except SessionError Verified} (hended : Ended log (.verify token) result)
    (hnames : s.Names token .access user) : ∃ e, result = .error e := by
  obtain ⟨i, hmem | hmem⟩ := hended
  · obtain ⟨log₁, log₂, rfl⟩ := List.append_of_mem hmem
    cases result with
    | error e => exact ⟨e, rfl⟩
    | ok verified =>
      obtain ⟨-, claims, haccepted, hidentity⟩ := h.steps.tells
      obtain ⟨now, -, hread⟩ := haccepted.reads
      have hlooked : Looked s (diary log₁ i) verified.identity.user verified.user :=
        h.steps.shows.2
      rw [hidentity, hnames now claims hread] at hlooked
      exact absurd hlooked (h.not_looked hs hrow hprofile)
  · obtain ⟨limit, hdeadline⟩ := h.steps.deadline_of_expired hmem
    cases hdeadline
    exact ⟨_, rfl⟩

theorem StepsWithout.refreshed (h : RunWithout s user w log T)
    {result : Except SessionError Grant} (hended : Ended log (.refresh token) result)
    (hnames : s.Names token .refresh user) : ∃ e, result = .error e := by
  obtain ⟨i, hmem | hmem⟩ := hended
  · obtain ⟨log₁, log₂, rfl⟩ := List.append_of_mem hmem
    cases result with
    | error e => exact ⟨e, rfl⟩
    | ok grant =>
      -- The pair that is handed out is for the user of the token, and so is its profile.
      obtain ⟨-, pair, snapshot, claims, d, n, rfl, hrotates, -⟩ := h.steps.tells
      obtain ⟨now, -, hread⟩ := hrotates.accepted.reads
      obtain ⟨instant, -, hminted⟩ := hrotates.mints.minted
      obtain ⟨instant', subject, pair', snapshot', hpair, hgrant, hlooked⟩ :=
        h.steps.shows.2.hands .refresh
      have huser := Issuer.pairAt?_refreshToken_inj hminted hpair
        (congrArg Grant.refreshToken hgrant)
      rw [← huser.1, hrotates.mints.user_eq hread, hnames now claims hread] at hlooked
      exact absurd hlooked (h.not_looked hs hrow hprofile)
  · obtain ⟨limit, hdeadline⟩ := h.steps.deadline_of_expired hmem
    cases hdeadline
    exact ⟨_, rfl⟩

end

end Traffic

/-! ## Operations that run alone -/

namespace World
variable {s : Issuer} {w w' : World} {user : Int64} {token : String} {claims : Claims} {α : Type}

/-- No program makes a row. -/
theorem find?_users_of_run {deadline : Option Nat} {p : Task α} {ending : Ending α}
    (h : run deadline p w = (w', ending)) (hnone : w.users.find? user = none) :
    w'.users.find? user = none := by
  induction p generalizing w with
  | done a =>
    cases h
    exact hnone
  | halt =>
    cases h
    exact hnone
  | call c next ih =>
    rw [run] at h
    split at h
    next U reply hsettle =>
      obtain ⟨millis, hanswers⟩ := answers_of_settle hsettle
      exact ih reply h (hanswers.find?_users_eq_none hnone)
    next U hsettle =>
      obtain ⟨-, millis, rfl⟩ := deadline_of_settle hsettle
      cases h
      exact hnone

/-- A call about a user without a row fails, in time or at its limit. -/
theorem exists_run_askUsers_error (s : Issuer) {c : Directory.Call}
    (hnone : w.users.find? user = none) (hc : c.id? = some user) :
    ∃ U e, run none (s.askUsers c) w = (U, .finished (.error e)) := by
  have hsettle := w.settle_users c s.usersLimit
  split at hsettle
  · obtain ⟨e, he⟩ := Directory.exists_answer_eq_error hnone hc
    rw [he] at hsettle
    exact ⟨_, e, run_call hsettle⟩
  · exact ⟨_, _, run_call hsettle⟩

theorem exists_run_forgetUser (s : Issuer) (w : World) (claims : Claims) :
    ∃ U, run none (s.forgetUser claims) w = (U, .finished ()) := by
  have hdrop : Surely (fun _ => True) (s.dropProfile claims.user) :=
    (surely_ask (by simp) _).bind fun dropped _ => by cases dropped <;> trivial
  have hsurely : Surely (fun _ => True) (s.forgetUser claims) :=
    (surely_ask (by simp) _).bind fun _ _ => hdrop.bind fun _ _ => trivial
  rcases run_of_surely hsurely none w with hexpired | ⟨a, ha, -⟩
  · exact absurd hexpired (run_ne_expired _ w)
  · exact ⟨_, Prod.ext rfl ha⟩

/-- A rotation for a user without a row comes to an error. -/
theorem exists_run_rotate_error (s : Issuer) (hnone : w.users.find? claims.user = none) :
    ∃ U e, run none (s.rotate claims) w = (U, .finished (.error e)) := by
  obtain ⟨U, e, hasked⟩ := exists_run_askUsers_error s (c := .findById claims.user) hnone rfl
  rw [Issuer.rotate, Program.bind_eq, run_bind hasked]
  cases e with
  | notFound =>
    obtain ⟨V, hforgotten⟩ := U.exists_run_forgetUser s claims
    simp only [Program.bind_eq]
    rw [run_bind hforgotten]
    exact ⟨V, _, rfl⟩
  | timeout => exact ⟨U, _, rfl⟩
  | database text => exact ⟨U, _, rfl⟩

/-- The lookup of the profile of a user who is cut off comes to an error. -/
theorem exists_run_profile_error (hrow : w.users.find? user = none)
    (habsent : w.store.live? (w.clock + w.store.latency) (s.profileKey user) = none) :
    ∃ U e, run none (s.profile user) w = (U, .finished (.error e)) := by
  obtain ⟨U, result, hrun⟩ := exists_run_profile s w user
  have hreads := readsThrough_of_run hrun
  have hcached : w.cached? s user = none := by
    rw [cached?, found?, Store.State.peek?, habsent]
    rfl
  have hprojected : ∃ e, w.projected s user = .error e := by
    rw [projected]
    split
    · exact Directory.exists_answer_eq_error hrow rfl
    · exact ⟨_, rfl⟩
  obtain ⟨e, he⟩ := hprojected
  have herror : ∃ e, result = .error e := by
    by_cases hlate : s.cacheLimit < w.store.latency
    · exact ⟨_, (hreads.late hlate).1⟩
    · rw [Nat.not_lt] at hlate
      by_cases hoffline : w.store.isAvailable = false
      · exact ⟨_, (hreads.offline hlate hoffline).1⟩
      · exact ⟨_, (hreads.failed ⟨by simpa using hoffline, hlate⟩ hcached e he).1⟩
  obtain ⟨e', rfl⟩ := herror
  exact ⟨U, e', hrun⟩

/-- What a program comes to is what its operation results in, or that is the result for its
deadline. -/
theorem exists_perform_of_run (op : Operation) (good : op.Result → Prop) {result : op.Result}
    (h : run none (op.task s) w = (w', .finished result)) (hgood : good result)
    (hlate : ∀ limit late, op.deadline s = some (limit, late) → good late) :
    ∃ U result, w.perform s op = (U, some result) ∧ good result := by
  rcases perform_of_run op h with hperform | ⟨limit, late, hdeadline, hperform⟩
  · exact ⟨w', result, hperform, hgood⟩
  · exact ⟨_, late, Prod.ext rfl hperform, hlate limit late hdeadline⟩

/-- A verification of a token of a user who is cut off results in an error. -/
theorem CutOff.perform_verify (h : w.CutOff s user) (hnames : s.Names token .access user) :
    ∃ U e, w.perform s (.verify token) = (U, some (.error e)) := by
  have hrun : ∃ U e, run none (s.verify token) w = (U, .finished (.error e)) := by
    obtain ⟨U, checked, hcheck, hverdict⟩ := w.run_checkToken s token .access
    cases checked with
    | error e =>
      obtain ⟨V, e', hrun, -⟩ := run_verify_of_error hcheck
      exact ⟨V, e', hrun⟩
    | ok claims =>
      obtain rfl := hnames w.clock claims (hverdict.accepted_iff.mp rfl).1
      unfold Issuer.verify
      by_cases hblank : isAllBlank token = true
      · rw [if_pos hblank]
        exact ⟨w, _, rfl⟩
      · -- The check has left the row and the profile absent.
        have hpreserves := preserves_checkToken hcheck
        have habsent : U.store.live? (U.clock + U.store.latency) (s.profileKey claims.user) =
            none := by
          rw [hpreserves.live _ trivial _ (Nat.le_add_right _ _), Store.State.live?, h.profile,
            Option.filter_none]
        obtain ⟨V, e, hprofile⟩ :=
          exists_run_profile_error (find?_users_of_run hcheck h.row) habsent
        rw [if_neg hblank, Program.bind_eq, run_bind hcheck]
        simp only [Program.bind_eq]
        rw [run_bind hprofile]
        exact ⟨V, _, rfl⟩
  obtain ⟨U, e, hrun⟩ := hrun
  obtain ⟨V, result, hperform, e', rfl⟩ := exists_perform_of_run (.verify token)
    (fun result => ∃ e, result = .error e) hrun ⟨e, rfl⟩ (by
      rintro limit late ⟨⟩
      exact ⟨_, rfl⟩)
  exact ⟨V, e', hperform⟩

/-- So does a refresh. -/
theorem CutOff.perform_refresh (h : w.CutOff s user) (hnames : s.Names token .refresh user) :
    ∃ U e, w.perform s (.refresh token) = (U, some (.error e)) := by
  have hrun : ∃ U e, run none (s.refresh token) w = (U, .finished (.error e)) := by
    obtain ⟨U, checked, hcheck, hverdict⟩ := w.run_checkToken s token .refresh
    cases checked with
    | error e =>
      obtain ⟨V, e', hrun, -⟩ := run_refresh_of_error hcheck
      exact ⟨V, e', hrun⟩
    | ok claims =>
      obtain rfl := hnames w.clock claims (hverdict.accepted_iff.mp rfl).1
      unfold Issuer.refresh
      by_cases hblank : isAllBlank token = true
      · rw [if_pos hblank]
        exact ⟨w, _, rfl⟩
      · rw [if_neg hblank, Program.bind_eq, run_bind hcheck]
        exact exists_run_rotate_error s (find?_users_of_run hcheck h.row)
  obtain ⟨U, e, hrun⟩ := hrun
  obtain ⟨V, result, hperform, e', rfl⟩ := exists_perform_of_run (.refresh token)
    (fun result => ∃ e, result = .error e) hrun ⟨e, rfl⟩ (by
      rintro limit late ⟨⟩
      exact ⟨_, rfl⟩)
  exact ⟨V, e', hperform⟩

end World

/-- From surroundings in which a user is cut off they stay so. -/
theorem World.CutOff.shutsOut {s : Issuer} {w : World} {log : List Event} {T : Traffic}
    {user : Int64} (hs : s.PrefixesApart) (h : w.CutOff s user)
    (hrun : Traffic.RunWithout s user w log T) : T.ShutsOut s log user where
  absent := (hrun.cutOff hs h.row h.profile).profile
  verify _ := (hrun.cutOff hs h.row h.profile).perform_verify
  refresh _ := (hrun.cutOff hs h.row h.profile).perform_refresh
  verified _ _ := hrun.verified hs h.row h.profile
  refreshed _ _ := hrun.refreshed hs h.row h.profile

/-! ## The refresh that finds no row -/

namespace World
variable {s : Issuer} {w w' : World} {token : String} {claims : Claims}

/-- The surroundings after a user has been cleaned up after. -/
def afterForget (s : Issuer) (w : World) (claims : Claims) : World :=
  let entries := (Store.State.deleteAll (w.clock + w.store.latency)
    (s.pairKeys claims.accessUuid claims.refreshUuid) w.store.entries).1
  (w.wrote entries).wrote (entries.erase (s.profileKey claims.user))

/-- The surroundings after a refresh has been refused because there is no row. -/
def afterUnknown (s : Issuer) (w : World) (claims : Claims) : World :=
  ((w.wrote w.store.entries).consulted (.findById claims.user)).afterForget s claims

theorem run_forgetUser (hw : w.IsSound s) (claims : Claims) :
    run none (s.forgetUser claims) w = (w.afterForget s claims, .finished ()) := by
  have hrevoke : run none (s.revoke claims.accessUuid claims.refreshUuid) w = _ :=
    run_ask hw.storeInLimit (hw.store.answer_delete _ _)
  rw [Issuer.forgetUser, Program.bind_eq, run_bind hrevoke]
  exact run_bind (run_dropProfile (hw.wrote _) claims.user)

/-- A refresh with a token that is registered to a user without a row cleans up after them. -/
theorem run_refresh_of_no_row (hw : w.IsSound s) (hblank : isAllBlank token = false)
    (hread : s.signer.claimsOf w.clock token .refresh = .ok claims) {e : Store.Entry}
    (he : w.store.live? (w.clock + w.store.latency)
      (s.tokenKey .refresh (claims.uuid .refresh)) = some e)
    (howner : Decimal.signed64? e.value = some claims.user)
    (hrow : w.users.find? claims.user = none) :
    run none (s.refresh token) w =
      (w.afterUnknown s claims, .finished (.error (.refreshRejected .unknownUser))) := by
  have hsound := (hw.wrote w.store.entries).consulted (.findById claims.user)
  have hasked := run_askUsers (s := s) (w := w.wrote w.store.entries) (.findById claims.user)
    hw.usersInLimit
  rw [users_wrote, Directory.answer_findById_of_find?_eq_none (hw.users _) hrow] at hasked
  simp only [Issuer.refresh, hblank, Bool.false_eq_true, if_false, Program.bind_eq]
  rw [run_bind (run_checkToken_of_live hw hread he howner)]
  simp only [Issuer.rotate, Program.bind_eq]
  rw [run_bind hasked]
  exact run_bind (run_forgetUser hsound claims)

/-- A rotation compares no password. -/
theorem only_rotate_of_comparesNothing (s : Issuer) (claims : Claims) :
    (s.rotate claims).Only Effect.Call.ComparesNothing := by
  refine (only_askUsers trivial).bind fun found => ?_
  match found with
  | .error .notFound => exact (only_forgetUser trivial trivial).bind fun _ => trivial
  | .error .timeout => trivial
  | .error (.database text) => trivial
  | .ok row =>
    refine (only_mint trivial trivial).bind fun pair => ?_
    refine (only_registerFresh trivial (fun _ _ _ _ => trivial) trivial).bind fun registered => ?_
    cases registered with
    | error e => trivial
    | ok a =>
      refine (only_profileFor trivial trivial (fun _ => trivial) trivial).bind fun profile => ?_
      cases profile with
      | error e => trivial
      | ok snapshot =>
        refine (only_revoke trivial).bind fun count => ?_
        match count with
        | .ok 0 => exact (only_discard trivial).bind fun _ => trivial
        | .ok (n + 1) => trivial
        | .error e => trivial

theorem only_refresh_of_comparesNothing (s : Issuer) (token : String) :
    (s.refresh token).Only Effect.Call.ComparesNothing := by
  unfold Issuer.refresh
  split
  · trivial
  · refine (only_checkToken trivial fun _ => trivial).bind fun checked => ?_
    match checked with
    | .error (.rejected reason) => trivial
    | .error (.cache e) => trivial
    | .ok claims => exact only_rotate_of_comparesNothing s claims

theorem clock_afterUnknown (s : Issuer) (w : World) (claims : Claims) :
    (w.afterUnknown s claims).clock = w.clock + w.users.latency + 3 * w.store.latency := by
  simp only [afterUnknown, afterForget, clock_wrote, latency_wrote, clock_consulted,
    store_consulted, users_wrote]
  omega

/-- If its deadline does not come first, the refresh is refused because there is no such user. -/
theorem perform_refresh_of_no_row (hw : w.IsSound s)
    (hread : s.signer.claimsOf w.clock token .refresh = .ok claims) {e : Store.Entry}
    (he : w.store.live? (w.clock + w.store.latency)
      (s.tokenKey .refresh (claims.uuid .refresh)) = some e)
    (howner : Decimal.signed64? e.value = some claims.user)
    (hrow : w.users.find? claims.user = none)
    (hends : w.users.latency + 3 * w.store.latency ≤ s.requestLimit) :
    w.perform s (.refresh token) =
      (w.afterUnknown s claims, some (.error (.refreshRejected .unknownUser))) := by
  have hrun := run_refresh_of_no_row hw (Signer.isAllBlank_of_claimsOf hread) hread he howner hrow
  refine perform_of_finished rfl (run_of_clock_le (only_refresh_of_comparesNothing s token) hrun ?_)
  rw [clock_afterUnknown]
  omega

/-- It removes the pair of the token and the cached profile, and it draws no identifier. -/
theorem find?_afterUnknown (s : Issuer) (w : World) (claims : Claims) (key : String) :
    (w.afterUnknown s claims).store.entries.find? key =
      if key = s.profileKey claims.user ∨ key ∈ s.pairKeys claims.accessUuid claims.refreshUuid then
        none
      else w.store.entries.find? key := by
  rw [afterUnknown, afterForget]
  simp only [entries_wrote]
  rw [Store.Table.find?_erase, Store.State.find?_deleteAll]
  simp only [store_consulted, entries_wrote]
  split
  · simp_all
  · simp_all

theorem cutOff_afterUnknown (hrow : w.users.find? claims.user = none) :
    (w.afterUnknown s claims).CutOff s claims.user where
  row := Directory.find?_answer_eq_none hrow (.findById claims.user)
  profile := by rw [find?_afterUnknown, if_pos (.inl rfl)]

/-- A check has no reason to say that a user is unknown. -/
theorem Verdict.ne_unknownUser {kind : Kind} {result : Except CheckError Claims}
    (h : w.Verdict s token kind result) : result ≠ .error (.rejected .unknownUser) := by
  cases h with
  | @unreadable fault => cases fault <;> simp [Rejection.ofSigner]
  | _ => simp

/-- A refresh is refused for an unknown user only after it has cleaned up after them. -/
theorem eq_afterUnknown (hw : w.IsSound s)
    (hread : s.signer.claimsOf w.clock token .refresh = .ok claims)
    (hrow : w.users.find? claims.user = none)
    (h : w.perform s (.refresh token) = (w', some (.error (.refreshRejected .unknownUser)))) :
    w' = w.afterUnknown s claims := by
  have hrun : run none (s.refresh token) w =
      (w', .finished (.error (.refreshRejected .unknownUser))) := by
    rcases perform_cases h with ⟨limit, hdeadline⟩ | hrun
    · cases hdeadline
    · exact hrun
  have hblank : isAllBlank token = false := Signer.isAllBlank_of_claimsOf hread
  obtain ⟨U, checked, hcheck, hverdict⟩ := w.run_checkToken s token .refresh
  cases checked with
  | error e =>
    obtain ⟨V, e', hrefused, hreports⟩ := run_refresh_of_error hcheck
    cases hrun.symm.trans hrefused
    cases hreports
    exact absurd rfl hverdict.ne_unknownUser
  | ok claims' =>
    obtain ⟨hread', -, owner, hfound, howner⟩ := hverdict.accepted_iff.mp rfl
    cases hread.symm.trans hread'
    obtain ⟨e, he, rfl⟩ := Option.map_eq_some_iff.mp hfound
    cases hrun.symm.trans (run_refresh_of_no_row hw hblank hread he howner hrow)
    rfl

/-- A user whose row is gone is cut off by the first refresh that finds this out. It removes the
pair of its token and the cached profile, and draws nothing. From then on, until a row with the
identifier of the user is made, their profile stays out of the cache and none of their tokens is of
use, whatever other sessions of theirs are still registered. -/
theorem stays_cut_off (hs : s.PrefixesApart) (hw : w.IsSound s)
    (hread : s.signer.claimsOf w.clock token .refresh = .ok claims)
    (hrow : w.users.find? claims.user = none)
    (h : w.perform s (.refresh token) = (w', some (.error (.refreshRejected .unknownUser)))) :
    (∀ key ∈ s.pairKeys claims.accessUuid claims.refreshUuid,
        w'.store.entries.find? key = none) ∧
      w'.store.entries.find? (s.profileKey claims.user) = none ∧
      w'.drawn = w.drawn ∧
      ∀ log T, Traffic.RunWithout s claims.user w' log T → T.ShutsOut s log claims.user := by
  obtain rfl := eq_afterUnknown hw hread hrow h
  have hcut := cutOff_afterUnknown (s := s) hrow
  refine ⟨fun key hkey => ?_, hcut.profile, rfl, fun log T => hcut.shutsOut hs⟩
  rw [find?_afterUnknown, if_pos (.inr hkey)]

end World

/-- Surroundings in which the row of a user is gone, while two pairs are registered to them and
their profile is cached. -/
def goneWorld : World :=
  { sampleWorld 7 with
    store := { entries :=
      [("access:a", ⟨"7", some 900000⟩), ("refresh:r", ⟨"7", some 604800000⟩),
        ("access:b", ⟨"7", some 900000⟩), ("refresh:q", ⟨"7", some 604800000⟩),
        ("user:7", ⟨(Snapshot.ofProjection (hashedAccount "").projection).encode, none⟩)] }
    users := {} }

/-- What a refresh with the first pair leaves. -/
abbrev afterGone : World :=
  goneWorld.afterUnknown sampleIssuer ((samplePair 7 "a" "r").claims 0 .refresh)

/-- After a refresh with one of the pairs the other is still registered, but of no use, even if the
profile has been asked for in between. -/
theorem World.stays_cut_off_of_gone : ∃ U V result e,
    goneWorld.perform sampleIssuer (pairedRefresh 7) =
      (afterGone, some (.error (.refreshRejected .unknownUser))) ∧
    afterGone.store.peek? afterGone.clock (sampleIssuer.tokenKey .access "b") = some "7" ∧
    afterGone.perform sampleIssuer (.profile 7) = (U, some result) ∧
    U.store.entries.find? (sampleIssuer.profileKey 7) = none ∧
    U.perform sampleIssuer (.verify (samplePair 7 "b" "q").accessToken) =
      (V, some (.error e)) := by
  have hclock : goneWorld.clock = 0 := rfl
  have hread := claimsOf_samplePair 7 "a" "r" .refresh hclock (by decide) (by decide) (by decide)
  have hother := claimsOf_samplePair 7 "b" "q" .access hclock (by decide) (by decide) (by decide)
  have hnames : sampleIssuer.Names ((samplePair 7 "b" "q").token .access) .access 7 :=
    Issuer.names_of_claimsOf hother
  have hsound : goneWorld.IsSound sampleIssuer :=
    ⟨⟨rfl, rfl, rfl⟩, by decide, fun _ => rfl, by decide⟩
  have hlive : goneWorld.store.live? (goneWorld.clock + goneWorld.store.latency)
      (sampleIssuer.tokenKey .refresh "r") = some ⟨"7", some 604800000⟩ := by
    decide +kernel
  have hrefused := World.perform_refresh_of_no_row hsound hread hlive (by decide) rfl (by decide)
  obtain ⟨-, -, -, hshut⟩ :=
    World.stays_cut_off sampleIssuer_prefixesApart hsound hread rfl hrefused
  obtain ⟨U, result, hrun⟩ := World.exists_run_profile sampleIssuer afterGone 7
  have hprofile : afterGone.perform sampleIssuer (.profile 7) = (U, some result) :=
    (World.perform_of_deadline_eq_none rfl).mpr hrun
  have hidle : Traffic.RunWithout sampleIssuer 7 afterGone [] (.idle afterGone) := .refl
  have hsession : (Operation.profile 7).IsSession := trivial
  obtain ⟨part, -, hlater⟩ := hidle.perform hsession hprofile
  obtain ⟨V, e, hverify⟩ := (hshut _ _ hlater).verify _ hnames
  refine ⟨U, V, result, e, hrefused, ?_, hprofile, (hshut _ _ hlater).absent, hverify⟩
  rw [Store.State.peek?, Store.State.live?, World.find?_afterUnknown]
  decide +kernel

end SessionLedger
