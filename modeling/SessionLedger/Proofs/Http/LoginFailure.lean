import SessionLedger.Http.Server
import SessionLedger.Password.Hash
import SessionLedger.Proofs.Traffic.Alone
import SessionLedger.Proofs.World.Sound

/-! Failed logins look alike. Whether there is no user with the email, or the password does not
fit, or the stored hash is none, the response has one status and one body, and nothing has happened
but that the store of users has been asked once. How long a comparison of passwords takes is left
out: it takes no time, so that no deadline comes meanwhile. -/
namespace SessionLedger
open Http Session Text Token User

/-! ## Forms -/

theorem Email.mem_of_isAddress {email : String} (h : Email.isAddress email = true) :
    '@' ∈ email.toList := by
  rw [Email.isAddress] at h
  split at h
  · cases h
  next user domain hsplit =>
    rw [(splitLast?_eq_some_iff.mp hsplit).1]
    simp

/-- A form that is filled in well names an email and a password. -/
theorem Http.LoginForm.named_of_invalidFields {form : LoginForm} (h : form.invalidFields = []) :
    (isAllBlank form.email || form.password.isEmpty) = false := by
  have hvalid : ∀ f ∈ [LoginForm.Field.email, .password], form.isValid f = true := by
    simpa [LoginForm.invalidFields, List.filter_eq_nil_iff] using h
  have hemail : isAllBlank form.email = false := by
    rw [isAllBlank, List.all_eq_false]
    exact ⟨'@', Email.mem_of_isAddress (hvalid .email (by simp)), by decide⟩
  have hpassword : (!form.password.isEmpty) = true := hvalid .password (by simp)
  rw [hemail, Bool.false_or]
  simpa using hpassword

/-- A failure of the caller is shown as such, whatever its cause. -/
theorem Http.Failure.ofSession_of_isCallersFault {e : SessionError} (h : e.isCallersFault = true) :
    Failure.ofSession e = .invalidCredentials :=
  if_pos h

/-! ## The parts of a login -/

namespace Session.Issuer
variable {s : Issuer} {form : LoginForm}

/-- What is left of a login when the reply to its lookup has come. -/
def afterReply (s : Issuer) (password : String) :
    Option (Except DirectoryError Row) → Task (Except SessionError Grant)
  | none => .done (.error (.directory .timeout))
  | some (.error .notFound) =>
    .call (.compare (.decoy s.decoyCost)) fun _ => .done (.error .unknownEmail)
  | some (.error e) => .done (.error (.directory e))
  | some (.ok row) => (checkPassword password row.passwordHash).bind fun
    | .error e => .done (.error e)
    | .ok () => s.openFor row.id

theorem login_eq (h : form.invalidFields = []) :
    s.login form.email form.password =
      .call (.remote (.users (.findByEmail form.email)) (some s.usersLimit))
        (s.afterReply form.password) := by
  unfold login
  rw [form.named_of_invalidFields h]
  change Program.call _ _ = _
  refine congrArg (Program.call _) (funext fun reply => ?_)
  rcases reply with - | (- | - | -) | row <;> rfl

end Session.Issuer

/-! ## Plans -/

namespace World
variable {s : Issuer} {w w' : World} {form : LoginForm} {r : Request} {α β : Type}

/-- A plan in two parts goes on with the second where the first has come to a value. -/
theorem follow_bind {p : Plan α} {f : α → Plan β} {a : α} (h : follow s p w = (w', some a)) :
    follow s (p.bind f) w = follow s (f a) w' := by
  induction p generalizing w with
  | done b =>
    cases h
    rfl
  | halt => cases h
  | call op rest ih =>
    rw [follow] at h
    rw [Program.call_bind, follow]
    split at h
    next U result hperform =>
      exact ih result h
    next => cases h

theorem follow_plan {op : Operation} {result : op.Result}
    (h : w.perform s op = (w', some result)) : follow s op.plan w = (w', some result) := by
  rw [Operation.plan, Program.perform, follow, h]
  rfl

/-! ## Logins -/

/-- No user has the email, or the password has been compared with what is stored for the one who
has, and does not fit. -/
def Refuses (w : World) (email password : String) : Prop :=
  ∀ a, w.users.accounts.find? (fun a => a.user.email == email) = some a →
    ∃ verdict, w.outcome (.genuine password a.user.passwordHash) = .ok verdict ∧ verdict ≠ .fits

/-- There are three reasons to refuse a login. -/
theorem Refuses.cases {email password : String} (h : w.Refuses email password) :
    w.users.accounts.find? (fun a => a.user.email == email) = none ∨
      ∃ a, w.users.accounts.find? (fun a => a.user.email == email) = some a ∧
        (w.outcome (.genuine password a.user.passwordHash) = .ok .differs ∨
          w.outcome (.genuine password a.user.passwordHash) = .ok .unusable) := by
  cases hfound : w.users.accounts.find? (fun a => a.user.email == email) with
  | none => exact .inl rfl
  | some a =>
    obtain ⟨verdict, houtcome, hunfit⟩ := h a hfound
    refine .inr ⟨a, rfl, ?_⟩
    cases verdict with
    | fits => exact absurd rfl hunfit
    | differs => exact .inl houtcome
    | unusable => exact .inr houtcome

/-- The store of users finds rows by their email in time: within the limit of a call, and before
the deadline of a request. -/
structure FindsInTime (s : Issuer) (w : World) : Prop where
  sound : w.users.fault .findByEmail = none
  inLimit : w.users.latency ≤ s.usersLimit
  inTime : w.users.latency < s.requestLimit

/-- The surroundings after the store of users has been asked for a row by its email. -/
def afterLookup (w : World) : World :=
  { w with
    clock := w.clock + w.users.latency
    users := w.users.count .findByEmail }

theorem FindsInTime.clock_afterLookup_lt (h : w.FindsInTime s) :
    w.afterLookup.clock < w.clock + s.requestLimit :=
  Nat.add_lt_add_left h.inTime _

theorem settle_findByEmail (h : w.FindsInTime s) (email : String) :
    w.settle (some (w.clock + s.requestLimit))
        (.remote (.users (.findByEmail email)) (some s.usersLimit)) =
      (w.afterLookup, some (some (Directory.found
        ((w.users.accounts.find? fun a => a.user.email == email).map (·.user))))) := by
  have hawait : w.await (.users (.findByEmail email)) (some s.usersLimit)
      (some (w.clock + s.requestLimit)) = (w.advanceTo (w.clock + w.users.latency), .answered) :=
    await_of_le h.inLimit (Nat.le_of_lt h.inTime)
  have hclock : max w.clock (w.clock + w.users.latency) = w.clock + w.users.latency := by
    omega
  simp only [settle, hawait, answerRemote, advanceTo, afterLookup, hclock, Directory.answer,
    Directory.Call.method, Directory.count, h.sound, Directory.answerSound]
  rfl

theorem deadline_login (email password : String) :
    (Operation.login email password).deadline s =
      some (s.requestLimit, .error .deadlineExceeded) := rfl

/-- What is left of a login after its lookup makes its result. -/
theorem perform_login_of_finished (h : w.FindsInTime s) (hform : form.invalidFields = [])
    {result : Except SessionError Grant}
    (hrun : run (some (w.clock + s.requestLimit))
      (s.afterReply form.password (some (Directory.found
        ((w.users.accounts.find? fun a => a.user.email == form.email).map (·.user)))))
      w.afterLookup = (w.afterLookup, .finished result)) :
    w.perform s (.login form.email form.password) = (w.afterLookup, some result) := by
  refine perform_of_finished (deadline_login _ _) ?_
  show run _ (s.login form.email form.password) w = _
  rw [Issuer.login_eq hform, run_call (settle_findByEmail h form.email), hrun]

/-- A login with an email that no user has fails after a decoy. -/
theorem perform_login_of_unknown (h : w.FindsInTime s) (hform : form.invalidFields = [])
    (hunknown : w.users.accounts.find? (fun a => a.user.email == form.email) = none) :
    w.perform s (.login form.email form.password) =
      (w.afterLookup, some (.error .unknownEmail)) := by
  refine perform_login_of_finished h hform ?_
  rw [hunknown]
  exact run_call (settle_compare (.decoy s.decoyCost) h.clock_afterLookup_lt)

/-- A login fails with the error of the check of its password. -/
theorem perform_login_of_admission (h : w.FindsInTime s) (hform : form.invalidFields = [])
    {a : Account} (hfound : w.users.accounts.find? (fun a => a.user.email == form.email) = some a)
    {e : SessionError}
    (he : admission (w.outcome (.genuine form.password a.user.passwordHash)) = .error e) :
    w.perform s (.login form.email form.password) = (w.afterLookup, some (.error e)) := by
  refine perform_login_of_finished h hform ?_
  rw [hfound]
  show run _ ((checkPassword form.password a.user.passwordHash).bind _) _ = _
  rw [run_bind (run_checkPassword _ _ h.clock_afterLookup_lt),
    show admission (w.afterLookup.outcome (.genuine form.password a.user.passwordHash)) = .error e
      from he]
  rfl

/-- What a login that is refused results in tells whether there is such a user, but it is a failure
of the caller in either case. A stored text that is no hash is not told from a wrong password. -/
theorem perform_login_of_refuses (h : w.FindsInTime s) (hform : form.invalidFields = [])
    (hrefuses : w.Refuses form.email form.password) :
    ∃ e : SessionError, w.perform s (.login form.email form.password) =
      (w.afterLookup, some (.error e)) ∧ e.isCallersFault = true := by
  rcases hrefuses.cases with hunknown | ⟨a, hfound, hdiffers | hunusable⟩
  · exact ⟨.unknownEmail, perform_login_of_unknown h hform hunknown, rfl⟩
  · refine ⟨.wrongPassword, perform_login_of_admission h hform hfound ?_, rfl⟩
    rw [hdiffers]
    rfl
  · refine ⟨.wrongPassword, perform_login_of_admission h hform hfound ?_, rfl⟩
    rw [hunusable]
    rfl

/-- Where passwords cannot be compared, a login of a user fails through no fault of theirs, whatever
the password. -/
theorem perform_login_of_comparisonFault (h : w.FindsInTime s) (hform : form.invalidFields = [])
    {a : Account} (hfound : w.users.accounts.find? (fun a => a.user.email == form.email) = some a)
    {text : String} (hfault : w.comparisonFault = some text) :
    w.perform s (.login form.email form.password) =
      (w.afterLookup, some (.error (.internal text))) := by
  refine perform_login_of_admission h hform hfound ?_
  rw [outcome, hfault]
  rfl

/-! ## Late lookups -/

/-- The answer to a call comes within its limit, or not at all. -/
theorem await_answered {c : Remote.Call} {limit deadline : Nat} {U : World}
    (h : w.await c (some limit) (some deadline) = (U, .answered)) :
    w.latency c ≤ limit ∧ U.clock = w.clock + w.latency c := by
  by_cases hzero : w.latency c = 0
  · rw [await, if_pos hzero] at h
    cases h
    omega
  · simp only [await, if_neg hzero, arrival, notAfter, Option.map_some, Option.all_some,
      Bool.and_eq_true, decide_eq_true_eq, Prod.mk.injEq] at h
    obtain ⟨hU, hhow⟩ := h
    by_cases hintime : w.clock + w.latency c ≤ w.clock + limit ∧ w.clock + w.latency c ≤ deadline
    · rw [if_pos hintime] at hU
      refine ⟨by omega, ?_⟩
      rw [← hU]
      exact Nat.max_eq_right (Nat.le_add_right _ _)
    · rw [if_neg hintime] at hhow
      split at hhow <;> cases hhow

/-- Rows are not found in time. -/
def FindsLate (s : Issuer) (w : World) : Prop :=
  s.usersLimit < w.users.latency ∨ s.requestLimit ≤ w.users.latency

/-- Where a late lookup has a reply at all, the reply is that there is no answer, or the deadline
has come with the answer. -/
theorem settle_of_late (h : w.FindsLate s) {email : String} {U : World}
    {reply : Option (Except DirectoryError Row)}
    (hsettle : w.settle (some (w.clock + s.requestLimit))
      (.remote (.users (.findByEmail email)) (some s.usersLimit)) = (U, some reply)) :
    reply = none ∨ w.clock + s.requestLimit ≤ U.clock := by
  rw [settle] at hsettle
  split at hsettle
  next V hawait =>
    obtain ⟨hintime, hclock⟩ := await_answered hawait
    cases hsettle
    right
    have hlatency : w.latency (.users (.findByEmail email)) = w.users.latency := rfl
    have hlate : s.requestLimit ≤ w.users.latency :=
      h.resolve_left (Nat.not_lt.mpr (hlatency ▸ hintime))
    show w.clock + s.requestLimit ≤ V.clock
    omega
  next =>
    cases hsettle
    exact .inl rfl
  next => cases hsettle

/-- A login that goes on without a row, or with the deadline come, fails through no fault of the
caller: passwords are not compared any more. -/
theorem run_afterReply_of_late {deadline : Nat} {reply : Option (Except DirectoryError Row)}
    (h : reply = none ∨ deadline ≤ w.clock) (password : String) :
    run (some deadline) (s.afterReply password reply) w = (w, .expired) ∨
      ∃ e, run (some deadline) (s.afterReply password reply) w = (w, .finished (.error e)) ∧
        Failure.ofSession e = .internal "authentication unavailable" := by
  have hcompare : deadline ≤ w.clock → ∀ (c : Comparison) (next : c.Outcome → Task
      (Except SessionError Grant)),
      run (some deadline) (.call (.compare c) next) w = (w, .expired) := by
    intro hdue c next
    simp only [run, settle, isDue, Option.any_some, hdue, decide_true, if_true]
  rcases h with rfl | hdue
  · exact .inr ⟨.directory .timeout, rfl, rfl⟩
  · rcases reply with - | (- | - | text) | row
    · exact .inr ⟨.directory .timeout, rfl, rfl⟩
    · exact .inl (hcompare hdue (.decoy s.decoyCost) _)
    · exact .inr ⟨.directory .timeout, rfl, rfl⟩
    · exact .inr ⟨.directory (.database text), rfl, rfl⟩
    · exact .inl (hcompare hdue (.genuine password row.passwordHash) _)

/-- A login for which rows are not found in time fails, whoever the users are, and not through a
fault of the caller. -/
theorem perform_login_of_late (hlate : w.FindsLate s) (hform : form.invalidFields = []) :
    ∃ U e, w.perform s (.login form.email form.password) = (U, some (.error e)) ∧
      Failure.ofSession e = .internal "authentication unavailable" := by
  have hexpired : ∀ {U}, run (some (w.clock + s.requestLimit))
      (s.login form.email form.password) w = (U, .expired) →
      ∃ U e, w.perform s (.login form.email form.password) = (U, some (.error e)) ∧
        Failure.ofSession e = .internal "authentication unavailable" :=
    fun hrun => ⟨_, _, perform_of_expired (deadline_login _ _) hrun, rfl⟩
  have hlogin := Issuer.login_eq (s := s) hform
  rcases hsettle : w.settle (some (w.clock + s.requestLimit))
    (.remote (.users (.findByEmail form.email)) (some s.usersLimit)) with ⟨U, - | reply⟩
  · refine hexpired (U := U) ?_
    simp only [hlogin, run, hsettle]
  · have hrun : run (some (w.clock + s.requestLimit)) (s.login form.email form.password) w =
        run (some (w.clock + s.requestLimit)) (s.afterReply form.password reply) U := by
      rw [hlogin, run_call hsettle]
    rcases run_afterReply_of_late (s := s) (settle_of_late hlate hsettle) form.password with
      hreply | ⟨e, hreply, he⟩
    · exact hexpired (hrun.trans hreply)
    · exact ⟨U, e, perform_of_finished (deadline_login _ _) (hrun.trans hreply), he⟩

end World

/-! ## Requests -/

/-- The request is a login with a form that is filled in well. -/
structure Http.Request.IsLogin (r : Request) (form : LoginForm) : Prop where
  method : r.method = "POST"
  path : r.path = Route.login.path
  reads : r.form LoginForm.reader = .ok form
  valid : form.invalidFields = []

namespace World
variable {s s' : Issuer} {w w' : World} {r r' : Request} {form form' : LoginForm}

/-- A login by a request is refused. -/
structure RefusesLogin (s : Issuer) (w : World) (r : Request) (form : LoginForm) : Prop where
  request : r.IsLogin form
  finds : w.FindsInTime s
  refuses : w.Refuses form.email form.password

/-- Nothing has changed but the clock and the number of lookups by email, which is one more. -/
structure OnlyLooksUp (w w' : World) : Prop where
  store : w'.store = w.store
  accounts : w'.users.accounts = w.users.accounts
  supply : w'.supply = w.supply
  drawn : w'.drawn = w.drawn
  lookups : w'.users.calls .findByEmail = w.users.calls .findByEmail + 1
  others : ∀ m, m ≠ .findByEmail → w'.users.calls m = w.users.calls m

theorem onlyLooksUp_afterLookup (w : World) : w.OnlyLooksUp w.afterLookup where
  store := rfl
  accounts := rfl
  supply := rfl
  drawn := rfl
  lookups := by simp [afterLookup, Directory.count]
  others m hm := by simp [afterLookup, Directory.count, hm]

/-- A login that fails is answered with its error. -/
theorem follow_respond_of_error {U : World} {e : SessionError} (hr : r.IsLogin form)
    (h : w.perform s (.login form.email form.password) = (U, some (.error e))) (S : Server) :
    follow s (S.respond r) w = (U, some ((Failure.ofSession e).response.addHeaders
      (S.policy.headers r), [Log.started r, Log.ended r (Failure.ofSession e).status])) := by
  have hlogin : follow s (Http.login r) w = (U, some (Failure.ofSession e).response) := by
    unfold Http.login
    rw [hr.reads]
    dsimp only
    rw [if_neg (not_not_intro hr.valid), Program.bind_eq, follow_bind (follow_plan h)]
    rfl
  have hdispatch : follow s (S.dispatch r) w = (U, some (Failure.ofSession e).response) := by
    have hroute : Route.ofPath? Route.login.path = some .login := by decide
    unfold Server.dispatch
    rw [hr.path, hroute]
    dsimp only
    rw [hr.method, if_pos (by decide), Program.bind_eq]
    exact follow_bind hlogin
  unfold Server.respond
  rw [hr.method, if_neg (by decide), Program.bind_eq, follow_bind hdispatch]
  rfl

/-- The response to a login that is refused and what is logged of it: neither depends on the users.
-/
theorem RefusesLogin.follow_respond (h : w.RefusesLogin s r form) (S : Server) :
    follow s (S.respond r) w = (w.afterLookup,
      some (Failure.invalidCredentials.response.addHeaders (S.policy.headers r),
        [Log.started r, Log.ended r 401])) := by
  obtain ⟨e, hperform, he⟩ := perform_login_of_refuses h.finds h.request.valid h.refuses
  rw [follow_respond_of_error h.request hperform S, Failure.ofSession_of_isCallersFault he]
  rfl

/-- Nor does it where rows are not found in time; but then it says that the service is at fault. -/
theorem follow_respond_of_late (hr : r.IsLogin form)
    (hlate : w.FindsLate s) (S : Server) :
    ∃ U, follow s (S.respond r) w = (U,
      some ((Failure.internal "authentication unavailable").response.addHeaders
        (S.policy.headers r), [Log.started r, Log.ended r 500])) := by
  obtain ⟨U, e, hperform, he⟩ := perform_login_of_late hlate hr.valid
  refine ⟨U, ?_⟩
  rw [follow_respond_of_error hr hperform S, he]
  rfl

/-- Where passwords cannot be compared, a login of a user is answered in this way, too. -/
theorem follow_respond_of_comparisonFault (hr : r.IsLogin form) (h : w.FindsInTime s) {a : Account}
    (hfound : w.users.accounts.find? (fun a => a.user.email == form.email) = some a)
    {text : String} (hfault : w.comparisonFault = some text) (S : Server) :
    follow s (S.respond r) w = (w.afterLookup,
      some ((Failure.internal "authentication unavailable").response.addHeaders
        (S.policy.headers r), [Log.started r, Log.ended r 500])) := by
  rw [follow_respond_of_error hr
    (perform_login_of_comparisonFault h hr.valid hfound hfault) S]
  rfl

/-- Of two logins that are refused, in whatever surroundings and for whatever reason, the responses
have one status and one body, and neither has done anything but look up an email once. It is assumed
that comparisons take no time. -/
theorem failed_logins_alike (h : w.RefusesLogin s r form) (h' : w'.RefusesLogin s' r' form')
    (S S' : Server) :
    ∃ U U' response response' log log',
      follow s (S.respond r) w = (U, some (response, log)) ∧
      follow s' (S'.respond r') w' = (U', some (response', log')) ∧
      response.status = 401 ∧ response'.status = 401 ∧ response.body = response'.body ∧
      w.OnlyLooksUp U ∧ w'.OnlyLooksUp U' :=
  ⟨_, _, _, _, _, _, h.follow_respond S, h'.follow_respond S', rfl, rfl, rfl,
    w.onlyLooksUp_afterLookup, w'.onlyLooksUp_afterLookup⟩

end World

/-- The request of a login. -/
def loginRequest (email password : String) : Request where
  method := "POST"
  target := "/v1/login"
  headers := [("content-type", "application/json")]
  body := Utf8.encode
    (Json.Value.object [("email", .text email), ("password", .text password)]).compact

/-- Surroundings in which the stored hash of the user is no hash. -/
def hashlessWorld : World :=
  { sampleWorld 7 with accepts := Password.accepts }

/-- The user without a hash and somebody who is no user, where a pair is registered, get the same
response. -/
theorem World.failed_logins_alike_of_two :
    ∃ U U' response response' log log',
      World.follow sampleIssuer
        (Server.respond ⟨.permissive, none⟩ (loginRequest "ada@example.org" "secret"))
        hashlessWorld = (U, some (response, log)) ∧
      World.follow sampleIssuer
        (Server.respond ⟨.permissive, none⟩ (loginRequest "bob@example.org" "other"))
        (pairedWorld 7) = (U', some (response', log')) ∧
      response.status = 401 ∧ response'.status = 401 ∧ response.body = response'.body ∧
      hashlessWorld.OnlyLooksUp U ∧ (pairedWorld 7).OnlyLooksUp U' := by
  have hhashless : hashlessWorld.RefusesLogin sampleIssuer
      (loginRequest "ada@example.org" "secret") ⟨"ada@example.org", "secret"⟩ :=
    { request :=
        ⟨rfl, by decide +kernel, eq_ok_of_toOption (by decide +kernel), by decide +kernel⟩
      finds := ⟨rfl, by decide, by decide⟩
      refuses := by
        intro a hfound
        obtain rfl : ⟨sampleUser 7, none, none, none, none, none, false⟩ = a :=
          Option.some.inj hfound
        have hverdict : Password.accepts "secret" "" = .unusable := by decide +kernel
        exact ⟨.unusable, congrArg Except.ok hverdict, nofun⟩ }
  have hunknown : (pairedWorld 7).RefusesLogin sampleIssuer
      (loginRequest "bob@example.org" "other") ⟨"bob@example.org", "other"⟩ :=
    { request :=
        ⟨rfl, by decide +kernel, eq_ok_of_toOption (by decide +kernel), by decide +kernel⟩
      finds := ⟨rfl, by decide, by decide⟩
      refuses := by
        intro a hfound
        have hnone : (none : Option Account) = some a := hfound
        cases hnone }
  exact World.failed_logins_alike hhashless hunknown _ _

end SessionLedger
