import SessionLedger.Proofs.Http.Response
import SessionLedger.Proofs.Ledger.Verdict
import SessionLedger.Proofs.Token.Genuine

/-! An outage is told apart from bad credentials and from success. A request that reaches a session
operation is answered by what its operations end with, whether they run alone or beside others. The
caller is blamed only where the diary of an operation shows that they have not proved who they are;
where an operation could not learn what it had to know, or was dropped at its deadline, the response
says that the service is at fault and nothing else. -/
namespace SessionLedger
open Http Session Token User Text

/-! ## Requests -/

/-- A request reaches a session operation: by its route, and with what the operation needs. -/
inductive Http.Request.Asks (r : Request) : Route → Operation → Prop
  | login {form} (h : r.IsLogin form) : Asks r .login (.login form.email form.password)
  | refresh {form} (method : r.method = "POST") (path : r.path = Route.refresh.path)
      (reads : r.form RefreshForm.reader = .ok form) :
      Asks r .refresh (.refresh form.refreshToken)
  | verify {token} (method : r.method = "GET") (path : r.path = Route.verify.path)
      (presents : r.token? = some token) : Asks r .verify (.verify token)
  /-- A logout verifies its token first. -/
  | logout {token} (method : r.method = "POST") (path : r.path = Route.logout.path)
      (presents : r.token? = some token) : Asks r .logout (.verify token)

namespace Http
variable {S : Server} {r : Request} {route : Route} {op : Operation}

/-- What the server makes of the response of a handler, and what is logged of the request. -/
def Server.deliver (S : Server) (r : Request) (response : Response) : Response × List Log.Event :=
  (response.addHeaders (S.policy.headers r), [Log.started r, Log.ended r response.status])

theorem Route.ofPath?_path (route : Route) : Route.ofPath? route.path = some route := by
  cases route <;> decide

theorem Server.respond_eq (hpath : r.path = route.path)
    (hmethod : route.methods.contains r.method = true) (hhead : r.method ≠ "HEAD")
    (hoptions : r.method ≠ "OPTIONS") :
    S.respond r = (S.handler r route).bind fun response => .done (S.deliver r response) := by
  have hdispatch : S.dispatch r = S.handler r route := by
    unfold Server.dispatch
    rw [hpath, route.ofPath?_path]
    dsimp only
    rw [if_pos hmethod]
    simp only [if_neg hhead, Program.bind_eq, Program.pure_eq, Program.bind_done]
  unfold Server.respond
  rw [if_neg hoptions, hdispatch]
  rfl

theorem login_eq {form : LoginForm} (h : r.IsLogin form) :
    Http.login r = .call (.login form.email form.password) fun result =>
      .done (responseOf Grant.toJson result) := by
  unfold Http.login
  rw [h.reads]
  dsimp only
  rw [if_neg (not_not_intro h.valid)]
  refine congrArg (Program.call _) (funext fun result => ?_)
  rcases result with e | grant <;> rfl

theorem refresh_eq {form : RefreshForm} (h : r.form RefreshForm.reader = .ok form) :
    Http.refresh r = .call (.refresh form.refreshToken) fun result =>
      .done (refreshResponse result) := by
  unfold Http.refresh
  rw [h]
  refine congrArg (Program.call _) (funext fun result => ?_)
  rcases result with e | grant
  · cases e <;> rfl
  · rfl

theorem verify_eq {token : String} (h : r.token? = some token) :
    Http.verify r = .call (.verify token) fun result =>
      .done (responseOf Verified.toJson result) := by
  unfold Http.verify authenticate
  rw [h]
  refine congrArg (Program.call _) (funext fun result => ?_)
  rcases result with e | verified <;> rfl

theorem logout_eq {token : String} (h : r.token? = some token) :
    Http.logout r = .call (.verify token) fun result => match result with
      | .error e => .done (Failure.ofSession e).response
      | .ok verified => .call (.logout verified.identity) fun result =>
        .done (responseOf loggedOut result) := by
  unfold Http.logout authenticate
  rw [h]
  refine congrArg (Program.call _) (funext fun result => ?_)
  rcases result with e | verified
  · rfl
  · refine congrArg (Program.call _) (funext fun result => ?_)
    rcases result with e | ⟨⟨⟩⟩ <;> rfl

/-- What follows the verification of a logout. -/
def afterVerify (S : Server) (r : Request) :
    Except SessionError Verified → Plan (Response × List Log.Event)
  | .error e => .done (S.deliver r (Failure.ofSession e).response)
  | .ok verified => .call (.logout verified.identity) fun result =>
    .done (S.deliver r (responseOf loggedOut result))

/-- A request that reaches a session operation is answered by what it ends with, unless it is a
logout whose token was verified: that is answered by what the logout ends with. -/
theorem Request.Asks.respond_cases (hr : r.Asks route op) (S : Server) :
    (∃ respond : op.Result → Response, (∀ result, Answers op result (respond result)) ∧
      S.respond r = .call op fun result => .done (S.deliver r (respond result))) ∨
    ∃ token, op = .verify token ∧ S.respond r = .call (.verify token) (afterVerify S r) := by
  cases hr with
  | login h =>
    refine .inl ⟨_, .login, ?_⟩
    rw [S.respond_eq h.path (by rw [h.method]; rfl) (by rw [h.method]; decide)
      (by rw [h.method]; decide)]
    show (Http.login r).bind _ = _
    rw [login_eq h]
    rfl
  | refresh method path reads =>
    refine .inl ⟨_, .refresh, ?_⟩
    rw [S.respond_eq path (by rw [method]; rfl) (by rw [method]; decide) (by rw [method]; decide)]
    show (Http.refresh r).bind _ = _
    rw [refresh_eq reads]
    rfl
  | verify method path presents =>
    refine .inl ⟨_, .verify, ?_⟩
    rw [S.respond_eq path (by rw [method]; rfl) (by rw [method]; decide) (by rw [method]; decide)]
    show (Http.verify r).bind _ = _
    rw [verify_eq presents]
    rfl
  | @logout token method path presents =>
    refine .inr ⟨token, rfl, ?_⟩
    rw [S.respond_eq path (by rw [method]; rfl) (by rw [method]; decide) (by rw [method]; decide)]
    show (Http.logout r).bind _ = _
    rw [logout_eq presents]
    refine congrArg (Program.call _) (funext fun result => ?_)
    rcases result with e | verified <;> rfl

theorem Request.Asks.isRequested (hr : r.Asks route op) : op.IsRequested := by
  cases hr <;> trivial

theorem isSession_of_isRequested (h : op.IsRequested) : op.IsSession := by
  cases op with
  | login | refresh | verify | logout => trivial
  | _ => exact h.elim

theorem Request.Asks.isSession (hr : r.Asks route op) (S : Server) :
    Plan.IsSession (S.respond r) := by
  have hop := isSession_of_isRequested hr.isRequested
  rcases hr.respond_cases S with ⟨respond, -, heq⟩ | ⟨token, rfl, heq⟩
  · rw [heq]
    exact ⟨hop, fun _ => trivial⟩
  · rw [heq]
    refine ⟨hop, fun result => ?_⟩
    cases result with
    | error e => trivial
    | ok verified => exact ⟨trivial, fun _ => trivial⟩

/-- A request is answered by what its last operation ends with; the operations before it have
succeeded. -/
theorem Request.Asks.concludes (hr : r.Asks route op) {d : Operation.interface.Diary}
    {answer : Response × List Log.Event} (h : (S.respond r).After d (.done answer)) :
    ∃ front last result response, d = front ++ [⟨last, result⟩] ∧
      Answers last result response ∧ answer = S.deliver r response ∧
      ∀ x ∈ front, Operation.Succeeds x.1 x.2 := by
  rcases hr.respond_cases S with ⟨respond, hanswers, heq⟩ | ⟨token, rfl, heq⟩
  · rw [heq] at h
    obtain ⟨result, d', rfl, hafter⟩ := h.done_of_call
    obtain ⟨rfl, hanswer⟩ := hafter.of_done
    cases hanswer
    exact ⟨[], op, result, _, rfl, hanswers result, rfl, List.forall_mem_nil _⟩
  · rw [heq] at h
    obtain ⟨result, d', rfl, hafter⟩ := h.done_of_call
    cases result with
    | error e =>
      obtain ⟨rfl, hanswer⟩ := hafter.of_done
      cases hanswer
      exact ⟨[], _, _, _, rfl, .verify (.error e), rfl, List.forall_mem_nil _⟩
    | ok verified =>
      obtain ⟨result, d', rfl, hend⟩ := hafter.done_of_call
      obtain ⟨rfl, hanswer⟩ := hend.of_done
      cases hanswer
      exact ⟨[⟨.verify token, .ok verified⟩], .logout verified.identity, result, _, rfl,
        .logout result, rfl, List.forall_mem_singleton.mpr .verify⟩

end Http

/-! ## Responses and runs -/

/-- The response to a request tells the truth about a run in which its operations have ended with
certain results. -/
structure Http.Truthful (s : Issuer) (log : List Event) (d : Operation.interface.Diary)
    (response : Response) : Prop where
  /-- The caller is blamed in one way, and only where one of the operations has evidence. -/
  refused : response.status = 401 →
    response.body = Failure.invalidCredentials.response.body ∧
      ∃ i op result, ⟨op, result⟩ ∈ d ∧ .returned i op result ∈ log ∧ Refuted s (diary log i) op
  /-- An outage is answered in one way. -/
  unavailable : (∃ i op result, ⟨op, result⟩ ∈ d ∧ (.expired i op result ∈ log ∨
      .returned i op result ∈ log ∧ ∃ x ∈ diary log i, Outage op x)) →
    response.status = 500 ∧ response.body = Failure.unavailable.response.body
  succeeded : response.status = 200 → ∀ x ∈ d, Operation.Succeeds x.1 x.2

namespace Http
variable {s : Issuer} {S : Server} {r : Request} {route : Route} {op : Operation} {w : World}
variable {log : List Event} {T : Traffic} {response : Response} {entries : List Log.Event}

/-- Whatever goes on beside it, a request is answered truthfully. -/
theorem Request.Asks.truthful (hr : r.Asks route op) {d : Operation.interface.Diary}
    (hrun : Traffic.Run s w log T) (h : (S.respond r).After d (.done (response, entries)))
    (hended : AllEnded log d) : Truthful s log d response := by
  obtain ⟨front, last, result, response, rfl, hanswers, hanswer, hfront⟩ := hr.concludes h
  cases hanswer
  have hlast : (⟨last, result⟩ : Operation.interface.Exchange) ∈ front ++ [⟨last, result⟩] :=
    List.mem_append_right _ (List.mem_singleton_self _)
  constructor
  · intro hstatus
    obtain ⟨i, hreturned | hexpired⟩ := hended _ hlast
    · obtain ⟨hresponse, hrefuted⟩ := hanswers.refuted hstatus (hrun.justified hreturned)
      subst hresponse
      exact ⟨rfl, i, last, result, hlast, hreturned, hrefuted⟩
    · -- What is dropped at its deadline is not blamed on the caller.
      obtain rfl := hanswers.of_fails (hrun.fails_of_expired hanswers.isRequested hexpired)
      cases hstatus
  · rintro ⟨i, op', result', hmem, hbad⟩
    have hfails : op'.IsRequested → op'.Fails result' := by
      intro hop
      rcases hbad with hexpired | ⟨hreturned, houtage⟩
      · exact hrun.fails_of_expired hop hexpired
      · exact hrun.fails_of_outage hop hreturned houtage
    rcases List.mem_append.mp hmem with hmem | hmem
    · have hsucceeds := hfront _ hmem
      exact absurd (hfails hsucceeds.isRequested) (not_fails_of_succeeds hsucceeds)
    · obtain ⟨rfl, hresult⟩ := Sigma.mk.inj (List.mem_singleton.mp hmem)
      obtain rfl := eq_of_heq hresult
      obtain rfl := hanswers.of_fails (hfails hanswers.isRequested)
      exact ⟨rfl, rfl⟩
  · intro hstatus x hx
    rcases List.mem_append.mp hx with hx | hx
    · exact hfront x hx
    · obtain rfl := List.mem_singleton.mp hx
      exact hanswers.succeeds hstatus

/-- Where the first operation of a request fails, the response says that the service is at
fault. -/
theorem Request.Asks.follow_of_fails (hr : r.Asks route op) (S : Server) {U : World}
    {result : op.Result} (h : w.perform s op = (U, some result)) (hfails : op.Fails result) :
    World.follow s (S.respond r) w = (U, some (S.deliver r Failure.unavailable.response)) := by
  rcases hr.respond_cases S with ⟨respond, hanswers, heq⟩ | ⟨token, rfl, heq⟩
  · rw [heq, World.follow, h, ← (hanswers result).of_fails hfails]
    rfl
  · obtain ⟨e, rfl, he⟩ := hfails
    rw [heq, World.follow, h]
    show World.follow s (.done (S.deliver r (Failure.ofSession e).response)) U = _
    rw [Failure.ofSession_of_isOutage he]
    rfl

/-- So does it where an operation of a request that runs alone meets an outage, or its deadline. -/
theorem Request.Asks.follow_of_suffers (hr : r.Asks route op) (S : Server)
    (h : Suffers (w.story s 0 (S.respond r))) :
    ∃ U, World.follow s (S.respond r) w =
      (U, some (S.deliver r Failure.unavailable.response)) := by
  have hnothing : ¬ Suffers [] := fun ⟨_, _, hmem, _⟩ => List.not_mem_nil hmem
  rcases hr.respond_cases S with ⟨respond, hanswers, heq⟩ | ⟨token, rfl, heq⟩
  · rw [heq] at h
    obtain ⟨U, result, hperform, hfails | hsuffers⟩ := World.suffers_story hr.isRequested h
    · exact ⟨U, hr.follow_of_fails S hperform hfails⟩
    · exact absurd hsuffers hnothing
  · rw [heq] at h
    obtain ⟨U, result, hperform, hfails | hsuffers⟩ := World.suffers_story hr.isRequested h
    · exact ⟨U, hr.follow_of_fails S hperform hfails⟩
    · -- The token was verified, and the logout itself has failed.
      cases result with
      | error e => exact absurd hsuffers hnothing
      | ok verified =>
        have hop : (Operation.logout verified.identity).IsRequested := trivial
        obtain ⟨V, result, hlogout, hfails | hsuffers⟩ := World.suffers_story hop hsuffers
        · refine ⟨V, ?_⟩
          rw [heq, World.follow, hperform]
          show World.follow s (.call (.logout verified.identity) _) U = _
          rw [World.follow, hlogout, ← (Answers.logout result).of_fails hfails]
          rfl
        · exact absurd hsuffers hnothing

/-- So does it where the ledger cannot be asked for a token that can be read. -/
theorem Request.Asks.follow_of_unasked (hr : r.Asks route op) (S : Server) {token : String}
    {kind : Kind} {claims : Claims} (hop : Presents op token kind)
    (hread : s.signer.claimsOf w.clock token kind = .ok claims)
    (hstore : s.cacheLimit < w.store.latency ∨ w.store.isAvailable = false) :
    ∃ U, World.follow s (S.respond r) w =
      (U, some (S.deliver r Failure.unavailable.response)) := by
  obtain ⟨U, checked, hrun, hverdict⟩ := w.run_checkToken s token kind
  obtain ⟨cause, rfl⟩ := hverdict.cache_iff.mpr ⟨⟨claims, hread⟩, hstore⟩
  have hcheck := World.perform_checkToken.mpr hrun
  have houtage : ∀ {e}, Reports token kind (.cache cause) e → e.IsOutage := by
    intro e h
    cases h with
    | blank hblank =>
      rw [Signer.isAllBlank_of_claimsOf hread] at hblank
      cases hblank
    | cache => exact .cache cause
    | late => exact .late
  cases hop with
  | verify =>
    obtain ⟨e, he, hreports⟩ := World.perform_verify_of_error hcheck
    exact ⟨_, hr.follow_of_fails S (Prod.ext rfl he) ⟨e, rfl, houtage hreports⟩⟩
  | refresh =>
    obtain ⟨e, he, hreports⟩ := World.perform_refresh_of_error hcheck
    exact ⟨_, hr.follow_of_fails S (Prod.ext rfl he) ⟨e, rfl, houtage hreports⟩⟩

end Http

/-- How a request that reaches a session operation is answered: an outage is told apart from bad
credentials and from success. -/
structure Http.TellsApart (s : Issuer) (S : Server) (r : Request) (op : Operation) : Prop where
  /-- Alone the request makes a run of its own, and its response tells the truth about it. -/
  alone : ∀ w U response entries,
    World.follow s (S.respond r) w = (U, some (response, entries)) →
    ∃ T d, Traffic.Run s w (w.story s 0 (S.respond r)) T ∧ T.world = U ∧
      (S.respond r).After d (.done (response, entries)) ∧
      AllEnded (w.story s 0 (S.respond r)) d ∧
      Truthful s (w.story s 0 (S.respond r)) d response
  /-- Beside other operations the response tells the truth, too. -/
  amid : ∀ w log T d response entries, Traffic.Run s w log T →
    (S.respond r).After d (.done (response, entries)) → AllEnded log d →
    Truthful s log d response
  /-- After an outage there is a response. -/
  unavailable : ∀ w, Suffers (w.story s 0 (S.respond r)) →
    ∃ U, World.follow s (S.respond r) w = (U, some (S.deliver r Failure.unavailable.response))
  /-- So there is if the ledger cannot be asked for a token that can be read. -/
  unasked : ∀ (w : World) token kind claims, Presents op token kind →
    s.signer.claimsOf w.clock token kind = .ok claims →
    s.cacheLimit < w.store.latency ∨ w.store.isAvailable = false →
    ∃ U, World.follow s (S.respond r) w = (U, some (S.deliver r Failure.unavailable.response))
  classes : ∀ e : SessionError, (Failure.ofSession e).status ∈ [400, 401, 500]
  /-- Errors of one class have one response. -/
  alike : ∀ e e' : SessionError, (Failure.ofSession e).status = (Failure.ofSession e').status →
    (Failure.ofSession e).response = (Failure.ofSession e').response

/-- Every request that reaches a session operation is answered so, in all surroundings. -/
theorem Http.tellsApart_of_asks (s : Issuer) (S : Server) {r : Request} {route : Route}
    {op : Operation} (hr : r.Asks route op) : TellsApart s S r op where
  alone w U response entries h := by
    have hnone : AllEnded [] [] := .nil
    obtain ⟨T, d, hrun, hworld, hafter, hended⟩ :=
      Traffic.Steps.story (T := .idle w) (hr.isSession S) .start hnone h
    exact ⟨T, d, hrun, hworld, hafter, hended, hr.truthful hrun hafter hended⟩
  amid w log T d response entries hrun hafter hended := hr.truthful hrun hafter hended
  unavailable w h := hr.follow_of_suffers S h
  unasked w token kind claims hop hread hstore := hr.follow_of_unasked S hop hread hstore
  classes e := Failure.status_ofSession e
  alike e e' h := Failure.response_eq_of_status_eq h

/-- Surroundings in which the store of users does not find rows by their email. -/
def unfindingWorld : World :=
  { sampleWorld 7 with
    users := (sampleWorld 7).users.setFault .findByEmail (some (.database "pool closed")) }

/-- A login of a user with the right password is answered that the service is at fault, and the
response does not tell what is wrong with the database. -/
theorem Http.tellsApart_of_login :
    (loginRequest "ada@example.org" "secret").Asks .login (.login "ada@example.org" "secret") ∧
      ∃ U response, World.follow sampleIssuer
        (Server.respond ⟨.permissive, none⟩ (loginRequest "ada@example.org" "secret"))
        unfindingWorld = (U, some response) ∧
      response.1.status = 500 ∧ response.1.body = Failure.unavailable.response.body := by
  have hlogin : (loginRequest "ada@example.org" "secret").IsLogin ⟨"ada@example.org", "secret"⟩ :=
    ⟨rfl, by decide +kernel, eq_ok_of_toOption (by decide +kernel), by decide +kernel⟩
  have hasks : (loginRequest "ada@example.org" "secret").Asks .login
      (.login "ada@example.org" "secret") := .login hlogin
  have htells := tellsApart_of_asks sampleIssuer ⟨.permissive, none⟩ hasks
  have hsuffers : Suffers (unfindingWorld.story sampleIssuer 0
      (Server.respond ⟨.permissive, none⟩ (loginRequest "ada@example.org" "secret"))) := by
    have hlookup : .called 0 (.remote (.users (.findByEmail "ada@example.org"))
        (some sampleIssuer.usersLimit)) (some (.error (.database "pool closed"))) ∈
        World.passage 0 (unfindingWorld.dropAt sampleIssuer (.login "ada@example.org" "secret"))
          (sampleIssuer.login "ada@example.org" "secret") unfindingWorld := by
      rw [Issuer.login_eq hlogin.valid]
      exact List.mem_cons_of_mem _ (List.mem_cons_self ..)
    rcases hasks.respond_cases ⟨.permissive, none⟩ with ⟨respond, -, heq⟩ | ⟨token, heq, -⟩
    · rw [heq, World.story]
      exact ⟨0, .login "ada@example.org" "secret", List.mem_append_left _ (List.mem_cons_self ..),
        .inl ⟨_, _, List.mem_append_left _ (List.mem_cons_of_mem _ hlookup),
          .lookup trivial (by simp) (by simp)⟩⟩
    · cases heq
  obtain ⟨U, hfollow⟩ := htells.unavailable unfindingWorld hsuffers
  exact ⟨hasks, U, _, hfollow, rfl, rfl⟩

end SessionLedger
