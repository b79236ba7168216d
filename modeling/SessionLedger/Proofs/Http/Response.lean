import SessionLedger.Proofs.Http.LoginFailure
import SessionLedger.Proofs.Session.Evidence
import SessionLedger.Proofs.World.Story

/-! How the ends of operations are answered. Errors are of three classes, and what an error says
beyond its class, no response says: an error of the service is answered as one and an error that
blames the caller as one. Whether an operation ends with the former or with the latter is told by
its diary, whatever goes on beside it. -/
namespace SessionLedger
open Http Session Token User

/-! ## Operations in runs -/

namespace Traffic
variable {s : Issuer} {w : World} {T : Traffic} {log : List Event} {i : Nat} {op : Operation}
variable {result : op.Result}

theorem Steps.possible_diary (h : Run s w log T) : ∀ x ∈ diary log i, Possible x := by
  rintro ⟨c, reply⟩ hmem
  obtain ⟨log₁, log₂, rfl⟩ := List.append_of_mem (mem_diary.mp hmem)
  obtain ⟨U, V, -, he, -⟩ := h.at
  cases he with
  | answer hi hr => exact hr.possible

/-- An operation that has met an outage fails, whatever goes on beside it. -/
theorem Steps.fails_of_outage (h : Run s w log T) (hop : op.IsRequested)
    (hmem : .returned i op result ∈ log) (houtage : ∃ x ∈ diary log i, Outage op x) :
    op.Fails result := by
  obtain ⟨log₁, log₂, rfl⟩ := List.append_of_mem hmem
  rw [h.diary_of_end rfl] at houtage
  obtain ⟨U, V, h₁, -⟩ := h.at
  exact ((Operation.heeds_task s hop).after h.returned.2.2 h₁.possible_diary).2 houtage

/-- So does one that is dropped at its deadline. -/
theorem Steps.fails_of_expired (h : Run s w log T) (hop : op.IsRequested)
    (hmem : .expired i op result ∈ log) : op.Fails result := by
  obtain ⟨limit, hdeadline⟩ := h.deadline_of_expired hmem
  exact World.fails_of_deadline hop hdeadline

/-- An operation that blames its caller has evidence in its diary. -/
theorem Steps.justified (h : Run s w log T) (hmem : .returned i op result ∈ log) :
    Justified s (diary log i) op result := by
  obtain ⟨log₁, log₂, rfl⟩ := List.append_of_mem hmem
  rw [h.diary_of_end rfl]
  exact (Operation.leads_task s op).after h.returned.2.2

end Traffic

/-! ## Responses -/

/-- The error that tells nothing but that the service is at fault. -/
def Http.Failure.unavailable : Failure :=
  .internal "authentication unavailable"

theorem Http.Failure.ofSession_of_isOutage {e : SessionError} (h : e.IsOutage) :
    Failure.ofSession e = .unavailable := by
  cases h with
  | cache cause => rfl
  | late => rfl
  | @directory cause h =>
    cases cause with
    | notFound => exact absurd rfl h
    | timeout => rfl
    | database text => rfl

/-- The response to what a session operation ends with. -/
def Http.responseOf {α : Type} (render : α → Json.Value) : Except SessionError α → Response
  | .ok a => .ofJson 200 (render a)
  | .error e => (Failure.ofSession e).response

/-- The response to what a refresh ends with. -/
def Http.refreshResponse : Except SessionError Grant → Response
  | .error (.rotationIncomplete issued _ _ _) => .ofJson 200 issued.toJson
  | result => responseOf Grant.toJson result

/-- What a logout that succeeds is answered. -/
def Http.loggedOut (_ : Unit) : Json.Value :=
  .object [("message", .text "Successfully logged out")]

/-- The response to the last operation of a request. -/
inductive Http.Answers : (op : Operation) → op.Result → Response → Prop
  | login {email password} (result : Except SessionError Grant) :
      Answers (.login email password) result (responseOf Grant.toJson result)
  | refresh {token} (result : Except SessionError Grant) :
      Answers (.refresh token) result (refreshResponse result)
  | verify {token} (result : Except SessionError Verified) :
      Answers (.verify token) result (responseOf Verified.toJson result)
  | logout {identity} (result : Except SessionError Unit) :
      Answers (.logout identity) result (responseOf loggedOut result)

/-- The service has done what it was asked for. A refresh that could not revoke the old pair counts,
for the new pair is live. -/
inductive Session.Operation.Succeeds : (op : Operation) → op.Result → Prop
  | login {email password grant} : Succeeds (.login email password) (.ok grant)
  | refresh {token grant} : Succeeds (.refresh token) (.ok grant)
  | incomplete {token issued accessUuid refreshUuid cause} :
      Succeeds (.refresh token) (.error (.rotationIncomplete issued accessUuid refreshUuid cause))
  | verify {token verified} : Succeeds (.verify token) (.ok verified)
  | logout {identity} : Succeeds (.logout identity) (.ok ())

theorem Session.Operation.Succeeds.isRequested {op : Operation} {result : op.Result}
    (h : op.Succeeds result) : op.IsRequested := by
  cases h <;> trivial

namespace Http
variable {s : Issuer} {d : Diary} {op : Operation} {result : op.Result} {response : Response}

theorem Answers.isRequested (h : Answers op result response) : op.IsRequested := by
  cases h <;> trivial

theorem responseOf_of_failed {α : Type} (render : α → Json.Value) {result : Except SessionError α}
    (h : Failed result) : responseOf render result = Failure.unavailable.response := by
  obtain ⟨e, rfl, he⟩ := h
  rw [responseOf, Failure.ofSession_of_isOutage he]

theorem Answers.of_fails (h : Answers op result response) (hfails : op.Fails result) :
    response = Failure.unavailable.response := by
  cases h with
  | login result => exact responseOf_of_failed _ hfails
  | verify result => exact responseOf_of_failed _ hfails
  | logout result => exact responseOf_of_failed _ hfails
  | refresh result =>
    obtain ⟨e, rfl, he⟩ := hfails
    cases he with
    | cache cause => exact responseOf_of_failed Grant.toJson ⟨_, rfl, .cache cause⟩
    | directory hcause => exact responseOf_of_failed Grant.toJson ⟨_, rfl, .directory hcause⟩
    | late => exact responseOf_of_failed Grant.toJson ⟨_, rfl, .late⟩

/-- Session errors are of three classes. -/
theorem Failure.ofSession_cases (e : SessionError) :
    (e.IsRefusal ∧ Failure.ofSession e = .invalidCredentials) ∨
      (e = .missingCredentials ∧ Failure.ofSession e = .badRequest "missing credentials") ∨
      Failure.ofSession e = .unavailable := by
  cases e with
  | unknownEmail => exact .inl ⟨.unknownEmail, rfl⟩
  | wrongPassword => exact .inl ⟨.wrongPassword, rfl⟩
  | accessRejected reason => exact .inl ⟨.accessRejected reason, rfl⟩
  | refreshRejected reason => exact .inl ⟨.refreshRejected reason, rfl⟩
  | missingCredentials => exact .inr (.inl ⟨rfl, rfl⟩)
  | directory cause =>
    cases cause with
    | notFound => exact .inl ⟨.gone, rfl⟩
    | timeout => exact .inr (.inr rfl)
    | database text => exact .inr (.inr rfl)
  | _ => exact .inr (.inr rfl)

theorem Failure.status_ofSession (e : SessionError) :
    (Failure.ofSession e).status ∈ [400, 401, 500] := by
  rcases ofSession_cases e with ⟨-, he⟩ | ⟨-, he⟩ | he <;> rw [he] <;> decide

/-- What the response to an error says is told by its class. -/
theorem Failure.response_eq_of_status_eq {e e' : SessionError}
    (h : (Failure.ofSession e).status = (Failure.ofSession e').status) :
    (Failure.ofSession e).response = (Failure.ofSession e').response := by
  rcases ofSession_cases e with ⟨-, he⟩ | ⟨-, he⟩ | he <;>
    rcases ofSession_cases e' with ⟨-, he'⟩ | ⟨-, he'⟩ | he' <;> rw [he, he'] at h ⊢ <;> cases h

/-- Only an error that blames the caller is answered as one. -/
theorem responseOf_refused {α : Type} {render : α → Json.Value} {result : Except SessionError α}
    (hstatus : (responseOf render result).status = 401) :
    responseOf render result = Failure.invalidCredentials.response ∧
      ∃ e : SessionError, result = .error e ∧ e.IsRefusal := by
  cases result with
  | ok a => cases hstatus
  | error e =>
    rw [responseOf] at hstatus ⊢
    rcases Failure.ofSession_cases e with ⟨hrefusal, he⟩ | ⟨-, he⟩ | he
    · exact ⟨by rw [he], e, rfl, hrefusal⟩
    · rw [he] at hstatus
      cases hstatus
    · rw [he] at hstatus
      cases hstatus

theorem refreshResponse_refused {result : Except SessionError Grant}
    (hstatus : (refreshResponse result).status = 401) :
    refreshResponse result = Failure.invalidCredentials.response ∧
      ∃ e : SessionError, result = .error e ∧ e.IsRefusal := by
  unfold refreshResponse at hstatus ⊢
  split at hstatus
  · cases hstatus
  · exact responseOf_refused hstatus

theorem Answers.refuted (h : Answers op result response) (hstatus : response.status = 401)
    (hjustified : Justified s d op result) :
    response = Failure.invalidCredentials.response ∧ Refuted s d op := by
  cases h with
  | login result =>
    obtain ⟨hresponse, e, he, hrefusal⟩ := responseOf_refused hstatus
    exact ⟨hresponse, hjustified e he hrefusal⟩
  | refresh result =>
    obtain ⟨hresponse, e, he, hrefusal⟩ := refreshResponse_refused hstatus
    exact ⟨hresponse, hjustified e he hrefusal⟩
  | verify result =>
    obtain ⟨hresponse, e, he, hrefusal⟩ := responseOf_refused hstatus
    exact ⟨hresponse, hjustified e he hrefusal⟩
  | logout result =>
    obtain ⟨hresponse, e, he, hrefusal⟩ := responseOf_refused hstatus
    exact ⟨hresponse, hjustified e he hrefusal⟩

theorem exists_ok_of_responseOf {α : Type} {render : α → Json.Value}
    {result : Except SessionError α} (hstatus : (responseOf render result).status = 200) :
    ∃ a, result = .ok a := by
  cases result with
  | ok a => exact ⟨a, rfl⟩
  | error e =>
    rw [responseOf] at hstatus
    rcases Failure.ofSession_cases e with ⟨-, he⟩ | ⟨-, he⟩ | he <;> rw [he] at hstatus <;>
      cases hstatus

theorem Answers.succeeds (h : Answers op result response) (hstatus : response.status = 200) :
    op.Succeeds result := by
  cases h with
  | login result =>
    obtain ⟨grant, rfl⟩ := exists_ok_of_responseOf hstatus
    exact .login
  | verify result =>
    obtain ⟨verified, rfl⟩ := exists_ok_of_responseOf hstatus
    exact .verify
  | logout result =>
    obtain ⟨⟨⟩, rfl⟩ := exists_ok_of_responseOf hstatus
    exact .logout
  | refresh result =>
    unfold refreshResponse at hstatus
    split at hstatus
    · exact .incomplete
    · obtain ⟨grant, rfl⟩ := exists_ok_of_responseOf hstatus
      exact .refresh

/-- What succeeds does not fail. -/
theorem not_fails_of_succeeds (h : op.Succeeds result) : ¬ op.Fails result := by
  intro hfails
  cases h with
  | incomplete =>
    obtain ⟨e, he, houtage⟩ := hfails
    cases he
    cases houtage
  | _ =>
    obtain ⟨e, he, -⟩ := hfails
    cases he

end Http

end SessionLedger
