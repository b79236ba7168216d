import SessionLedger.Proofs.Session.Conducted
import SessionLedger.Proofs.Session.Outage

/-! An operation blames its caller only with evidence. If it ends with an error that says that the
caller has not proved who they are, then its own diary shows why: the token could not be read, the
ledger did not have it or had it under another owner, somebody else had removed the pair, the store
of users did not know the user, or the password did not fit. -/
namespace SessionLedger
open Session Token User Text

/-! ## Evidence -/

/-- The caller of an operation proves who they are by a token of a kind. -/
inductive Presents : Operation → String → Kind → Prop
  | verify {token} : Presents (.verify token) token .access
  | refresh {token} : Presents (.refresh token) token .refresh

/-- The diary of an operation shows that its caller has not proved who they are. -/
inductive Refuted (s : Issuer) (d : Diary) : Operation → Prop
  | unreadable {op token kind now fault} (hop : Presents op token kind) (hnow : ⟨.clock, now⟩ ∈ d)
      (h : s.signer.claimsOf now token kind = .error fault) : Refuted s d op
  | absent {op token kind claims} (hop : Presents op token kind)
      (hreads : Reads s d token kind claims)
      (h : Stored d (.get (s.tokenKey kind (claims.uuid kind))) none) : Refuted s d op
  | foreign {op token kind claims owner} (hop : Presents op token kind)
      (hreads : Reads s d token kind claims)
      (h : Stored d (.get (s.tokenKey kind (claims.uuid kind))) (some owner))
      (hne : Decimal.signed64? owner ≠ some claims.user) : Refuted s d op
  | outrun {token claims} (hreads : Reads s d token .refresh claims)
      (h : s.removal claims.accessUuid claims.refreshUuid (some (.ok 0)) ∈ d) :
      Refuted s d (.refresh token)
  | unknown {op} {c : Directory.Call} {limit} (hc : c.IsLookup)
      (h : ⟨.remote (.users c) limit, some (.error .notFound)⟩ ∈ d) : Refuted s d op
  | unfit {email password row limit}
      (hrow : ⟨.remote (.users (.findByEmail email)) limit, some (.ok row)⟩ ∈ d)
      {verdict} (h : ⟨.compare (.genuine password row.passwordHash), .ok verdict⟩ ∈ d)
      (hunfit : verdict ≠ .fits) :
      Refuted s d (.login email password)

/-- The error says that the caller has not proved who they are. A user who is gone has no
sessions. -/
inductive Session.SessionError.IsRefusal : SessionError → Prop
  | unknownEmail : IsRefusal .unknownEmail
  | wrongPassword : IsRefusal .wrongPassword
  | accessRejected (reason : Rejection) : IsRefusal (.accessRejected reason)
  | refreshRejected (reason : Rejection) : IsRefusal (.refreshRejected reason)
  | gone : IsRefusal (.directory .notFound)

/-- If the result blames the caller, there is evidence for it. -/
def Blames {α : Type} (s : Issuer) (op : Operation) (d : Diary) (result : Except SessionError α) :
    Prop :=
  ∀ e : SessionError, result = .error e → e.IsRefusal → Refuted s d op

/-- If the result of an operation that a request has asked for blames the caller, there is evidence
for it. -/
def Justified (s : Issuer) (d : Diary) : (op : Operation) → op.Result → Prop
  | .login email password, result => Blames s (.login email password) d result
  | .refresh token, result => Blames s (.refresh token) d result
  | .verify token, result => Blames s (.verify token) d result
  | .logout identity, result => Blames s (.logout identity) d result
  | _, _ => True

theorem Refuted.mono {s : Issuer} {op : Operation} {d d' : Diary} (h : Refuted s d op)
    (hd : d <+: d') : Refuted s d' op := by
  cases h with
  | unreadable hop hnow h => exact .unreadable hop (hd.subset hnow) h
  | absent hop hreads h => exact .absent hop (hreads.mono hd) (h.mono hd)
  | foreign hop hreads h hne => exact .foreign hop (hreads.mono hd) (h.mono hd) hne
  | outrun hreads h => exact .outrun (hreads.mono hd) (hd.subset h)
  | unknown hc h => exact .unknown hc (hd.subset h)
  | unfit hrow h hunfit => exact .unfit (hd.subset hrow) (hd.subset h) hunfit

/-- An error is passed on, at once or later. -/
theorem Blames.error {α β : Type} {s : Issuer} {op : Operation} {d d' : Diary} {e : SessionError}
    (h : Blames s op d (.error e : Except SessionError α)) (hd : d <+: d') :
    Blames s op d' (.error e : Except SessionError β) := by
  rintro _ ⟨⟩ he
  exact (h e rfl he).mono hd

namespace Session
variable {s : Issuer} {op : Operation} {d : Diary} {user : Int64} {α : Type}

theorem blames_ok (a : α) : Blames s op d (.ok a) := by
  rintro _ ⟨⟩

theorem blames_of_not {e : SessionError} (h : ¬ e.IsRefusal) :
    Blames s op d (.error e : Except SessionError α) := by
  rintro _ ⟨⟩ he
  exact absurd he h

theorem blames_of_refuted {result : Except SessionError α} (h : Refuted s d op) :
    Blames s op d result :=
  fun _ _ _ => h

/-- A fault of the cache is no fault of the caller. -/
theorem blames_cache (e : CacheFault) : Blames s op d (.error (.cache e) : Except SessionError α) :=
  blames_of_not nofun

/-! ## Parts of operations -/

/-- A lookup of a user finds a row, or shows that there is none, or fails. -/
theorem leads_lookup {c : Directory.Call} {f : Except DirectoryError c.Answer → Task α}
    {ends : Diary → α → Prop}
    (hok : ∀ d' a, d <+: d' → ⟨.remote (.users c) (some s.usersLimit), some (.ok a)⟩ ∈ d' →
      (f (.ok a)).Leads ends d')
    (hmissing : ∀ d',
      ⟨.remote (.users c) (some s.usersLimit), some (.error .notFound)⟩ ∈ d' →
      (f (.error .notFound)).Leads ends d')
    (herr : ∀ d' e, e ≠ .notFound → (f (.error e)).Leads ends d') :
    ((s.askUsers c).bind f).Leads ends d := by
  rw [Program.Leads, Program.keeps_bind]
  refine keeps_askUsers trivial (fun a => ?_) fun reply e _ hreply => ?_
  · exact hok _ a (List.prefix_append d _) (by simp)
  · by_cases he : e = .notFound
    · subst he
      obtain rfl := hreply (by simp)
      exact hmissing _ (by simp)
    · exact herr _ e he

/-- The check of a token reads it, or shows what is wrong with it, or cannot ask the ledger. -/
theorem leads_checkToken {token : String} {kind : Kind} {f : Except CheckError Claims → Task α}
    {ends : Diary → α → Prop} (hop : Presents op token kind)
    (hok : ∀ d' claims, Reads s d' token kind claims → (f (.ok claims)).Leads ends d')
    (hrejected : ∀ d' reason, Refuted s d' op → (f (.error (.rejected reason))).Leads ends d')
    (hcache : ∀ d' e, (f (.error (.cache e))).Leads ends d') :
    ((s.checkToken token kind).bind f).Leads ends d := by
  rw [Program.Leads, Program.keeps_bind]
  refine keeps_clock trivial fun now => ?_
  have hnow : ⟨.clock, now⟩ ∈ d ++ [⟨.clock, now⟩] := by simp
  cases hread : s.signer.claimsOf now token kind with
  | error fault => exact hrejected _ _ (.unreadable hop hnow hread)
  | ok claims =>
    have hreads : ∀ x, Reads s (d ++ [⟨.clock, now⟩] ++ [x]) token kind claims := fun x =>
      ⟨now, List.mem_append_left _ hnow, hread⟩
    simp only [Program.bind_eq, Program.keeps_bind]
    refine keeps_get trivial (fun owner => ?_) ?_ fun reply e _ he => ?_
    · dsimp only
      split
      · exact hok _ _ (hreads _)
      · next hne =>
        exact hrejected _ _ (.foreign hop (hreads _) ⟨some s.cacheLimit, by simp⟩ hne)
    · exact hrejected _ _ (.absent hop (hreads _) ⟨some s.cacheLimit, by simp⟩)
    · cases e with
      | notFound => exact absurd rfl he
      | _ => exact hcache _ _

theorem leads_rebuildProfile (s : Issuer) (op : Operation) (user : Int64) (d : Diary) :
    (s.rebuildProfile user).Leads (Blames s op) d := by
  refine leads_lookup (fun d' projection _ _ => ?_) (fun d' hmissing => ?_) fun d' e he => ?_
  · exact Program.leads_bind fun _ _ _ => blames_ok _
  · exact blames_of_refuted (.unknown (c := .project user) trivial hmissing)
  · refine blames_of_not ?_
    rintro ⟨⟩
    exact he rfl

theorem leads_profile (s : Issuer) (op : Operation) (user : Int64) (d : Diary) :
    (s.profile user).Leads (Blames s op) d := by
  refine Program.leads_bind fun d' snapshot _ => ?_
  match snapshot with
  | .ok snapshot => exact blames_ok _
  | .error .notFound => exact leads_rebuildProfile s op user d'
  | .error .serialization => exact leads_rebuildProfile s op user d'
  | .error .timeout => exact blames_cache _
  | .error (.unavailable reason) => exact blames_cache _

theorem leads_profileFor (s : Issuer) (op : Operation) (pair : Pair) (d : Diary) :
    (s.profileFor pair).Leads (Blames s op) d := by
  refine (leads_profile s op pair.user d).bind fun d' snapshot _ h => ?_
  cases snapshot with
  | ok snapshot => exact blames_ok _
  | error e => exact Program.leads_bind fun _ _ hd => h.error hd

theorem leads_registerFresh (s : Issuer) (op : Operation) (pair : Pair) (d : Diary) :
    (s.registerFresh pair).Leads (Blames s op) d := by
  refine Program.leads_bind fun d' registered _ => ?_
  cases registered with
  | ok => exact blames_ok _
  | error e => exact Program.leads_bind fun _ _ _ => blames_of_not nofun

/-! ## Operations -/

theorem leads_openFor (s : Issuer) (op : Operation) (user : Int64) (d : Diary) :
    (s.openFor user).Leads (Blames s op) d := by
  refine Program.leads_bind fun d' pair _ => ?_
  refine (leads_registerFresh s op pair d').bind fun d' registered _ h => ?_
  cases registered with
  | error e => exact h.error (List.prefix_refl d')
  | ok =>
    refine Program.leads_bind fun d' _ _ => ?_
    refine (leads_profileFor s op pair d').bind fun d' snapshot _ h => ?_
    cases snapshot with
    | error e => exact h.error (List.prefix_refl d')
    | ok snapshot => exact blames_ok _

theorem leads_login (s : Issuer) (email password : String) :
    (s.login email password).Leads (Blames s (.login email password)) [] := by
  unfold Issuer.login
  split
  · exact blames_of_not nofun
  · refine leads_lookup (fun d' row _ hrow => ?_) (fun d' hmissing => ?_) fun d' e he => ?_
    · simp only [Program.bind_eq, Program.Leads, Program.keeps_bind]
      refine keeps_checkPassword trivial (leads_openFor s _ row.id _) fun outcome e hadmission => ?_
      rcases eq_of_admission_eq_error hadmission with ⟨text, -, rfl⟩ | ⟨verdict, rfl, hunfit, rfl⟩
      · exact blames_of_not nofun
      · exact blames_of_refuted (.unfit (List.mem_append_left _ hrow) (by simp) hunfit)
    · exact Program.leads_bind fun _ _ hd =>
        blames_of_refuted (.unknown (c := .findByEmail email) trivial (hd.subset hmissing))
    · cases e with
      | notFound => exact absurd rfl he
      | timeout => exact blames_of_not nofun
      | database text => exact blames_of_not nofun

theorem leads_retire {token : String} {claims : Claims} (hreads : Reads s d token .refresh claims)
    (pair : Pair) (snapshot : Snapshot) :
    (s.retire claims pair snapshot).Leads (Blames s (.refresh token)) d := by
  rw [Issuer.retire, Program.bind_eq, Program.Leads, Program.keeps_bind]
  refine keeps_revoke (fun _ => trivial) (fun n => ?_) fun reply e _ => ?_
  · cases n with
    | zero =>
      exact Program.leads_bind fun _ _ hd => blames_of_refuted
        (.outrun (hreads.mono ((List.prefix_append d _).trans hd)) (hd.subset (by simp)))
    | succ n => exact blames_ok _
  · exact blames_of_not fun h => by cases h

theorem leads_rotate {token : String} {claims : Claims} (hreads : Reads s d token .refresh claims) :
    (s.rotate claims).Leads (Blames s (.refresh token)) d := by
  refine leads_lookup (fun d' row hd _ => ?_) (fun d' hmissing => ?_) fun d' e he => ?_
  · refine Program.leads_bind fun d' pair hd' => ?_
    have hreads := hreads.mono (hd.trans hd')
    refine (leads_registerFresh s (.refresh token) pair d').bind fun d' registered hd h => ?_
    cases registered with
    | error e => exact h.error (List.prefix_refl d')
    | ok =>
      refine (leads_profileFor s (.refresh token) pair d').bind fun d' snapshot hd' h => ?_
      cases snapshot with
      | error e => exact h.error (List.prefix_refl d')
      | ok snapshot => exact leads_retire (hreads.mono (hd.trans hd')) pair snapshot
  · exact Program.leads_bind fun _ _ hd =>
      blames_of_refuted (.unknown (c := .findById claims.user) trivial (hd.subset hmissing))
  · cases e with
    | notFound => exact absurd rfl he
    | timeout => exact blames_of_not nofun
    | database text => exact blames_of_not nofun

theorem leads_refresh (s : Issuer) (token : String) :
    (s.refresh token).Leads (Blames s (.refresh token)) [] := by
  unfold Issuer.refresh
  split
  · exact blames_of_not nofun
  · exact leads_checkToken .refresh (fun _ _ hreads => leads_rotate hreads)
      (fun _ _ h => blames_of_refuted h) fun _ e => blames_cache e

theorem leads_verify (s : Issuer) (token : String) :
    (s.verify token).Leads (Blames s (.verify token)) [] := by
  unfold Issuer.verify
  split
  · exact blames_of_not nofun
  · refine leads_checkToken .verify (fun d' claims _ => ?_) (fun _ _ h => blames_of_refuted h)
      fun _ e => blames_cache e
    refine (leads_profile s (.verify token) claims.user d').bind fun d' profile _ h => ?_
    cases profile with
    | error e => exact h.error (List.prefix_refl d')
    | ok profile => exact blames_ok _

theorem leads_logout (s : Issuer) (identity : Subject) :
    (s.logout identity).Leads (Blames s (.logout identity)) [] := by
  refine Program.leads_bind fun d' count _ => ?_
  cases count with
  | ok n => exact blames_ok _
  | error e => exact blames_cache e

/-- An operation blames its caller only with evidence. -/
theorem Operation.leads_task (s : Issuer) (op : Operation) :
    (op.task s).Leads (fun d => Justified s d op) [] := by
  cases op with
  | login email password => exact leads_login s email password
  | refresh token => exact leads_refresh s token
  | verify token => exact leads_verify s token
  | logout identity => exact leads_logout s identity
  | _ => exact (Program.leads_onward _ _).imp (fun _ _ h => h) fun _ _ _ => trivial

end Session

end SessionLedger
