import SessionLedger.Proofs.Session.Conducted

/-! Each session operation keeps to its conduct, from its first call to its result, and so does
each operation in a run. -/
namespace SessionLedger
open Session Token User Text

variable {s : Issuer} {op : Operation} {d : Diary} {pair : Pair} {user : Int64}

namespace Session

/-! ## Fresh pairs -/

theorem keeps_registerFresh {ends : Diary → Except SessionError Unit → Prop}
    (hmints : Mints s d op pair) (hnew : written d = []) (hkept : removed d = [])
    (hok : ∀ d', Continues d d' → removed d' = [] → Registers s d' pair → ends d' (.ok ()))
    (herr : ∀ d' e, Continues d d' → ¬ Calm d' → e.IsBare → ends d' (.error e)) :
    (s.registerFresh pair).Keeps (May s op) ends d := by
  simp only [Issuer.registerFresh, Program.bind_eq, Program.keeps_bind]
  refine keeps_register hmints hnew hkept hok fun d' e hd _ hcalm => ?_
  simp only [Program.keeps_bind]
  refine keeps_discard (hmints.mono hd) fun reply => ?_
  refine herr _ (.registerFailed e) (hd.trans (continues_append rfl)) ?_
    (by simp [SessionError.IsBare])
  exact fun hcalm' => hcalm (hcalm'.of_subset (List.subset_append_left _ _))

theorem keeps_profileFor {ends : Diary → Except SessionError Snapshot → Prop}
    (hmints : Mints s d op pair) (huser : Concerned s d op pair.user)
    (hok : ∀ d' snapshot, Continues d d' → removed d' = removed d → ends d' (.ok snapshot))
    (herr : ∀ d' e, Continues d d' → ¬ Calm d' → e.IsBare → ends d' (.error e)) :
    (s.profileFor pair).Keeps (May s op) ends d := by
  simp only [Issuer.profileFor, Program.bind_eq, Program.keeps_bind]
  refine keeps_profile huser (fun d' snapshot hd hremoved => ?_)
    fun d' e hd _ hcalm hbare => ?_
  · exact hok d' snapshot hd hremoved
  · simp only [Program.keeps_bind]
    refine keeps_discard (hmints.mono hd) fun reply => ?_
    refine herr _ e (hd.trans (continues_append rfl)) ?_ hbare
    exact fun hcalm' => hcalm (hcalm'.of_subset (List.subset_append_left _ _))

/-! ## Login -/

theorem keeps_noteLogin {ends : Diary → Unit → Prop} (huser : Concerned s d op user)
    (h : ∀ d', Continues d d' → ends d' ()) :
    (s.noteLogin user).Keeps (May s op) ends d := by
  simp only [Issuer.noteLogin, Program.bind_eq]
  refine keeps_clock .clock fun now => ?_
  simp only [Program.keeps_bind, Program.keeps_orHalt]
  intro instant _
  refine keeps_askUsers (.users _ _) (fun _ => ?_) fun reply e _ _ => ?_
  · simp only [Program.keeps_bind]
    refine keeps_dropProfile (huser.mono (by simp)) fun d' _ hd => h d' ?_
    exact ((continues_append rfl).trans (continues_append rfl)).trans hd
  · exact h _ ((continues_append rfl).trans (continues_append rfl))

theorem keeps_openFor {ends : Diary → Except SessionError Grant → Prop}
    (huser : Authenticated s d op user) (hconcerned : Concerned s d op user)
    (hdrawn : drawn d = []) (hnew : written d = []) (hkept : removed d = [])
    (hok : ∀ d' pair snapshot, Mints s d' op pair → Registers s d' pair →
      ends d' (.ok (pair.grant snapshot)))
    (herr : ∀ d' e, ends d' (.error e)) :
    (s.openFor user).Keeps (May s op) ends d := by
  simp only [Issuer.openFor, Program.bind_eq, Program.keeps_bind]
  refine keeps_mint huser hdrawn fun d₁ pair hd₁ hwritten hremoved hpair hmints => ?_
  refine keeps_registerFresh hmints (hwritten.trans hnew) (hremoved.trans hkept)
    (fun d₂ hd₂ _ hregisters => ?_) fun d₂ e _ _ _ => herr d₂ e
  simp only [Program.keeps_bind]
  have hconcerned₂ := hconcerned.mono (hd₁.trans hd₂.isPrefix)
  refine keeps_noteLogin hconcerned₂ fun d₃ hd₃ => ?_
  have hmints₃ := (hmints.mono hd₂).mono hd₃
  refine keeps_profileFor hmints₃ (hpair ▸ hconcerned₂.mono hd₃.isPrefix)
    (fun d₄ snapshot hd₄ _ => ?_) fun d₄ e _ _ _ => herr d₄ e
  exact hok d₄ pair snapshot (hmints₃.mono hd₄)
    ((hregisters.mono hd₃.isPrefix).mono hd₄.isPrefix)

theorem keeps_login (s : Issuer) (email password : String) :
    (s.login email password).Keeps (May s (.login email password))
      (fun d r => Tells s d (.login email password) r) [] := by
  simp only [Issuer.login]
  split
  · trivial
  · simp only [Program.bind_eq, Program.keeps_bind]
    refine keeps_askUsers (.users _ _) (fun row => ?_) fun reply e _ _ => ?_
    · dsimp only
      rw [Program.keeps_bind]
      refine keeps_checkPassword (.compare _) ?_ fun _ _ _ => trivial
      refine keeps_openFor (.login (by simp; rfl) (by simp)) (.login (List.prefix_append _ _))
        rfl rfl rfl ?_ fun _ _ => trivial
      exact fun d pair snapshot hmints hregisters => ⟨pair, snapshot, rfl, hmints, hregisters⟩
    · cases e with
      | notFound => exact ⟨.compare _, fun _ => trivial⟩
      | timeout => trivial
      | database text => trivial

/-! ## Rotation -/

theorem keeps_forgetUser {claims : Claims} {ends : Diary → Unit → Prop}
    (hmay : ∀ limit, May s op d
      (.remote (.store (.delete (s.pairKeys claims.accessUuid claims.refreshUuid))) limit))
    (huser : Concerned s d op claims.user) (h : ∀ d', Continues d d' → ends d' ()) :
    (s.forgetUser claims).Keeps (May s op) ends d := by
  simp only [Issuer.forgetUser, Program.bind_eq, Program.keeps_bind]
  have hdrop : ∀ reply, (s.dropProfile claims.user).Keeps (May s op)
      (fun d _ => ends d ()) (d ++ [s.removal claims.accessUuid claims.refreshUuid reply]) :=
    fun reply => keeps_dropProfile (huser.mono (List.prefix_append _ _)) fun d' _ hd =>
      h d' ((continues_append rfl).trans hd)
  exact keeps_revoke hmay (fun n => hdrop _) fun reply e _ => hdrop reply

theorem keeps_retire {token : String} {claims : Claims} {snapshot : Snapshot}
    (h : Rotates s d token claims pair) :
    (s.retire claims pair snapshot).Keeps (May s (.refresh token))
      (fun d r => Tells s d (.refresh token) r) d := by
  simp only [Issuer.retire, Program.bind_eq, Program.keeps_bind]
  refine keeps_revoke (fun limit => .retire limit rfl h.accepted) (fun n => ?_)
    fun reply e hreply => .incomplete h hreply
  cases n with
  | zero =>
    -- The old pair was gone, so the new one is dropped, whether that succeeds or not.
    simp only [Program.keeps_bind]
    refine keeps_discard (h.mints.mono (continues_append rfl)) fun reply => ?_
    rw [List.append_assoc]
    exact .outrun h
  | succ n => exact ⟨pair, snapshot, claims, d, n, rfl, h, rfl⟩

theorem keeps_rotate {token : String} {claims : Claims}
    (haccepted : Accepted s d token .refresh claims) (hdrawn : drawn d = [])
    (hnew : written d = []) (hkept : removed d = []) :
    (s.rotate claims).Keeps (May s (.refresh token))
      (fun d r => Tells s d (.refresh token) r) d := by
  simp only [Issuer.rotate, Program.bind_eq, Program.keeps_bind]
  refine keeps_askUsers (.users _ _) (fun row => ?_) fun reply e hreply _ => ?_
  · simp only [Program.keeps_bind]
    have hask : Inquires d (d ++ [⟨.remote (.users (.findById claims.user)) (some s.usersLimit),
        some (.ok row)⟩]) := inquires_append rfl rfl rfl
    refine keeps_mint (.refresh (haccepted.mono hask.isPrefix)) (hask.drawn.trans hdrawn)
      fun d₁ pair hd₁ hwritten hremoved hpair hmints => ?_
    have haccepted₁ := (haccepted.mono hask.isPrefix).mono hd₁
    refine keeps_registerFresh hmints (hwritten.trans (hask.written.trans hnew))
      (hremoved.trans (hask.removed.trans hkept)) (fun d₂ hd₂ hremoved₂ hregisters => ?_)
      fun d₂ e _ hcalm hbare => .disturbed hcalm hbare
    simp only [Program.keeps_bind]
    refine keeps_profileFor (hmints.mono hd₂)
      (hpair ▸ .refresh (haccepted₁.reads.mono hd₂.isPrefix))
      (fun d₃ snapshot hd₃ hremoved₃ => ?_) fun d₃ e _ hcalm hbare => .disturbed hcalm hbare
    have hd := hd₂.trans hd₃
    exact keeps_retire ⟨haccepted₁.mono hd.isPrefix, hmints.mono hd,
      hregisters.mono hd₃.isPrefix, hremoved₃.trans hremoved₂⟩
  · have hcalm : ¬ Calm (d ++ [⟨.remote (.users (.findById claims.user)) (some s.usersLimit),
        reply⟩]) := not_calm_users hreply
    cases e with
    | notFound =>
      -- Without the row of the user the old pair is removed at once.
      simp only [Program.keeps_bind]
      have haccepted' := haccepted.mono (List.prefix_append d [⟨.remote (.users (.findById
        claims.user)) (some s.usersLimit), reply⟩])
      refine keeps_forgetUser (fun limit => .retire limit rfl haccepted')
        (.refresh haccepted'.reads) fun d' hd => ?_
      refine .disturbed (fun hcalm' => hcalm (hcalm'.of_subset hd.isPrefix.subset)) ?_
      simp [SessionError.IsBare]
    | timeout => exact .disturbed hcalm (by simp [SessionError.IsBare])
    | database text => exact .disturbed hcalm (by simp [SessionError.IsBare])

theorem keeps_refresh (s : Issuer) (token : String) :
    (s.refresh token).Keeps (May s (.refresh token))
      (fun d r => Tells s d (.refresh token) r) [] := by
  simp only [Issuer.refresh]
  split
  · next hblank => exact .blank hblank
  · simp only [Program.bind_eq, Program.keeps_bind]
    refine keeps_checkToken .clock (fun _ _ _ => .get _ _) (fun d claims hd haccepted => ?_)
      fun d e hd hunaccepted => ?_
    · exact keeps_rotate haccepted hd.drawn hd.written hd.removed
    · cases e with
      | rejected reason => exact .unaccepted hunaccepted hd.drawn hd.removed
      | cache cause =>
        cases hunaccepted with
        | disturbed hcalm => exact .disturbed hcalm (by simp [SessionError.IsBare])

/-! ## The other operations -/

theorem keeps_verify (s : Issuer) (token : String) :
    (s.verify token).Keeps (May s (.verify token)) (fun d r => Tells s d (.verify token) r) [] := by
  simp only [Issuer.verify]
  split
  · trivial
  · simp only [Program.bind_eq, Program.keeps_bind]
    refine keeps_checkToken .clock (fun _ _ _ => .get _ _) (fun d claims hd haccepted => ?_)
      fun d e hd _ => ?_
    · simp only [Program.keeps_bind]
      refine keeps_profile (.verify haccepted.reads) (fun d' snapshot hd' _ => ?_)
        fun _ _ _ _ _ _ => trivial
      exact ⟨claims, haccepted.mono hd'.isPrefix, rfl⟩
    · cases e with
      | rejected reason => trivial
      | cache cause => trivial

theorem keeps_logout (s : Issuer) (identity : Subject) :
    (s.logout identity).Keeps (May s (.logout identity))
      (fun d r => Tells s d (.logout identity) r) [] := by
  simp only [Issuer.logout, Program.bind_eq, Program.keeps_bind]
  exact keeps_revoke (fun limit => .revoke limit rfl) (fun n => ⟨n, rfl⟩) fun _ _ hreply =>
    not_calm_store (d := []) hreply

/-- Every session operation does only what it may, and its result tells what it has done. -/
theorem Operation.keeps_task (s : Issuer) {op : Operation} (hop : op.IsSession) :
    (op.task s).Keeps (May s op) (fun d r => Tells s d op r) [] := by
  cases op with
  | login email password => exact keeps_login s email password
  | refresh token => exact keeps_refresh s token
  | verify token => exact keeps_verify s token
  | logout identity => exact keeps_logout s identity
  | profile user =>
    exact keeps_profile (.profile user) (fun _ _ _ _ => trivial) fun _ _ _ _ _ _ => trivial
  | dropProfile user => exact keeps_dropProfile (.dropProfile user) fun _ _ _ => trivial
  | _ => exact hop.elim

end Session

namespace Traffic
variable {w : World} {T : Traffic} {log log₁ log₂ : List Event} {i : Nat}

/-- Each call in the log of a run is one that its operation may make. -/
theorem Steps.may {c : Effect.Call} {reply : c.Reply}
    (h : Run s w (log₁ ++ .called i c reply :: log₂) T) :
    ∃ op, .started i op ∈ log₁ ∧ May s op (diary log₁ i) c := by
  obtain ⟨op, next, hop, hstart, hafter⟩ := h.called
  exact ⟨op, hstart, ((Operation.keeps_task s hop).after hafter).1⟩

/-- Each result in the log of a run tells what its operation has done. -/
theorem Steps.tells {result : op.Result}
    (h : Run s w (log₁ ++ .returned i op result :: log₂) T) :
    .started i op ∈ log₁ ∧ Tells s (diary log₁ i) op result := by
  obtain ⟨hop, hstart, hafter⟩ := h.returned
  exact ⟨hstart, (Operation.keeps_task s hop).after hafter⟩

/-- Nothing comes after the result of an operation in its diary. -/
theorem Steps.tells_of_mem {result : op.Result} (h : Run s w log T)
    (hmem : .returned i op result ∈ log) :
    .started i op ∈ log ∧ Tells s (diary log i) op result := by
  obtain ⟨log₁, log₂, rfl⟩ := List.append_of_mem hmem
  rw [h.diary_of_end rfl]
  exact ⟨List.mem_append_left _ h.tells.1, h.tells.2⟩

end Traffic

end SessionLedger
