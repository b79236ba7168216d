import SessionLedger.Proofs.Session.Calls

/-! Password hashes in session operations. A row comes with its hash, and all that an operation does
with it is to have it compared with a password. So two programs of one operation that get replies
which differ in hashes alone go on alike, as long as a password fits for the one just when it fits
for the other. -/
namespace SessionLedger
open Session Token User

/-! ## Replies -/

/-- The row without its hash. -/
def User.Row.withoutHash (u : Row) : Row :=
  { u with passwordHash := "" }

/-- An answer of the store of users without the hash that it may have. -/
def User.Directory.Call.withoutHash :
    (c : Directory.Call) → Except DirectoryError c.Answer → Except DirectoryError c.Answer
  | .findByEmail _, answer => answer.map Row.withoutHash
  | .findById _, answer => answer.map Row.withoutHash
  | .project _, answer => answer
  | .recordLogin .., answer => answer

/-- An answer of one of the two stores without the hash that it may have. -/
def Remote.Call.withoutHash : (c : Remote.Call) → c.Reply → c.Reply
  | .users c, reply => c.withoutHash reply
  | .store _, reply => reply

/-- A reply without the hash that it may have. -/
def Effect.Call.withoutHash : (c : Effect.Call) → c.Reply → c.Reply
  | .remote c _, reply => reply.map c.withoutHash
  | .clock, reply => reply
  | .uuid, reply => reply
  | .compare _, reply => reply

/-- No reply to the call has a hash. -/
def Effect.Call.IsHashFree (c : Effect.Call) : Prop :=
  ∀ reply : c.Reply, c.withoutHash reply = reply

namespace Effect.Call
variable {limit : Option Nat} {user : Int64}

theorem isHashFree_clock : IsHashFree .clock := fun _ => rfl

theorem isHashFree_uuid : IsHashFree .uuid := fun _ => rfl

theorem isHashFree_store (c : Store.Call) : IsHashFree (.remote (.store c) limit) :=
  fun reply => congrFun Option.map_id reply

theorem isHashFree_project : IsHashFree (.remote (.users (.project user)) limit) :=
  fun reply => congrFun Option.map_id reply

theorem isHashFree_recordLogin (instant : Time.Stamp) :
    IsHashFree (.remote (.users (.recordLogin user instant)) limit) :=
  fun reply => congrFun Option.map_id reply

end Effect.Call

/-! ## Comparisons -/

/-- The password fits; why it does not is left out. -/
def Password.Verdict.isFit : Verdict → Bool
  | .fits => true
  | .differs => false
  | .unusable => false

/-- A check of a password does not tell why it does not fit. -/
theorem Session.admission_congr {outcome outcome' : Except String Password.Verdict}
    (h : outcome.map Password.Verdict.isFit = outcome'.map Password.Verdict.isFit) :
    admission outcome = admission outcome' := by
  have hok : ∀ verdict : Password.Verdict, admission (.ok verdict) =
      if verdict.isFit then .ok () else .error .wrongPassword := by
    intro verdict
    cases verdict <;> rfl
  cases outcome with
  | error text =>
    cases outcome' with
    | error text' => rw [Except.error.inj h]
    | ok verdict' => cases h
  | ok verdict =>
    cases outcome' with
    | error text' => cases h
    | ok verdict' => rw [hok, hok, Except.ok.inj h]

/-! ## Programs -/

/-- Two programs differ in hashes alone: in those that they have compared with one password, and in
what they go on with after replies that differ so. Of what two hashes have come to they may only be
told alike whether the password fits; a hash may differ from the password and the other be none. -/
inductive Task.Alike {α : Type} : Task α → Task α → Prop
  | done (a : α) : Alike (.done a) (.done a)
  | halt : Alike .halt .halt
  | call (c : Effect.Call) {next next' : c.Reply → Task α}
      (h : ∀ reply reply', c.withoutHash reply = c.withoutHash reply' →
        Alike (next reply) (next' reply')) : Alike (.call c next) (.call c next')
  | compare (password hash hash' : String) {next next' : Except String Password.Verdict → Task α}
      (h : ∀ outcome outcome', outcome.map Password.Verdict.isFit =
        outcome'.map Password.Verdict.isFit → Alike (next outcome) (next' outcome')) :
      Alike (.call (.compare (.genuine password hash)) next)
        (.call (.compare (.genuine password hash')) next')

namespace Task
variable {α β : Type}

theorem Alike.bind {p p' : Task α} {f f' : α → Task β} (hp : Alike p p')
    (hf : ∀ a, Alike (f a) (f' a)) : Alike (p.bind f) (p'.bind f') := by
  induction hp with
  | done a => exact hf a
  | halt => exact .halt
  | call c _ ih => exact .call c ih
  | compare password hash hash' _ ih => exact .compare password hash hash' ih

/-- A program that is told no hashes is like itself. -/
theorem alike_of_only {p : Task α} (h : p.Only Effect.Call.IsHashFree) : Alike p p := by
  induction p with
  | done a => exact .done a
  | halt => exact .halt
  | call c next ih =>
    refine .call c fun reply reply' heq => ?_
    rw [h.1, h.1] at heq
    subst heq
    exact ih reply (h.2 reply)

end Task

/-! ## Operations -/

namespace Session
variable {s : Issuer} {user : Int64} {pair : Pair} {α : Type}

open Effect.Call

/-- After a call to the store of users the programs go on with answers that differ in hashes
alone; if the call was given up they agree on that. -/
theorem alike_askUsers_bind {c : Directory.Call}
    {f f' : Except DirectoryError c.Answer → Task α}
    (h : ∀ answer answer', c.withoutHash answer = c.withoutHash answer' →
      Task.Alike (f answer) (f' answer')) :
    Task.Alike ((s.askUsers c).bind f) ((s.askUsers c).bind f') := by
  refine .call (.remote (.users c) (some s.usersLimit)) fun reply reply' heq => ?_
  match reply, reply' with
  | none, none => exact h _ _ rfl
  | some answer, some answer' => exact h _ _ (Option.some.inj heq)

theorem hashFree_mint : (s.mint user).Only IsHashFree :=
  only_mint isHashFree_uuid isHashFree_clock

theorem hashFree_registerFresh : (s.registerFresh pair).Only IsHashFree :=
  only_registerFresh isHashFree_clock (fun _ _ _ _ => isHashFree_store _) (isHashFree_store _)

theorem hashFree_profile : (s.profile user).Only IsHashFree :=
  only_profile isHashFree_project (fun _ => isHashFree_store _) (isHashFree_store _)

theorem hashFree_profileFor : (s.profileFor pair).Only IsHashFree :=
  only_profileFor (isHashFree_store _) isHashFree_project (fun _ => isHashFree_store _)
    (isHashFree_store _)

theorem hashFree_noteLogin : (s.noteLogin user).Only IsHashFree :=
  only_noteLogin isHashFree_clock isHashFree_recordLogin (isHashFree_store _)

theorem hashFree_revoke {accessUuid refreshUuid : String} :
    (s.revoke accessUuid refreshUuid).Only IsHashFree :=
  only_revoke (isHashFree_store _)

theorem hashFree_checkToken {token : String} {kind : Kind} :
    (s.checkToken token kind).Only IsHashFree :=
  only_checkToken isHashFree_clock fun _ => isHashFree_store _

theorem hashFree_openFor : (s.openFor user).Only IsHashFree := by
  refine hashFree_mint.bind fun pair => hashFree_registerFresh.bind fun registered => ?_
  match registered with
  | .error e => trivial
  | .ok () =>
    refine hashFree_noteLogin.bind fun _ => hashFree_profileFor.bind fun profile => ?_
    cases profile <;> trivial

theorem hashFree_retire {claims : Claims} {snapshot : Snapshot} :
    (s.retire claims pair snapshot).Only IsHashFree := by
  refine hashFree_revoke.bind fun count => ?_
  match count with
  | .ok 0 => exact (only_discard (isHashFree_store _)).bind fun _ => trivial
  | .ok (n + 1) => trivial
  | .error e => trivial

/-- Two answers with a row that differ in hashes alone are one error, or two rows that differ in
their hashes. -/
theorem eq_error_or_ok {answer answer' : Except DirectoryError Row}
    (h : answer.map Row.withoutHash = answer'.map Row.withoutHash) :
    (∃ e, answer = .error e ∧ answer' = .error e) ∨
      ∃ row row', answer = .ok row ∧ answer' = .ok row' ∧ row.withoutHash = row'.withoutHash := by
  cases answer with
  | error e =>
    cases answer' with
    | error e' =>
      cases h
      exact .inl ⟨e, rfl, rfl⟩
    | ok row' => cases h
  | ok row =>
    cases answer' with
    | error e' => cases h
    | ok row' => exact .inr ⟨row, row', rfl, rfl, Except.ok.inj h⟩

/-- A login has the hash of the row compared, and goes on with the identifier of the row. -/
theorem alike_login (s : Issuer) (email password : String) :
    Task.Alike (s.login email password) (s.login email password) := by
  unfold Issuer.login
  split
  · exact .done _
  · refine alike_askUsers_bind fun answer answer' heq => ?_
    rcases eq_error_or_ok heq with ⟨e, rfl, rfl⟩ | ⟨row, row', rfl, rfl, hrow⟩
    · cases e with
      | notFound => exact .call (.compare (.decoy s.decoyCost)) fun _ _ _ => .done _
      | timeout => exact .done _
      | database text => exact .done _
    · have hid : row.id = row'.id := by
        show row.withoutHash.id = row'.withoutHash.id
        rw [hrow]
      refine .compare password row.passwordHash row'.passwordHash fun outcome outcome' hfits => ?_
      simp only [Program.pure_eq, Program.done_bind, admission_congr hfits, hid]
      cases admission outcome' with
      | ok => exact Task.alike_of_only hashFree_openFor
      | error e => exact .done _

/-- A rotation looks the user up, but it does not use the row. -/
theorem alike_rotate (s : Issuer) (claims : Claims) :
    Task.Alike (s.rotate claims) (s.rotate claims) := by
  refine alike_askUsers_bind fun answer answer' heq => ?_
  rcases eq_error_or_ok heq with ⟨e, rfl, rfl⟩ | ⟨row, row', rfl, rfl, -⟩
  · cases e with
    | notFound =>
      exact (Task.alike_of_only (only_forgetUser (isHashFree_store _) (isHashFree_store _))).bind
        fun _ => .done _
    | timeout => exact .done _
    | database text => exact .done _
  · refine Task.alike_of_only (hashFree_mint.bind fun pair =>
      hashFree_registerFresh.bind fun registered => ?_)
    match registered with
    | .error e => trivial
    | .ok () =>
      refine hashFree_profileFor.bind fun profile => ?_
      match profile with
      | .error e => trivial
      | .ok snapshot => exact hashFree_retire

theorem alike_refresh (s : Issuer) (token : String) :
    Task.Alike (s.refresh token) (s.refresh token) := by
  unfold Issuer.refresh
  split
  · exact .done _
  · refine (Task.alike_of_only hashFree_checkToken).bind fun checked => ?_
    match checked with
    | .error (.rejected reason) => exact .done _
    | .error (.cache e) => exact .done _
    | .ok claims => exact alike_rotate s claims

theorem hashFree_verify (s : Issuer) (token : String) : (s.verify token).Only IsHashFree := by
  unfold Issuer.verify
  split
  · trivial
  · refine hashFree_checkToken.bind fun checked => ?_
    match checked with
    | .error (.rejected reason) => trivial
    | .error (.cache e) => trivial
    | .ok claims =>
      refine hashFree_profile.bind fun profile => ?_
      cases profile <;> trivial

/-- The program of each operation is like itself: what it does with a hash is to have it
compared. -/
theorem Operation.alike_task (s : Issuer) (op : Operation) :
    Task.Alike (op.task s) (op.task s) := by
  cases op with
  | login email password => exact alike_login s email password
  | refresh token => exact alike_refresh s token
  | verify token => exact Task.alike_of_only (hashFree_verify s token)
  | logout identity =>
    refine Task.alike_of_only (hashFree_revoke.bind fun count => ?_)
    cases count <;> trivial
  | profile user => exact Task.alike_of_only hashFree_profile
  | dropProfile user => exact Task.alike_of_only (only_dropProfile (isHashFree_store _))
  | mint user => exact Task.alike_of_only hashFree_mint
  | register pair =>
    exact Task.alike_of_only
      (only_register isHashFree_clock fun _ _ _ _ => isHashFree_store _)
  | revoke accessUuid refreshUuid => exact Task.alike_of_only hashFree_revoke
  | checkToken token kind => exact Task.alike_of_only hashFree_checkToken
  | issue kind subject ttl =>
    exact Task.alike_of_only ((only_clock isHashFree_clock).bind fun _ => by simp)
  | parse token kind =>
    exact Task.alike_of_only ((only_clock isHashFree_clock).bind fun _ => trivial)
  | cacheSet key value lifetime => exact Task.alike_of_only (only_ask (isHashFree_store _))
  | cacheGet key => exact Task.alike_of_only (only_get (isHashFree_store _))
  | cacheDelete keys =>
    refine Task.alike_of_only ?_
    show (Cache.delete s.cacheLimit keys).Only IsHashFree
    unfold Cache.delete
    split
    · trivial
    · exact only_ask (isHashFree_store _)
  | cachePing => exact Task.alike_of_only (only_ask (isHashFree_store _))
  | cacheSetSnapshot key snapshot lifetime =>
    exact Task.alike_of_only (only_ask (isHashFree_store _))
  | cacheGetSnapshot key =>
    refine Task.alike_of_only ((only_get (isHashFree_store _)).bind fun text => ?_)
    match text with
    | .ok text =>
      dsimp only
      split <;> trivial
    | .error e => trivial
  | store c => exact Task.alike_of_only (only_ask (isHashFree_store _))

end Session

end SessionLedger
