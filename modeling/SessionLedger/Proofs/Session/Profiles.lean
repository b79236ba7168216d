import SessionLedger.Proofs.Session.Calls
import SessionLedger.Proofs.Session.Conducted

/-! What a session operation does with cached profiles, told from its own diary. A profile is cached
only right after it has been read from the row of its user, and a login that has been kept in the
row drops the cached profile before it does anything else. A profile that is handed out has been
found in the cache or read from the row. -/
namespace SessionLedger
open Session Token User

/-- The last exchange has kept the instant of a login in the row of a user. -/
def Noted (d : Diary) (user : Int64) : Prop :=
  ∃ e instant limit,
    d = e ++ [⟨.remote (.users (.recordLogin user instant)) limit, some (.ok ())⟩]

/-- The last exchange has read the row of a user, and the value is their profile under its key. -/
def Rebuilt (s : Issuer) (d : Diary) (key value : String) : Prop :=
  ∃ e user projection limit,
    d = e ++ [⟨.remote (.users (.project user)) limit, some (.ok projection)⟩] ∧
    key = s.profileKey user ∧ value = (Snapshot.ofProjection projection).encode

/-- No login is noted whose profile has still to be dropped. -/
def Tidy (d : Diary) : Prop :=
  ∀ user, ¬ Noted d user

/-- What an operation may ask for next, as far as cached profiles go. -/
structure Minds (s : Issuer) (d : Diary) (c : Effect.Call) : Prop where
  caches : ∀ {key value lifetime limit}, c = .remote (.store (.set key value lifetime)) limit →
    s.IsTokenKey key ∨ Rebuilt s d key value
  drops : ∀ {user}, Noted d user →
    ∃ limit, c = .remote (.store (.delete [s.profileKey user])) limit

/-- An operation has looked up the profile of a user. -/
inductive Looked (s : Issuer) (d : Diary) (user : Int64) : Snapshot → Prop
  | cached {text snapshot} (h : Stored d (.get (s.profileKey user)) (some text))
      (hread : Snapshot.decode? text = some snapshot) : Looked s d user snapshot
  | rebuilt {projection limit}
      (h : ⟨.remote (.users (.project user)) limit, some (.ok projection)⟩ ∈ d) :
      Looked s d user (.ofProjection projection)

/-- The profiles that an operation results in have been looked up. The one in a grant is that of the
user of the pair. -/
def Shows (s : Issuer) (d : Diary) : (op : Operation) → op.Result → Prop
  | .verify _, .ok verified => Looked s d verified.identity.user verified.user
  | .profile user, .ok snapshot => Looked s d user snapshot
  | op, result => ∀ grant, Hands op result grant → ∃ now subject pair snapshot,
    s.pairAt? now subject = some pair ∧ grant = pair.grant snapshot ∧
      Looked s d pair.user snapshot

/-- The call caches no profile and notes no login. -/
def Effect.Call.IsPlain (s : Issuer) : Effect.Call → Prop
  | .remote (.store (.set key _ _)) _ => s.IsTokenKey key
  | .remote (.users (.recordLogin ..)) _ => False
  | _ => True

variable {s : Issuer} {d d' : Diary} {c : Effect.Call} {user : Int64} {pair : Pair}

/-! ## How diaries go on -/

theorem noted_append_iff {instant : Time.Stamp} {limit : Option Nat} {user' : Int64} :
    Noted (d ++ [⟨.remote (.users (.recordLogin user instant)) limit, some (.ok ())⟩]) user' ↔
      user' = user := by
  constructor
  · rintro ⟨e, instant', limit', heq⟩
    cases (List.append_inj' heq rfl).2
    rfl
  · rintro rfl
    exact ⟨d, instant, limit, rfl⟩

theorem tidy_nil : Tidy [] := by
  rintro user ⟨e, instant, limit, heq⟩
  simp at heq

/-- Only a login that has been kept leaves something to be done. -/
theorem tidy_snoc {r : c.Reply}
    (h : ∀ user instant limit, (⟨c, r⟩ : Effect.interface.Exchange) ≠
      ⟨.remote (.users (.recordLogin user instant)) limit, some (.ok ())⟩) :
    Tidy (d ++ [⟨c, r⟩]) := by
  rintro user ⟨e, instant, limit, heq⟩
  exact h user instant limit (List.singleton_inj.mp (List.append_inj' heq rfl).2)

theorem tidy_store {c : Store.Call} {limit : Option Nat}
    {reply : Option (Except Store.Refusal c.Answer)} :
    Tidy (d ++ [⟨.remote (.store c) limit, reply⟩]) :=
  tidy_snoc fun user instant limit heq => by cases heq

theorem Effect.Call.IsPlain.tidy (hc : c.IsPlain s) (r : c.Reply) : Tidy (d ++ [⟨c, r⟩]) :=
  tidy_snoc fun user instant limit heq => by
    cases heq
    exact hc

theorem Tidy.minds (hd : Tidy d) (hc : c.IsPlain s) : Minds s d c where
  caches heq := by
    subst heq
    exact .inl hc
  drops h := absurd h (hd _)

theorem Looked.mono {snapshot : Snapshot} (h : Looked s d user snapshot) (hd : d <+: d') :
    Looked s d' user snapshot := by
  cases h with
  | cached h hread => exact .cached (h.mono hd) hread
  | rebuilt h => exact .rebuilt (hd.subset h)

/-- The profile in a grant has been looked up for the user of the pair. -/
theorem Shows.hands {op : Operation} {result : op.Result} {grant : Grant}
    (h : Shows s d op result) (hgrant : Hands op result grant) : ∃ now subject pair snapshot,
      s.pairAt? now subject = some pair ∧ grant = pair.grant snapshot ∧
        Looked s d pair.user snapshot := by
  cases hgrant with
  | login => exact h _ .login
  | refresh => exact h _ .refresh
  | incomplete => exact h _ .incomplete

namespace Session

/-! ## Parts of operations -/

/-- A part with only plain calls leaves nothing to be done. -/
theorem minds_of_only {α : Type} {p : Task α} {ends : Diary → α → Prop}
    (hp : p.Only (Effect.Call.IsPlain s)) (hd : Tidy d)
    (h : ∀ d' a, Tidy d' → d <+: d' → ends d' a) : p.Keeps (Minds s) ends d := by
  have hkeeps := hp.keeps_and (I := fun d' => Tidy d' ∧ d <+: d')
    (fun d' c r hd' hc => ⟨hc.tidy r, hd'.2.trans (List.prefix_append _ _)⟩)
    ⟨hd, List.prefix_rfl⟩
  exact hkeeps.imp (fun d' c hc => hc.1.1.minds hc.2) fun d' a hd' => h d' a hd'.1 hd'.2

theorem minds_rebuildProfile {ends : Diary → Except SessionError Snapshot → Prop}
    (hd : Tidy d) (hok : ∀ d' snapshot, Tidy d' → d <+: d' → Looked s d' user snapshot →
      ends d' (.ok snapshot))
    (herr : ∀ d' e, Tidy d' → e.IsBare → ends d' (.error e)) :
    (s.rebuildProfile user).Keeps (Minds s) ends d := by
  simp only [Issuer.rebuildProfile, Program.bind_eq, Program.keeps_bind]
  have hplain : (Effect.Call.remote (.users (.project user)) (some s.usersLimit)).IsPlain s :=
    trivial
  refine keeps_askUsers (hd.minds hplain) (fun projection => ?_) fun reply e _ _ => ?_
  · simp only [Cache.setSnapshot, Cache.set, Program.keeps_bind]
    have hset : Minds s (d ++ [⟨.remote (.users (.project user)) (some s.usersLimit),
        some (.ok projection)⟩])
        (.remote (.store (.set (s.profileKey user) (Snapshot.ofProjection projection).encode 0))
          (some s.cacheLimit)) := by
      refine ⟨fun heq => ?_, fun h => absurd h (hplain.tidy _ _)⟩
      cases heq
      exact .inr ⟨d, user, projection, _, rfl, rfl, rfl⟩
    have hlooked : ∀ x, Looked s ((d ++ [⟨.remote (.users (.project user)) (some s.usersLimit),
        some (.ok projection)⟩]) ++ [x]) user (.ofProjection projection) := fun x =>
      .rebuilt (List.mem_append_left _ (List.mem_append_right d (List.mem_singleton_self _)))
    exact keeps_ask hset (fun _ => hok _ _ tidy_store (by simp) (hlooked _))
      fun reply' e _ _ => hok _ _ tidy_store (by simp) (hlooked _)
  · exact herr _ _ (hplain.tidy _) (by simp [SessionError.IsBare])

theorem minds_profile {ends : Diary → Except SessionError Snapshot → Prop}
    (hd : Tidy d) (hok : ∀ d' snapshot, Tidy d' → d <+: d' → Looked s d' user snapshot →
      ends d' (.ok snapshot))
    (herr : ∀ d' e, Tidy d' → e.IsBare → ends d' (.error e)) :
    (s.profile user).Keeps (Minds s) ends d := by
  have hrebuild : ∀ reply, (s.rebuildProfile user).Keeps (Minds s) ends
      (d ++ [⟨.remote (.store (.get (s.profileKey user))) (some s.cacheLimit), reply⟩]) :=
    fun reply => minds_rebuildProfile tidy_store
      (fun d' snapshot hd' hprefix => hok d' snapshot hd' ((List.prefix_append _ _).trans hprefix))
      herr
  simp only [Issuer.profile, Cache.getSnapshot, Program.bind_eq, Program.keeps_bind]
  refine keeps_get (hd.minds trivial) (fun text => ?_) (hrebuild _) fun reply e _ _ => ?_
  · dsimp only
    split
    · next snapshot hread =>
      exact hok _ _ tidy_store (List.prefix_append _ _)
        (.cached ⟨_, List.mem_append_right d (List.mem_singleton_self _)⟩ hread)
    · exact hrebuild _
  · cases e with
    | notFound => exact hrebuild _
    | serialization => exact hrebuild _
    | timeout => exact herr _ _ tidy_store (by simp [SessionError.IsBare])
    | unavailable reason => exact herr _ _ tidy_store (by simp [SessionError.IsBare])

/-- The removal of the cached profile follows at once on a login that has been kept. -/
theorem minds_noteLogin {ends : Diary → Unit → Prop} (hd : Tidy d)
    (h : ∀ d', Tidy d' → d <+: d' → ends d' ()) :
    (s.noteLogin user).Keeps (Minds s) ends d := by
  have hplain : (Effect.Call.clock).IsPlain s := trivial
  simp only [Issuer.noteLogin, Program.bind_eq]
  refine keeps_clock (hd.minds hplain) fun now => ?_
  simp only [Program.keeps_bind, Program.keeps_orHalt]
  intro instant _
  have hclock : Tidy (d ++ [⟨.clock, now⟩]) := hplain.tidy now
  have hrecord : Minds s (d ++ [⟨.clock, now⟩])
      (.remote (.users (.recordLogin user instant)) (some s.usersLimit)) :=
    ⟨fun heq => (by cases heq), fun hnoted => absurd hnoted (hclock _)⟩
  refine keeps_askUsers hrecord (fun _ => ?_) fun reply e hreply _ => ?_
  · simp only [Issuer.dropProfile, Program.bind_eq, Program.keeps_bind]
    have hdrop : Minds s ((d ++ [⟨.clock, now⟩]) ++
        [⟨.remote (.users (.recordLogin user instant)) (some s.usersLimit), some (.ok ())⟩])
        (.remote (.store (.delete [s.profileKey user])) (some s.cacheLimit)) := by
      refine ⟨fun heq => (by cases heq), fun hnoted => ?_⟩
      rw [noted_append_iff.mp hnoted]
      exact ⟨_, rfl⟩
    exact keeps_ask hdrop (fun n => h _ tidy_store (by simp))
      fun reply e _ _ => h _ tidy_store (by simp)
  · refine h _ (tidy_snoc fun user' instant' limit' heq => ?_) (by simp)
    cases heq
    exact hreply () rfl

theorem minds_mint {ends : Diary → Pair → Prop} (hd : Tidy d)
    (h : ∀ d' pair now subject, Tidy d' → s.pairAt? now subject = some pair → ends d' pair) :
    (s.mint user).Keeps (Minds s) ends d := by
  have huuid : (Effect.Call.uuid).IsPlain s := trivial
  have hclock : (Effect.Call.clock).IsPlain s := trivial
  simp only [Issuer.mint, Program.bind_eq]
  refine keeps_uuid (hd.minds huuid) fun a => keeps_uuid ((huuid.tidy a).minds huuid) fun r => ?_
  refine keeps_clock ((huuid.tidy r).minds hclock) fun now => ?_
  rw [Program.keeps_orHalt]
  exact fun pair hpair => h _ pair now _ (hclock.tidy now) hpair

theorem minds_registerFresh {ends : Diary → Except SessionError Unit → Prop} (hd : Tidy d)
    (hok : ∀ d', Tidy d' → ends d' (.ok ()))
    (herr : ∀ d' e, Tidy d' → e.IsBare → ends d' (.error e)) :
    (s.registerFresh pair).Keeps (Minds s) ends d := by
  simp only [Issuer.registerFresh, Program.bind_eq, Program.keeps_bind]
  have hplain : (s.register pair).Only (Effect.Call.IsPlain s) :=
    only_register trivial fun _ hkey _ _ => Issuer.isTokenKey_of_mem hkey
  refine minds_of_only hplain hd fun d' registered hd' _ => ?_
  cases registered with
  | ok => exact hok d' hd'
  | error e =>
    simp only [Program.keeps_bind]
    refine minds_of_only (only_discard trivial) hd' fun d'' _ hd'' _ => ?_
    exact herr d'' _ hd'' (by simp [SessionError.IsBare])

theorem minds_profileFor {ends : Diary → Except SessionError Snapshot → Prop} (hd : Tidy d)
    (hok : ∀ d' snapshot, Tidy d' → Looked s d' pair.user snapshot → ends d' (.ok snapshot))
    (herr : ∀ d' e, Tidy d' → e.IsBare → ends d' (.error e)) :
    (s.profileFor pair).Keeps (Minds s) ends d := by
  simp only [Issuer.profileFor, Program.bind_eq, Program.keeps_bind]
  refine minds_profile hd (fun d' snapshot hd' _ => hok d' snapshot hd') fun d' e hd' hbare => ?_
  simp only [Program.keeps_bind]
  exact minds_of_only (only_discard trivial) hd' fun d'' _ hd'' _ => herr d'' e hd'' hbare

/-! ## Operations -/

/-- The program minds cached profiles up to its end, and its result shows what it has looked up. -/
abbrev KeepsProfiles (s : Issuer) (op : Operation) (p : Task op.Result) (d : Diary) : Prop :=
  p.Keeps (Minds s) (fun d r => Tidy d ∧ Shows s d op r) d

theorem shows_login_error {email password : String} {e : SessionError} :
    Shows s d (.login email password) (.error e) := by
  intro grant hgrant
  cases hgrant

theorem shows_refresh_error {token : String} {e : SessionError} (h : e.IsBare) :
    Shows s d (.refresh token) (.error e) := by
  intro grant hgrant
  cases hgrant with
  | incomplete => exact absurd rfl (h _ _ _ _)

theorem minds_openFor {email password : String} (hd : Tidy d) :
    KeepsProfiles s (.login email password) (s.openFor user) d := by
  simp only [KeepsProfiles, Issuer.openFor, Program.bind_eq, Program.keeps_bind]
  refine minds_mint hd fun d₁ pair now subject hd₁ hpair => ?_
  refine minds_registerFresh hd₁ (fun d₂ hd₂ => ?_) fun d₂ e hd₂ _ => ⟨hd₂, shows_login_error⟩
  simp only [Program.keeps_bind]
  refine minds_noteLogin hd₂ fun d₃ hd₃ _ => ?_
  refine minds_profileFor hd₃ (fun d₄ snapshot hd₄ hlooked => ⟨hd₄, fun grant hgrant => ?_⟩)
    fun d₄ e hd₄ _ => ⟨hd₄, shows_login_error⟩
  cases hgrant
  exact ⟨now, subject, pair, snapshot, hpair, rfl, hlooked⟩

theorem minds_login (s : Issuer) (email password : String) :
    KeepsProfiles s (.login email password) (s.login email password) [] := by
  simp only [KeepsProfiles, Issuer.login]
  split
  · exact ⟨tidy_nil, shows_login_error⟩
  · simp only [Program.bind_eq, Program.keeps_bind]
    have hfind : (Effect.Call.remote (.users (.findByEmail email)) (some s.usersLimit)).IsPlain s :=
      trivial
    have hcompare : ∀ c, (Effect.Call.compare c).IsPlain s := fun _ => trivial
    refine keeps_askUsers (tidy_nil.minds hfind) (fun row => ?_) fun reply e _ _ => ?_
    · simp only [Program.keeps_bind]
      refine minds_of_only (only_checkPassword (hcompare _)) (hfind.tidy _)
        fun d' checked hd' _ => ?_
      cases checked with
      | ok => exact minds_openFor hd'
      | error e => exact ⟨hd', shows_login_error⟩
    · cases e with
      | notFound =>
        exact ⟨(hfind.tidy _).minds (hcompare _),
          fun _ => ⟨(hcompare _).tidy _, shows_login_error⟩⟩
      | timeout => exact ⟨hfind.tidy _, shows_login_error⟩
      | database text => exact ⟨hfind.tidy _, shows_login_error⟩

theorem minds_retire {token : String} {claims : Claims} {snapshot : Snapshot} {now : Nat}
    {subject : Subject} (hd : Tidy d) (hpair : s.pairAt? now subject = some pair)
    (hlooked : Looked s d pair.user snapshot) :
    KeepsProfiles s (.refresh token) (s.retire claims pair snapshot) d := by
  simp only [KeepsProfiles, Issuer.retire, Program.bind_eq, Program.keeps_bind]
  refine minds_of_only (only_revoke trivial) hd fun d' count hd' hprefix => ?_
  have hshown : ∃ now subject pair' snapshot', s.pairAt? now subject = some pair' ∧
      pair.grant snapshot = pair'.grant snapshot' ∧ Looked s d' pair'.user snapshot' :=
    ⟨now, subject, pair, snapshot, hpair, rfl, hlooked.mono hprefix⟩
  cases count with
  | ok n =>
    cases n with
    | zero =>
      simp only [Program.keeps_bind]
      exact minds_of_only (only_discard trivial) hd' fun d'' _ hd'' _ =>
        ⟨hd'', shows_refresh_error (by simp [SessionError.IsBare])⟩
    | succ n =>
      refine ⟨hd', fun grant hgrant => ?_⟩
      cases hgrant
      exact hshown
  | error e =>
    refine ⟨hd', fun grant hgrant => ?_⟩
    cases hgrant
    exact hshown

theorem minds_rotate {token : String} {claims : Claims} (hd : Tidy d) :
    KeepsProfiles s (.refresh token) (s.rotate claims) d := by
  have hfind :
      (Effect.Call.remote (.users (.findById claims.user)) (some s.usersLimit)).IsPlain s :=
    trivial
  simp only [KeepsProfiles, Issuer.rotate, Program.bind_eq, Program.keeps_bind]
  refine keeps_askUsers (hd.minds hfind) (fun row => ?_) fun reply e _ _ => ?_
  · simp only [Program.keeps_bind]
    refine minds_mint (hfind.tidy _) fun d₁ pair now subject hd₁ hpair => ?_
    refine minds_registerFresh hd₁ (fun d₂ hd₂ => ?_)
      fun d₂ e hd₂ hbare => ⟨hd₂, shows_refresh_error hbare⟩
    simp only [Program.keeps_bind]
    exact minds_profileFor hd₂ (fun d₃ snapshot hd₃ hlooked => minds_retire hd₃ hpair hlooked)
      fun d₃ e hd₃ hbare => ⟨hd₃, shows_refresh_error hbare⟩
  · cases e with
    | notFound =>
      simp only [Program.keeps_bind]
      exact minds_of_only (only_forgetUser trivial trivial) (hfind.tidy _) fun d' _ hd' _ =>
        ⟨hd', shows_refresh_error (by simp [SessionError.IsBare])⟩
    | timeout => exact ⟨hfind.tidy _, shows_refresh_error (by simp [SessionError.IsBare])⟩
    | database text =>
      exact ⟨hfind.tidy _, shows_refresh_error (by simp [SessionError.IsBare])⟩

theorem minds_refresh (s : Issuer) (token : String) :
    KeepsProfiles s (.refresh token) (s.refresh token) [] := by
  simp only [KeepsProfiles, Issuer.refresh]
  split
  · exact ⟨tidy_nil, shows_refresh_error (by simp [SessionError.IsBare])⟩
  · simp only [Program.bind_eq, Program.keeps_bind]
    refine minds_of_only (only_checkToken trivial fun _ => trivial) tidy_nil
      fun d checked hd _ => ?_
    cases checked with
    | ok claims => exact minds_rotate hd
    | error e =>
      cases e with
      | rejected reason => exact ⟨hd, shows_refresh_error (by simp [SessionError.IsBare])⟩
      | cache e => exact ⟨hd, shows_refresh_error (by simp [SessionError.IsBare])⟩

theorem minds_verify (s : Issuer) (token : String) :
    KeepsProfiles s (.verify token) (s.verify token) [] := by
  have hbare : ∀ d e, Shows s d (.verify token) (.error e) := fun d e grant hgrant => by
    cases hgrant
  simp only [KeepsProfiles, Issuer.verify]
  split
  · exact ⟨tidy_nil, hbare _ _⟩
  · simp only [Program.bind_eq, Program.keeps_bind]
    refine minds_of_only (only_checkToken trivial fun _ => trivial) tidy_nil
      fun d checked hd _ => ?_
    cases checked with
    | ok claims =>
      simp only [Program.keeps_bind]
      exact minds_profile hd (fun d' snapshot hd' _ hlooked => ⟨hd', hlooked⟩)
        fun d' e hd' _ => ⟨hd', hbare _ _⟩
    | error e =>
      cases e with
      | rejected reason => exact ⟨hd, hbare _ _⟩
      | cache e => exact ⟨hd, hbare _ _⟩

/-- Every session operation minds cached profiles, and its result shows what it has looked up. -/
theorem Operation.minds_task (s : Issuer) {op : Operation} (hop : op.IsSession) :
    KeepsProfiles s op (op.task s) [] := by
  cases op with
  | login email password => exact minds_login s email password
  | refresh token => exact minds_refresh s token
  | verify token => exact minds_verify s token
  | logout identity =>
    have hlogout : (s.logout identity).Only (Effect.Call.IsPlain s) :=
      (only_revoke trivial).bind fun count => by cases count <;> trivial
    refine minds_of_only hlogout tidy_nil fun d result hd _ => ⟨hd, fun grant hgrant => ?_⟩
    cases hgrant
  | profile user =>
    refine minds_profile tidy_nil (fun d snapshot hd _ hlooked => ⟨hd, hlooked⟩)
      fun d e hd _ => ⟨hd, fun grant hgrant => ?_⟩
    cases hgrant
  | dropProfile user =>
    refine minds_of_only (only_dropProfile trivial) tidy_nil
      fun d result hd _ => ⟨hd, fun grant hgrant => ?_⟩
    cases hgrant
  | _ => exact hop.elim

end Session

namespace Traffic
variable {w : World} {T : Traffic} {log₁ log₂ : List Event} {i : Nat} {op : Operation}

/-- Each call in the log of a run is one that minds cached profiles. -/
theorem Steps.minds {reply : c.Reply} (h : Run s w (log₁ ++ .called i c reply :: log₂) T) :
    Minds s (diary log₁ i) c := by
  obtain ⟨op, next, hop, -, hafter⟩ := h.called
  exact ((Operation.minds_task s hop).after hafter).1

/-- Each operation in the log of a run has dropped the profiles of the logins it has noted when it
returns, and its result shows what it has looked up. -/
theorem Steps.shows {result : op.Result} (h : Run s w (log₁ ++ .returned i op result :: log₂) T) :
    Tidy (diary log₁ i) ∧ Shows s (diary log₁ i) op result := by
  obtain ⟨hop, -, hafter⟩ := h.returned
  exact (Operation.minds_task s hop).after hafter

end Traffic

end SessionLedger
