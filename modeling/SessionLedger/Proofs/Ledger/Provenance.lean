import SessionLedger.Proofs.Ledger.Registration
import SessionLedger.Proofs.Text.Decimal

/-! Where the owners in the ledger come from. A run that starts with an empty store registers
identifiers only to users who have logged in during the run: a login registers the user whose
password has fitted, and a rotation the owner that it has read from the ledger. Nothing is assumed
about the tokens that are presented. -/
namespace SessionLedger
open Session Token Text

/-- A login in the log has found the row of a user by email, and its password has fitted. -/
def LoggedIn (log : List Event) (user : Int64) : Prop :=
  ∃ i email password row limit, .started i (.login email password) ∈ log ∧
    .called i (.remote (.users (.findByEmail email)) limit) (some (.ok row)) ∈ log ∧
    .called i (.compare (.genuine password row.passwordHash)) (.ok .fits) ∈ log ∧ row.id = user

/-- The text names a user who has logged in. -/
def NamesLoggedIn (log : List Event) (value : String) : Prop :=
  ∃ user, value = Decimal.ofInt64 user ∧ LoggedIn log user

/-- Both tokens of a grant are signed claims about a user. -/
def Session.Grant.IsAbout (s : Issuer) (grant : Grant) (user : Int64) : Prop :=
  ∃ access refresh : Claims, access.user = user ∧ refresh.user = user ∧
    grant.accessToken = sign (s.signer.secret .access) access ∧
    grant.refreshToken = sign (s.signer.secret .refresh) refresh

theorem LoggedIn.append {log log' : List Event} {user : Int64} (h : LoggedIn log user) :
    LoggedIn (log ++ log') user := by
  obtain ⟨i, email, password, row, limit, hstart, hrow, hfits, huser⟩ := h
  exact ⟨i, email, password, row, limit, List.mem_append_left _ hstart,
    List.mem_append_left _ hrow, List.mem_append_left _ hfits, huser⟩

theorem NamesLoggedIn.append {log log' : List Event} {value : String}
    (h : NamesLoggedIn log value) : NamesLoggedIn (log ++ log') value := by
  obtain ⟨user, hvalue, huser⟩ := h
  exact ⟨user, hvalue, huser.append⟩

/-- The grant of a minted pair is about the user of the pair. -/
theorem Session.Pair.isAbout_grant {s : Issuer} {now : Nat} {subject : Subject} {pair : Pair}
    (h : s.pairAt? now subject = some pair) (snapshot : User.Snapshot) :
    (pair.grant snapshot).IsAbout s pair.user :=
  ⟨pair.claims now .access, pair.claims now .refresh, rfl, rfl,
    Issuer.pairAt?_token h .access, Issuer.pairAt?_token h .refresh⟩

namespace Traffic
variable {s : Issuer} {w : World} {T : Traffic} {log : List Event} {i : Nat} {op : Operation}

/-- What is registered, and what has been read from the ledger, names users who have logged in. -/
structure Proven (s : Issuer) (log : List Event) (T : Traffic) : Prop where
  held : ∀ {key e}, s.IsTokenKey key → T.held? key = some e → NamesLoggedIn log e.value
  read : ∀ {i key limit value}, s.IsTokenKey key →
    .called i (.remote (.store (.get key)) limit) (some (.ok (some value))) ∈ log →
    NamesLoggedIn log value

/-- The owner of an accepted token has logged in. -/
theorem Proven.accepted (h : Proven s log T) {token : String} {kind : Kind} {claims : Claims}
    (haccepted : Accepted s (diary log i) token kind claims) : LoggedIn log claims.user := by
  obtain ⟨owner, hstored, howner⟩ := haccepted.owner
  obtain ⟨limit, hmem⟩ := stored_diary.mp hstored
  obtain ⟨user, rfl, huser⟩ := h.read (s.isTokenKey_tokenKey kind _) hmem
  rw [Decimal.signed64?_ofInt64, Option.some.injEq] at howner
  rwa [← howner]

theorem Proven.authenticated (h : Proven s log T) {user : Int64} (hstart : .started i op ∈ log)
    (huser : Authenticated s (diary log i) op user) : LoggedIn log user := by
  cases huser with
  | login hrow hfits =>
    exact ⟨i, _, _, _, _, hstart, mem_diary.mp hrow, mem_diary.mp hfits, rfl⟩
  | refresh haccepted => exact h.accepted haccepted

theorem Steps.proven (hs : s.PrefixesApart) (hempty : w.store.entries = []) (h : Run s w log T) :
    Proven s log T := by
  induction h with
  | refl =>
    refine ⟨fun _ he => ?_, fun _ hmem => by cases hmem⟩
    simp [held?, idle, hempty] at he
  | @snoc log U e V h he ih =>
    have hrun : Run s w (log ++ e :: []) V := .snoc h he
    constructor
    · intro key x hkey hx
      rcases he.held?_eq_some hx with ⟨i, lifetime, limit, rfl⟩ | hx
      · -- The step registers an identifier to the user of a login, or to an owner read before.
        obtain ⟨op, pair, hreg, hvalue⟩ := hrun.registration hs hkey
        exact ⟨pair.user, hvalue, (ih.authenticated hreg.started hreg.mints.user).append⟩
      · exact (ih.held hkey hx).append
    · intro i key limit value hkey hmem
      rcases List.mem_append.mp hmem with hmem | hmem
      · exact (ih.read hkey hmem).append
      · -- What the step reads is registered at that moment.
        obtain rfl := List.mem_singleton.mp hmem
        obtain ⟨x, hx, rfl⟩ := Option.map_eq_some_iff.mp he.get_ok.symm
        exact (ih.held hkey (live?_eq_some_iff.mp hx).1).append

/-- In every run from an empty store the owner of each registered identifier has logged in earlier
in the run. Only such users are verified, and only to them are tokens handed out. -/
theorem Steps.provenance (hs : s.PrefixesApart) (hempty : w.store.entries = [])
    (h : Run s w log T) :
    (∀ key e, s.IsTokenKey key → T.live? key = some e → NamesLoggedIn log e.value) ∧
      (∀ before after i token verified,
        log = before ++ .returned i (.verify token) (.ok verified) :: after →
        LoggedIn before verified.identity.user) ∧
      ∀ before after i op result grant, log = before ++ .returned i op result :: after →
        Hands op result grant → ∃ user, grant.IsAbout s user ∧ LoggedIn before user := by
  refine ⟨fun key e hkey he => ?_, fun before after i token verified hlog => ?_,
    fun before after i op result grant hlog hgrant => ?_⟩
  · exact (h.proven hs hempty).held hkey (live?_eq_some_iff.mp he).1
  · subst hlog
    obtain ⟨U, V, hbefore, -, -⟩ := h.at
    obtain ⟨claims, haccepted, hidentity⟩ := h.tells.2
    rw [hidentity]
    exact (hbefore.proven hs hempty).accepted haccepted
  · subst hlog
    obtain ⟨U, V, hbefore, -, -⟩ := h.at
    obtain ⟨hstart, htells⟩ := h.tells
    obtain ⟨pair, snapshot, rfl, hmints, -⟩ := htells.hands hgrant
    obtain ⟨now, -, hminted⟩ := hmints.minted
    exact ⟨pair.user, Pair.isAbout_grant hminted snapshot,
      (hbefore.proven hs hempty).authenticated hstart hmints.user⟩

/-- After the login of a user the ledger names them. -/
theorem Steps.provenance_of_login : ∃ log T e,
    Run sampleIssuer (sampleWorld 7) log T ∧
      T.live? "access:00000000-0000-4000-8000-000000000001" = some e ∧
      NamesLoggedIn log e.value := by
  obtain ⟨grant, hrun⟩ := run_sampleLogin
  have hlive : afterLogin.live? "access:00000000-0000-4000-8000-000000000001" =
      some ⟨"7", some 900000⟩ := by
    decide +kernel
  have hnames := (Steps.provenance sampleIssuer_prefixesApart rfl hrun).1 _ _ ⟨.access, by decide⟩
    hlive
  exact ⟨_, _, _, hrun, hlive, hnames⟩

end Traffic

end SessionLedger
