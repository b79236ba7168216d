import SessionLedger.Proofs.Ledger.Provenance
import SessionLedger.Proofs.Session.Profiles
import SessionLedger.Proofs.Traffic.Row
import SessionLedger.Proofs.User.Snapshot

/-! Whose profile is handed out. Nobody compares the identifier in a cached profile with the one
that was asked for. But a profile is cached under the key of the user whose row it was read from,
the key tells the user, and the text is read as the profile that was written: so what is found under
the key of a user is their profile, whatever faults there are and however the rows change. -/
namespace SessionLedger
open Session Token User Text

/-- The text is a profile of a user. -/
def IsProfileOf (user : Int64) (text : String) : Prop :=
  ∃ snapshot, Snapshot.decode? text = some snapshot ∧ snapshot.id = user

theorem isProfileOf_encode (snapshot : Snapshot) : IsProfileOf snapshot.id snapshot.encode :=
  ⟨snapshot, snapshot.decode?_encode, rfl⟩

namespace Traffic
variable {s : Issuer} {w : World} {T : Traffic} {log log₁ log₂ : List Event} {e : Event} {i : Nat}
variable {user : Int64} {key value : String}

/-- The profile is that of the user whose row has been read. -/
theorem Steps.id_of_projects {p : Projection} (h : Run s w log T) (hmem : e ∈ log)
    (he : e.Projects user p) : (Snapshot.ofProjection p).id = user := by
  obtain ⟨log₁, log₂, rfl⟩ := List.append_of_mem hmem
  obtain ⟨U, V, -, hstep, -⟩ := h.at
  obtain ⟨a, ha, rfl⟩ := hstep.row?_of_projects he
  exact Directory.id_of_find? ha

/-- What is written under the prefix of profiles is the profile of a user under their key, and the
operation that writes it has just read it from their row. -/
theorem Steps.projects_of_writes (hs : s.PrefixesApart)
    (hkey : s.userPrefix.toList <+: key.toList) (h : Run s w (log₁ ++ e :: log₂) T)
    (he : e.Writes key value) :
    ∃ i user p front read mid, e.flight? = some i ∧ log₁ = front ++ read :: mid ∧
      read.flight? = some i ∧ read.Projects user p ∧ diary mid i = [] ∧
      key = s.profileKey user ∧ value = (Snapshot.ofProjection p).encode := by
  obtain ⟨i, lifetime, limit, rfl⟩ := he
  rcases h.minds.caches rfl with htoken | ⟨d, user, p, limit', hd, rfl, rfl⟩
  · exact absurd htoken (hs.not_isTokenKey_of_prefix hkey)
  · obtain ⟨front, mid, rfl, -, hmid⟩ := diary_eq_append_cons hd
    exact ⟨i, user, p, front, _, mid, rfl, rfl, rfl, ⟨i, limit', rfl⟩, hmid, rfl, rfl⟩

/-- What is under the prefix of profiles is the profile of the user whom its key names. -/
theorem Steps.isProfileOf_held (hs : s.PrefixesApart) (hempty : w.store.entries = [])
    (h : Run s w log T) (hkey : s.userPrefix.toList <+: key.toList) {x : Store.Entry}
    (hx : T.held? key = some x) : ∃ user, key = s.profileKey user ∧ IsProfileOf user x.value := by
  rcases h.held?_eq_some hx with ⟨e, he, hw⟩ | hstart
  · obtain ⟨log₁, log₂, rfl⟩ := List.append_of_mem he
    obtain ⟨i, user, p, front, read, mid, -, rfl, -, hread, -, hprofile, hvalue⟩ :=
      h.projects_of_writes hs hkey hw
    have hid := h.id_of_projects (by simp) hread
    refine ⟨user, hprofile, ?_⟩
    rw [hvalue, ← hid]
    exact isProfileOf_encode _
  · simp [held?, idle, hempty] at hstart

theorem Steps.isProfileOf_profileKey (hs : s.PrefixesApart) (hempty : w.store.entries = [])
    (h : Run s w log T) {x : Store.Entry} (hx : T.held? (s.profileKey user) = some x) :
    IsProfileOf user x.value := by
  obtain ⟨user', hkey, hprofile⟩ :=
    h.isProfileOf_held hs hempty (Issuer.prefix_profileKey s user) hx
  rwa [Issuer.profileKey_inj.mp hkey]

/-- What has been looked up for a user is their profile. -/
theorem Steps.id_of_looked (hs : s.PrefixesApart) (hempty : w.store.entries = [])
    (h : Run s w log T) {snapshot : Snapshot} (hlooked : Looked s (diary log i) user snapshot) :
    snapshot.id = user := by
  cases hlooked with
  | rebuilt hmem => exact h.id_of_projects (mem_diary.mp hmem) ⟨i, _, rfl⟩
  | cached hstored hread =>
    obtain ⟨limit, hmem⟩ := stored_diary.mp hstored
    obtain ⟨log₁, log₂, rfl⟩ := List.append_of_mem hmem
    obtain ⟨U, V, hU, he, -⟩ := h.at
    -- The text was under the key when it was read.
    obtain ⟨x, hx, rfl⟩ := Option.map_eq_some_iff.mp he.get_ok.symm
    obtain ⟨snapshot', hread', hid⟩ :=
      hU.isProfileOf_profileKey hs hempty (live?_eq_some_iff.mp hx).1
    rw [hread, Option.some.injEq] at hread'
    rw [hread', hid]

/-- In every run from an empty store what is cached under the key of a user is their profile, and
nothing else is cached among profiles. So the profile that a verification hands out is that of the
user of its token, and the profile in a grant that of the user of both of its tokens. -/
theorem Steps.profile_of_owner (hs : s.PrefixesApart) (hempty : w.store.entries = [])
    (h : Run s w log T) :
    (∀ key x, s.userPrefix.toList <+: key.toList → T.live? key = some x →
      (∃ user, key = s.profileKey user) ∧
        ∀ user, key = s.profileKey user → IsProfileOf user x.value) ∧
      (∀ before after i token verified,
        log = before ++ .returned i (.verify token) (.ok verified) :: after →
        verified.user.id = verified.identity.user ∧
          ∃ claims, Reads s (diary before i) token .access claims ∧
            verified.identity = ⟨claims.user, claims.accessUuid, claims.refreshUuid⟩) ∧
      (∀ before after i user snapshot,
        log = before ++ .returned i (.profile user) (.ok snapshot) :: after →
        snapshot.id = user) ∧
      ∀ i op result grant, .returned i op result ∈ log → Hands op result grant →
        grant.IsAbout s grant.user.id := by
  refine ⟨fun key x hkey hx => ⟨?_, fun user hprofile => ?_⟩,
    fun before after i token verified hlog => ?_, fun before after i user snapshot hlog => ?_,
    fun i op result grant hmem hgrant => ?_⟩
  · obtain ⟨user, hprofile, -⟩ := h.isProfileOf_held hs hempty hkey (live?_eq_some_iff.mp hx).1
    exact ⟨user, hprofile⟩
  · subst hprofile
    exact h.isProfileOf_profileKey hs hempty (live?_eq_some_iff.mp hx).1
  · subst hlog
    obtain ⟨U, V, hbefore, -, -⟩ := h.at
    obtain ⟨claims, haccepted, hidentity⟩ := h.tells.2
    exact ⟨hbefore.id_of_looked hs hempty h.shows.2, claims, haccepted.reads, hidentity⟩
  · subst hlog
    obtain ⟨U, V, hbefore, -, -⟩ := h.at
    exact hbefore.id_of_looked hs hempty h.shows.2
  · obtain ⟨before, after, rfl⟩ := List.append_of_mem hmem
    obtain ⟨U, V, hbefore, -, -⟩ := h.at
    obtain ⟨now, subject, pair, snapshot, hpair, rfl, hlooked⟩ := h.shows.2.hands hgrant
    have hid : snapshot.id = pair.user := hbefore.id_of_looked hs hempty hlooked
    have habout := Pair.isAbout_grant hpair snapshot
    rwa [← hid] at habout

end Traffic

/-! ## A login that caches the profile -/

/-- Surroundings with one user and stores without faults. -/
def soundWorld (id : Int64) : World :=
  { sampleWorld id with store := {} }

/-- The traffic after the login. -/
abbrev afterSound : Traffic :=
  (Traffic.idle (soundWorld 7)).alone sampleIssuer sampleLogin

/-- The login succeeds. -/
theorem run_soundLogin : ∃ grant, Traffic.Run sampleIssuer (soundWorld 7)
    (Traffic.aloneLog sampleIssuer (.idle (soundWorld 7)) sampleLogin (.ok grant)) afterSound := by
  have hgranted : ((soundWorld 7).trace (sampleLogin.task sampleIssuer)).2.2.any Except.isOk := by
    decide +kernel
  obtain ⟨grant, hgrant⟩ := exists_ok hgranted
  exact ⟨grant, .alone trivial hgrant⟩

/-- After the login their profile is cached, and the grant is about the user of its profile. -/
theorem Traffic.Steps.profile_of_owner_of_login : ∃ log T grant x,
    Run sampleIssuer (soundWorld 7) log T ∧
      .returned 0 sampleLogin (.ok grant) ∈ log ∧ grant.IsAbout sampleIssuer grant.user.id ∧
      T.live? "user:7" = some x ∧ IsProfileOf 7 x.value := by
  obtain ⟨grant, hrun⟩ := run_soundLogin
  have hcached : (afterSound.live? "user:7").isSome := by
    decide +kernel
  obtain ⟨x, hx⟩ := Option.isSome_iff_exists.mp hcached
  obtain ⟨hprofiles, -, -, hgrants⟩ := Steps.profile_of_owner sampleIssuer_prefixesApart rfl hrun
  have hreturned : .returned 0 sampleLogin (.ok grant) ∈ aloneLog sampleIssuer
      (.idle (soundWorld 7)) sampleLogin (.ok grant) := returned_mem_aloneLog
  exact ⟨_, _, grant, x, hrun, hreturned, hgrants _ _ _ _ hreturned .login, hx,
    (hprofiles _ x (by decide) hx).2 7 (by decide)⟩

end SessionLedger
