import SessionLedger.Proofs.Config.Accepted
import SessionLedger.Proofs.Session.Calls
import SessionLedger.Proofs.Text.Uuid
import SessionLedger.Proofs.World.Preserved

/-! The key spaces of a service whose settings are accepted. No prefix equals another, and that is
enough to keep access and refresh identifiers apart, since all of them have one length. It is not
enough for snapshots, whose keys end in a number: if their prefix goes on where a prefix of tokens
ends, and goes on like an identifier, a snapshot may be kept under the key of a token. -/
namespace SessionLedger
open Config Session Token

namespace Session.Issuer
variable {s : Issuer} {kind : Kind}

/-- A snapshot has the key of a token just if its prefix is that of the kind followed by the
beginning of an identifier, at least up to its last hyphen. A number completes the identifier then;
if the hyphen is missing, too, a negative one does. -/
theorem exists_shared_key_iff :
    (∃ uuid user, Uuid.IsCanonical uuid ∧ s.tokenKey kind uuid = s.profileKey user) ↔
      ∃ head, s.userPrefix = s.tokenPrefix kind ++ head ∧ Uuid.IsBeginning head ∧
        23 ≤ head.length ∧ head.length < 36 := by
  constructor
  · rintro ⟨uuid, user, huuid, heq⟩
    rw [tokenKey_eq, profileKey, Text.Decimal.ofInt64] at heq
    have hlists := congrArg String.toList heq
    simp only [String.toList_append, String.toList_ofList] at hlists
    rcases List.append_eq_append_iff.mp hlists with ⟨head, hprefix, hend⟩ | ⟨cs, -, hend⟩
    · have huuid' : Uuid.IsCanonical (String.ofList head ++ Text.Decimal.ofInt64 user) := by
        rw [Text.Decimal.ofInt64, ← String.ofList_append, ← hend, String.ofList_toList]
        exact huuid
      refine ⟨String.ofList head, ?_, ⟨_, huuid'⟩, huuid'.length_of_decimal⟩
      rw [← String.toList_inj, hprefix, String.toList_append, String.toList_ofList]
    · exact absurd hend (huuid.ofInt_ne cs)
  · rintro ⟨head, hprefix, hhead, hlong, hshort⟩
    obtain ⟨user, huuid⟩ := hhead.exists_decimal hlong hshort
    refine ⟨_, user, huuid, ?_⟩
    rw [tokenKey_eq, profileKey, hprefix, String.append_assoc]

/-- Looking up the profile of a user calls the store for no key but that of the snapshot, and so
does dropping it. -/
theorem live?_of_snapshot {w w' : World} {user : Int64} {op : Operation} {result : op.Result}
    (hop : op = .profile user ∨ op = .dropProfile user)
    (h : w.perform s op = (w', some result)) {uuid : String}
    (hapart : s.tokenKey kind uuid ≠ s.profileKey user) {later : Nat} (hlater : w'.clock ≤ later) :
    w'.store.live? later (s.tokenKey kind uuid) = w.store.live? later (s.tokenKey kind uuid) := by
  have honly : (op.task s).Only (Effect.Call.Preserves s (s.tokenKey kind uuid = ·)) := by
    rcases hop with rfl | rfl
    · exact only_profile trivial (fun _ => ⟨rfl, hapart⟩) ⟨rfl, trivial⟩
    · refine only_dropProfile ⟨rfl, fun key hkey => ?_⟩
      rw [List.mem_singleton.mp hkey]
      exact hapart
  have hdeadline : op.deadline s = none := by
    rcases hop with rfl | rfl <;> rfl
  exact (World.ends_of_only honly w' result (World.run_of_perform hdeadline h)).live _ rfl later
    hlater

end Session.Issuer

/-- How far the key spaces of a service are apart. -/
structure Session.Issuer.Namespaces (s : Issuer) : Prop where
  /-- The key of a token tells its kind and its identifier. -/
  tokens : ∀ kind kind' u v, Uuid.IsCanonical u → Uuid.IsCanonical v →
    (s.tokenKey kind u = s.tokenKey kind' v ↔ kind = kind' ∧ u = v)
  /-- The key of a snapshot tells its user. -/
  snapshots : ∀ user user', s.profileKey user = s.profileKey user' ↔ user = user'
  /-- Looking up a snapshot or dropping it leaves registered what has another key. -/
  kept : ∀ (w w' : World) user op (result : op.Result),
    op = .profile user ∨ op = .dropProfile user → w.perform s op = (w', some result) →
    ∀ kind uuid, s.tokenKey kind uuid ≠ s.profileKey user → ∀ later, w'.clock ≤ later →
      w'.store.live? later (s.tokenKey kind uuid) = w.store.live? later (s.tokenKey kind uuid)
  /-- A snapshot has the key of a token just if its prefix is that of the kind followed by the
  beginning of an identifier, at least up to its last hyphen. -/
  shared : ∀ kind,
    (∃ uuid user, Uuid.IsCanonical uuid ∧ s.tokenKey kind uuid = s.profileKey user) ↔
      ∃ head, s.userPrefix = s.tokenPrefix kind ++ head ∧ Uuid.IsBeginning head ∧
        23 ≤ head.length ∧ head.length < 36

namespace Config.Settings
variable {vars : Variables} {c : Settings}

theorem IsChecked.tokenPrefix_inj (h : c.IsChecked) {kind kind' : Kind} :
    c.issuer.tokenPrefix kind = c.issuer.tokenPrefix kind' ↔ kind = kind' := by
  constructor
  · intro heq
    cases kind <;> cases kind'
    · rfl
    · exact absurd heq h.access_refresh
    · exact absurd heq.symm h.access_refresh
    · rfl
  · exact congrArg _

/-- Where settings are accepted, the key spaces of the two kinds of tokens are disjoint. That of
snapshots is disjoint from them, too, unless its prefix is that of a kind followed by all of an
identifier but a short end. -/
theorem namespaces_of_ofVariables (h : ofVariables vars = .ok c) : c.issuer.Namespaces where
  tokens kind kind' u v hu hv := by
    rw [Issuer.tokenKey_eq_iff_of_length (hu.length.trans hv.length.symm),
      (isChecked_of_ofVariables h).tokenPrefix_inj]
  snapshots _ _ := Issuer.profileKey_inj
  kept _ _ _ _ _ hop h _ _ hapart _ hlater := Issuer.live?_of_snapshot hop h hapart hlater
  shared _ := Issuer.exists_shared_key_iff

/-- With the usual prefixes no snapshot is kept under the key of a token. -/
theorem namespaces_of_usual :
    ¬ (∃ uuid user, Uuid.IsCanonical uuid ∧ (sampleSettings 900 "user:").issuer.tokenKey
        .access uuid = (sampleSettings 900 "user:").issuer.profileKey user) ∧
      ¬ ∃ uuid user, Uuid.IsCanonical uuid ∧ (sampleSettings 900 "user:").issuer.tokenKey
        .refresh uuid = (sampleSettings 900 "user:").issuer.profileKey user := by
  have hshared := (namespaces_of_ofVariables ofVariables_usual).shared
  -- The prefix of snapshots is too short.
  have hshort : ∀ kind head, (sampleSettings 900 "user:").issuer.userPrefix =
      (sampleSettings 900 "user:").issuer.tokenPrefix kind ++ head → head.length < 23 := by
    intro kind head heq
    have hlength := congrArg String.length heq
    have huser : (sampleSettings 900 "user:").issuer.userPrefix.length = 5 := by decide
    rw [String.length_append] at hlength
    omega
  constructor
  · rw [hshared .access]
    rintro ⟨head, hprefix, -, hlong, -⟩
    exact absurd (hshort _ _ hprefix) (by omega)
  · rw [hshared .refresh]
    rintro ⟨head, hprefix, -, hlong, -⟩
    exact absurd (hshort _ _ hprefix) (by omega)

/-- A service for which snapshots are kept under the prefix of access identifiers and all but the
last digit of an identifier. -/
abbrev sharingIssuer : Issuer :=
  (sampleSettings 900 "access:00000000-0000-4000-8000-00000000000").issuer

/-- Surroundings in which the first identifier of the supply is registered. -/
def sharingWorld : World where
  clock := 0
  accepts := fun _ _ => .fits
  store := { entries := [(sharingIssuer.tokenKey .access (Uuid.numbered 1), ⟨"1", some 900000⟩)] }

/-- These settings are accepted, and the snapshot of user 1 is kept under the key of that
identifier: dropping it revokes the token. -/
theorem accepted_with_shared_key :
    ofVariables (sampleVariables "900" "access:00000000-0000-4000-8000-00000000000") =
        .ok (sampleSettings 900 "access:00000000-0000-4000-8000-00000000000") ∧
      Uuid.IsCanonical (Uuid.numbered 1) ∧
      sharingIssuer.tokenKey .access (Uuid.numbered 1) = sharingIssuer.profileKey 1 ∧
      sharingWorld.store.peek? 0 (sharingIssuer.tokenKey .access (Uuid.numbered 1)) = some "1" ∧
      (sharingWorld.perform sharingIssuer (.dropProfile 1)).1.store.peek? 0
        (sharingIssuer.tokenKey .access (Uuid.numbered 1)) = none := by
  refine ⟨eq_ok_of_toOption ?_, Uuid.isCanonical_numbered (by decide), ?_, ?_, ?_⟩ <;>
    decide +kernel

end Config.Settings

end SessionLedger
