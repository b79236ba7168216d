import SessionLedger.Proofs.Text.Decimal
import SessionLedger.Session.Issuer

/-! The keys of a service. Where no prefix of its keys is a prefix of another, a key tells what it
is for: two tokens of different kinds or identifiers have different keys, and no snapshot is kept
under a key of a token. -/
namespace SessionLedger.Session
open Token

namespace Issuer

/-- The prefix of the keys of a kind of token. -/
def tokenPrefix (s : Issuer) : Kind → String
  | .access => s.accessPrefix
  | .refresh => s.refreshPrefix

/-- No prefix of keys is a prefix of another. -/
structure PrefixesApart (s : Issuer) : Prop where
  access_refresh : ¬ s.accessPrefix.toList <+: s.refreshPrefix.toList
  refresh_access : ¬ s.refreshPrefix.toList <+: s.accessPrefix.toList
  access_user : ¬ s.accessPrefix.toList <+: s.userPrefix.toList
  user_access : ¬ s.userPrefix.toList <+: s.accessPrefix.toList
  refresh_user : ¬ s.refreshPrefix.toList <+: s.userPrefix.toList
  user_refresh : ¬ s.userPrefix.toList <+: s.refreshPrefix.toList

/-- The key starts with the prefix of a kind of token. -/
def IsTokenKey (s : Issuer) (key : String) : Prop :=
  ∃ kind, (s.tokenPrefix kind).toList <+: key.toList

variable {s : Issuer}

theorem tokenKey_eq (s : Issuer) (kind : Kind) (uuid : String) :
    s.tokenKey kind uuid = s.tokenPrefix kind ++ uuid := by
  cases kind <;> rfl

theorem isTokenKey_tokenKey (s : Issuer) (kind : Kind) (uuid : String) :
    s.IsTokenKey (s.tokenKey kind uuid) :=
  ⟨kind, by simp [tokenKey_eq]⟩

theorem mem_pairKeys {key accessUuid refreshUuid : String} :
    key ∈ s.pairKeys accessUuid refreshUuid ↔
      key = s.tokenKey .access accessUuid ∨ key = s.tokenKey .refresh refreshUuid := by
  simp [pairKeys]

/-- The keys of a pair are those of its two identifiers. -/
theorem exists_of_mem_pairKeys {key accessUuid refreshUuid : String}
    (h : key ∈ s.pairKeys accessUuid refreshUuid) :
    ∃ kind, ∃ uuid ∈ [accessUuid, refreshUuid], key = s.tokenKey kind uuid := by
  rcases mem_pairKeys.mp h with rfl | rfl
  · exact ⟨.access, accessUuid, by simp, rfl⟩
  · exact ⟨.refresh, refreshUuid, by simp, rfl⟩

theorem isTokenKey_of_mem {key accessUuid refreshUuid : String}
    (h : key ∈ s.pairKeys accessUuid refreshUuid) : s.IsTokenKey key := by
  obtain ⟨kind, uuid, -, rfl⟩ := exists_of_mem_pairKeys h
  exact s.isTokenKey_tokenKey kind uuid

/-- Texts that start with prefixes of which neither is a prefix of the other differ. -/
theorem append_ne_append {a b : String} (hab : ¬ a.toList <+: b.toList)
    (hba : ¬ b.toList <+: a.toList) (x y : String) : a ++ x ≠ b ++ y := by
  intro h
  have ha : a.toList <+: (a ++ x).toList := by simp
  have hb : b.toList <+: (a ++ x).toList := by simp [h]
  rcases List.prefix_or_prefix_of_prefix ha hb with hp | hp
  · exact hab hp
  · exact hba hp

/-- Texts of one length that follow others tell them apart. -/
theorem append_inj_of_length {a b x y : String} (hlength : x.length = y.length) :
    a ++ x = b ++ y ↔ a = b ∧ x = y := by
  constructor
  · intro h
    have hlists := congrArg String.toList h
    simp only [String.toList_append] at hlists
    obtain ⟨hab, hxy⟩ := List.append_inj' hlists (by simpa only [String.length_toList])
    exact ⟨String.toList_inj.mp hab, String.toList_inj.mp hxy⟩
  · rintro ⟨rfl, rfl⟩
    rfl

/-- Where identifiers have one length, a key tells its identifier and its prefix. -/
theorem tokenKey_eq_iff_of_length {kind kind' : Kind} {u v : String}
    (hlength : u.length = v.length) :
    s.tokenKey kind u = s.tokenKey kind' v ↔ s.tokenPrefix kind = s.tokenPrefix kind' ∧ u = v := by
  rw [tokenKey_eq, tokenKey_eq, append_inj_of_length hlength]

theorem prefix_profileKey (s : Issuer) (user : Int64) :
    s.userPrefix.toList <+: (s.profileKey user).toList := by
  simp [profileKey]

/-- The key of a profile names its user. -/
theorem profileKey_inj {user user' : Int64} :
    s.profileKey user = s.profileKey user' ↔ user = user' := by
  rw [profileKey, profileKey, String.append_right_inj, Text.Decimal.ofInt64_inj]

namespace PrefixesApart
variable (h : s.PrefixesApart)
include h

theorem tokenKey_inj {kind kind' : Kind} {u v : String} :
    s.tokenKey kind u = s.tokenKey kind' v ↔ kind = kind' ∧ u = v := by
  constructor
  · intro heq
    cases kind <;> cases kind' <;> simp only [tokenKey] at heq
    · exact ⟨rfl, String.append_right_inj _ |>.mp heq⟩
    · exact absurd heq (append_ne_append h.access_refresh h.refresh_access u v)
    · exact absurd heq (append_ne_append h.refresh_access h.access_refresh u v)
    · exact ⟨rfl, String.append_right_inj _ |>.mp heq⟩
  · rintro ⟨rfl, rfl⟩
    rfl

theorem not_isTokenKey_of_prefix {key : String} (hkey : s.userPrefix.toList <+: key.toList) :
    ¬ s.IsTokenKey key := by
  rintro ⟨kind, hkind⟩
  cases kind with
  | access =>
    rcases List.prefix_or_prefix_of_prefix hkind hkey with hp | hp
    · exact h.access_user hp
    · exact h.user_access hp
  | refresh =>
    rcases List.prefix_or_prefix_of_prefix hkind hkey with hp | hp
    · exact h.refresh_user hp
    · exact h.user_refresh hp

theorem not_isTokenKey_profileKey (user : Int64) : ¬ s.IsTokenKey (s.profileKey user) :=
  h.not_isTokenKey_of_prefix (prefix_profileKey s user)

end PrefixesApart

end Issuer

end SessionLedger.Session
