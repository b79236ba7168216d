import SessionLedger.Proofs.Text.Decimal
import SessionLedger.Proofs.Token.Issued
import SessionLedger.Session.Pair

/-! What a minted pair is made of: two signed tokens that carry the subject of the pair, and that
are read as such until they expire. An identifier is registered for the rest of the life of its
token, and for a second at least. -/
namespace SessionLedger.Session
open Token

namespace Pair

/-- The token of a kind. -/
def token (p : Pair) : Kind → String
  | .access => p.accessToken
  | .refresh => p.refreshToken

/-- The expiry of the token of a kind. -/
def expiry (p : Pair) : Kind → Int64
  | .access => p.accessExpiry
  | .refresh => p.refreshExpiry

/-- The identifier under which the token of a kind is registered. -/
def uuid (p : Pair) : Kind → String
  | .access => p.accessUuid
  | .refresh => p.refreshUuid

/-- What the token of a kind says, if the pair was minted at an instant. -/
def claims (p : Pair) (now : Nat) (kind : Kind) : Claims :=
  ⟨p.user, p.accessUuid, p.refreshUuid, Int64.ofInt (now / 1000 : Nat), p.expiry kind, kind⟩

@[simp] theorem uuid_claims (p : Pair) (now : Nat) (kind : Kind) :
    (p.claims now kind).uuid kind = p.uuid kind := by
  cases kind <;> rfl

end Pair

namespace Issuer
variable {s : Issuer} {now now' : Nat} {subject : Subject} {pair : Pair} {kind : Kind} {c : Claims}

/-- Minting a pair issues both of its tokens. -/
theorem pairAt?_eq_some_iff :
    s.pairAt? now subject = some pair ↔
      ∃ access refresh, s.signer.issue? now .access subject s.accessTtl = some access ∧
        s.signer.issue? now .refresh subject s.refreshTtl = some refresh ∧
        pair = ⟨subject.user, access.token, refresh.token, subject.accessUuid,
          subject.refreshUuid, access.claims.expiry, refresh.claims.expiry⟩ := by
  simp only [pairAt?, Option.bind_eq_bind, Option.bind_eq_some_iff, Option.pure_def,
    Option.some.injEq]
  constructor
  · rintro ⟨access, haccess, refresh, hrefresh, rfl⟩
    exact ⟨access, refresh, haccess, hrefresh, rfl⟩
  · rintro ⟨access, refresh, haccess, hrefresh, rfl⟩
    exact ⟨access, haccess, refresh, hrefresh, rfl⟩

theorem issue?_eq_some {ttl : Int} {signed : Signed}
    (h : s.signer.issue? now kind subject ttl = some signed) :
    signed.claims = ⟨subject.user, subject.accessUuid, subject.refreshUuid,
        Int64.ofInt (now / 1000 : Nat), Int64.ofInt ((now / 1000 : Nat) + ttl), kind⟩ ∧
      signed.token = sign (s.signer.secret kind) signed.claims := by
  have hissued := Signer.issueFor?_eq_some h
  rwa [Signer.second_add, Signer.second_of_millis] at hissued

/-- The expiry of a token is its lifetime away from the second in which it was issued. -/
theorem issue?_expiry {ttl : Int} {signed : Signed}
    (h : s.signer.issue? now kind subject ttl = some signed) :
    signed.claims.expiry.toInt = (now / 1000 : Nat) + ttl := by
  rw [Signer.issueFor?_expiry h, Signer.second_add]

/-- A token is issued just if its expiry lies in the calendar. -/
theorem exists_issue?_iff {ttl : Int} :
    (∃ signed, s.signer.issue? now kind subject ttl = some signed) ↔
      Time.IsStampSecond ((now / 1000 : Nat) + ttl) := by
  rw [← Signer.second_add]
  exact Signer.exists_issueFor?_iff

/-- A pair is minted just if both of its expiries lie in the calendar. -/
theorem exists_pairAt?_iff :
    (∃ pair, s.pairAt? now subject = some pair) ↔
      ∀ kind, Time.IsStampSecond ((now / 1000 : Nat) + s.ttl kind) := by
  constructor
  · rintro ⟨pair, hpair⟩ kind
    obtain ⟨access, refresh, haccess, hrefresh, -⟩ := pairAt?_eq_some_iff.mp hpair
    cases kind with
    | access => exact exists_issue?_iff.mp ⟨access, haccess⟩
    | refresh => exact exists_issue?_iff.mp ⟨refresh, hrefresh⟩
  · intro h
    obtain ⟨access, haccess⟩ := exists_issue?_iff.mpr (h .access)
    obtain ⟨refresh, hrefresh⟩ := exists_issue?_iff.mpr (h .refresh)
    exact ⟨_, pairAt?_eq_some_iff.mpr ⟨access, refresh, haccess, hrefresh, rfl⟩⟩

theorem pairAt?_expiry (h : s.pairAt? now subject = some pair) (kind : Kind) :
    (pair.expiry kind).toInt = (now / 1000 : Nat) + s.ttl kind := by
  obtain ⟨access, refresh, haccess, hrefresh, rfl⟩ := pairAt?_eq_some_iff.mp h
  cases kind with
  | access => exact issue?_expiry haccess
  | refresh => exact issue?_expiry hrefresh

/-- The seconds until an expiry have 64 bits, unless the expiry lies before 1970 or the present
second itself has more. -/
theorem exists_remaining? {expiry : Int64} (hexpiry : 0 ≤ expiry.toInt)
    (hnow : (now / 1000 : Nat) ≤ Int64.maxValue.toInt) :
    ∃ lifetime, remaining? expiry now = some lifetime := by
  have hmin : Int64.minValue.toInt = -9223372036854775808 := rfl
  have hmax : Int64.maxValue.toInt = 9223372036854775807 := rfl
  have hle := expiry.toInt_le
  have hrange : Int64.minValue.toInt ≤ expiry.toInt - (now / 1000 : Nat) ∧
      expiry.toInt - (now / 1000 : Nat) ≤ Int64.maxValue.toInt := by
    omega
  rw [remaining?, Text.Decimal.int64?, if_pos hrange]
  exact ⟨_, rfl⟩

theorem remaining?_eq_some {expiry : Int64} {lifetime : Nat}
    (h : remaining? expiry now = some lifetime) :
    lifetime = (max (expiry.toInt - (now / 1000 : Nat)) 1).toNat := by
  obtain ⟨d, hd, rfl⟩ := Option.map_eq_some_iff.mp h
  rw [Text.Decimal.toInt_of_int64? hd]

theorem remaining?_pos {expiry : Int64} {lifetime : Nat}
    (h : remaining? expiry now = some lifetime) : 0 < lifetime := by
  have hlifetime := remaining?_eq_some h
  omega

/-- Of two identifiers that are registered together the one that expires later lives longer. -/
theorem remaining?_mono {expiry expiry' : Int64} {lifetime lifetime' : Nat}
    (h : remaining? expiry now = some lifetime) (h' : remaining? expiry' now = some lifetime')
    (hle : expiry.toInt ≤ expiry'.toInt) : 0 < lifetime ∧ lifetime ≤ lifetime' := by
  have hlifetime := remaining?_eq_some h
  have hlifetime' := remaining?_eq_some h'
  omega

theorem remaining?_le {expiry : Int64} {lifetime : Nat}
    (h : remaining? expiry now = some lifetime) : lifetime ≤ Store.State.longestLifetime := by
  obtain ⟨d, -, rfl⟩ := Option.map_eq_some_iff.mp h
  have hle : d.toInt ≤ 9223372036854775807 := d.toInt_le
  have hlongest : Store.State.longestLifetime = 9223372036854775807 := by decide
  omega

/-- A token that has just been issued has its whole lifetime before it. -/
theorem remaining?_of_pairAt? (h : s.pairAt? now subject = some pair) {kind : Kind}
    (hpos : 0 < s.ttl kind) :
    remaining? (pair.expiry kind) now = some (s.ttl kind).toNat := by
  have hexpiry := pairAt?_expiry h kind
  have hle : (pair.expiry kind).toInt ≤ Int64.maxValue.toInt := (pair.expiry kind).toInt_le
  have hnonneg : 0 ≤ (pair.expiry kind).toInt := by omega
  have hnow : (now / 1000 : Nat) ≤ Int64.maxValue.toInt := by omega
  obtain ⟨lifetime, hlifetime⟩ := exists_remaining? hnonneg hnow
  have hvalue := remaining?_eq_some hlifetime
  rw [hlifetime, Option.some.injEq]
  omega

/-- A pair names the subject that it was minted for. -/
theorem pairAt?_subject (h : s.pairAt? now subject = some pair) :
    subject = ⟨pair.user, pair.accessUuid, pair.refreshUuid⟩ := by
  obtain ⟨access, refresh, -, -, rfl⟩ := pairAt?_eq_some_iff.mp h
  rfl

/-- Both tokens of a minted pair are signed claims. -/
theorem pairAt?_token (h : s.pairAt? now subject = some pair) (kind : Kind) :
    pair.token kind = sign (s.signer.secret kind) (pair.claims now kind) := by
  obtain ⟨access, refresh, haccess, hrefresh, rfl⟩ := pairAt?_eq_some_iff.mp h
  obtain ⟨haccess, htoken⟩ := issue?_eq_some haccess
  obtain ⟨hrefresh, htoken'⟩ := issue?_eq_some hrefresh
  cases kind with
  | access =>
    simp only [Pair.token, Pair.claims, Pair.expiry, htoken]
    rw [haccess]
  | refresh =>
    simp only [Pair.token, Pair.claims, Pair.expiry, htoken']
    rw [hrefresh]

/-- The tokens of a minted pair are not blank. -/
theorem isAllBlank_token (h : s.pairAt? now subject = some pair) (kind : Kind) :
    Text.isAllBlank (pair.token kind) = false := by
  rw [pairAt?_token h kind]
  exact isAllBlank_sign

/-- Minted pairs with one refresh token name one subject. -/
theorem pairAt?_refreshToken_inj {subject' : Subject} {pair' : Pair}
    (h : s.pairAt? now subject = some pair) (h' : s.pairAt? now' subject' = some pair')
    (heq : pair.refreshToken = pair'.refreshToken) :
    pair.user = pair'.user ∧ pair.accessUuid = pair'.accessUuid ∧
      pair.refreshUuid = pair'.refreshUuid := by
  have hsign : sign (s.signer.secret .refresh) (pair.claims now .refresh) =
      sign (s.signer.secret .refresh) (pair'.claims now' .refresh) := by
    rw [← pairAt?_token h, ← pairAt?_token h']
    exact heq
  have hclaims := sign_inj.mp hsign
  exact ⟨congrArg Claims.user hclaims, congrArg Claims.accessUuid hclaims,
    congrArg Claims.refreshUuid hclaims⟩

/-- A token of a minted pair is read as what it says, if it has not expired and is complete. -/
theorem claimsOf_token_eq_ok_iff (h : s.pairAt? now subject = some pair) (now' : Nat)
    (kind : Kind) :
    s.signer.claimsOf now' (pair.token kind) kind = .ok c ↔
      c = pair.claims now kind ∧ (now' / 1000 : Nat) ≤ (pair.expiry kind).toInt ∧
        0 < pair.user ∧ pair.accessUuid ≠ "" ∧ pair.refreshUuid ≠ "" := by
  rw [pairAt?_token h kind, Signer.claimsOf_sign_eq_ok_iff]
  simp only [Pair.claims, true_and]

/-- Once the second of its expiry is over, a token of a minted pair is refused as expired. -/
theorem claimsOf_token_of_expired (h : s.pairAt? now subject = some pair)
    (hexpiry : 0 ≤ (pair.expiry kind).toInt)
    (hnow' : (pair.expiry kind).toInt < (now' / 1000 : Nat)) :
    s.signer.claimsOf now' (pair.token kind) kind = .error .expired := by
  rw [pairAt?_token h kind]
  exact Signer.claimsOf_sign_of_expired hexpiry hnow'

end Issuer

end SessionLedger.Session
