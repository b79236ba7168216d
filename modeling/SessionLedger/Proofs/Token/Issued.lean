import SessionLedger.Proofs.Token.Signer

/-! What an issued token is worth. It carries the claims of its subject and is read as them up to
and including the second of its expiry; from the next second on it is refused as expired. A token
whose subject names no user or lacks an identifier is never read. -/
namespace SessionLedger.Token

/-- A second of the calendar fits 64 bits. -/
theorem toInt_ofInt_of_isStampSecond {second : Int} (h : Time.IsStampSecond second) :
    (Int64.ofInt second).toInt = second := by
  simp only [Time.IsStampSecond, Time.IsStampDay, Time.firstYear, Time.lastYear,
    Time.firstDay] at h
  exact Int64.toInt_ofInt_of_le (by omega) (by omega)

theorem checkComplete_of_incomplete {kind : Kind} {c : Claims} (hkind : c.kind = kind)
    (h : c.user ≤ 0 ∨ c.accessUuid = "" ∨ c.refreshUuid = "") :
    checkComplete kind c =
      .error (.malformed (if c.user ≤ 0 then .missingUser else .missingUuid)) := by
  simp only [checkComplete, hkind, ne_eq, not_true_eq_false, if_false]
  by_cases huser : c.user ≤ 0
  · simp only [huser, if_true]
    rfl
  · have huuid : (c.accessUuid.isEmpty || c.refreshUuid.isEmpty) = true := by
      rw [Bool.or_eq_true, String.isEmpty_iff, String.isEmpty_iff]
      exact h.resolve_left huser
    simp only [huser, huuid, if_false, if_true]
    rfl

namespace Signer
variable {σ : Signer} {instant now : Nat} {kind : Kind} {subject : Subject} {span ttl : Int}
  {signed : Signed} {c : Claims}

theorem issueFor?_eq_some (h : σ.issueFor? instant kind subject span = some signed) :
    signed.claims = ⟨subject.user, subject.accessUuid, subject.refreshUuid,
        Int64.ofInt (instant / 1000000000 : Nat), Int64.ofInt ((instant + span) / 1000000000),
        kind⟩ ∧
      signed.token = sign (σ.secret kind) signed.claims := by
  obtain ⟨claims, hclaims, rfl⟩ := Option.map_eq_some_iff.mp h
  simp only [claimsFor?] at hclaims
  split at hclaims
  · cases hclaims
    exact ⟨rfl, rfl⟩
  · cases hclaims

/-- A token is issued just if its expiry lies in the calendar. -/
theorem exists_issueFor?_iff :
    (∃ signed, σ.issueFor? instant kind subject span = some signed) ↔
      Time.IsStampSecond ((instant + span) / 1000000000) := by
  simp only [issueFor?, claimsFor?]
  split
  next hsecond => exact ⟨fun _ => hsecond, fun _ => ⟨_, rfl⟩⟩
  next hsecond => exact ⟨nofun, fun h => absurd h hsecond⟩

theorem issueFor?_expiry (h : σ.issueFor? instant kind subject span = some signed) :
    signed.claims.expiry.toInt = (instant + span) / 1000000000 := by
  have hsecond := exists_issueFor?_iff.mp ⟨signed, h⟩
  rw [(issueFor?_eq_some h).1]
  exact toInt_ofInt_of_isStampSecond hsecond

/-- The second of an instant in whole milliseconds. -/
theorem second_of_millis (now : Nat) : 1000000 * now / 1000000000 = now / 1000 := by
  omega

/-- In whole milliseconds and seconds, the second of expiry is the second of issue and the
lifetime. -/
theorem second_add (now : Nat) (ttl : Int) :
    ((1000000 * now : Nat) + 1000000000 * ttl : Int) / 1000000000 = (now / 1000 : Nat) + ttl := by
  omega

/-- A token that has not expired but is incomplete is refused for that. -/
theorem claimsOf_sign_of_incomplete (hexpiry : 0 ≤ c.expiry.toInt)
    (hnow : (now / 1000 : Nat) ≤ c.expiry.toInt) (hkind : c.kind = kind)
    (h : c.user ≤ 0 ∨ c.accessUuid = "" ∨ c.refreshUuid = "") :
    σ.claimsOf now (sign (σ.secret kind) c) kind =
      .error (.malformed (if c.user ≤ 0 then .missingUser else .missingUuid)) := by
  rw [claimsOf_sign, checkValidity_eq_ok_iff.mpr ⟨hexpiry, hnow⟩, ok_bind,
    checkComplete_of_incomplete hkind h]
  rfl

/-- A signed token is what was asked for: it names the subject, lives for the span, and is read
back as its claims while it lives. -/
structure IsFor (σ : Signer) (instant : Nat) (kind : Kind) (subject : Subject) (span : Int)
    (signed : Signed) : Prop where
  user : signed.claims.user = subject.user
  accessUuid : signed.claims.accessUuid = subject.accessUuid
  refreshUuid : signed.claims.refreshUuid = subject.refreshUuid
  kind_eq : signed.claims.kind = kind
  expiry : signed.claims.expiry.toInt = (instant + span) / 1000000000
  /-- With a lifetime of whole seconds the second of expiry is that far from the second of
  issue. -/
  lifetime : ∀ ttl : Int, span = 1000000000 * ttl →
    Time.IsStampSecond (instant / 1000000000 : Nat) →
    signed.claims.expiry.toInt - signed.claims.issuedAt.toInt = ttl
  expired : ∀ later : Nat, signed.claims.expiry.toInt < (later / 1000 : Nat) →
    σ.claimsOf later signed.token kind = .error .expired
  read : 0 < subject.user → subject.accessUuid ≠ "" → subject.refreshUuid ≠ "" →
    ∀ later : Nat, (later / 1000 : Nat) ≤ signed.claims.expiry.toInt →
      σ.claimsOf later signed.token kind = .ok signed.claims
  incomplete : subject.user ≤ 0 ∨ subject.accessUuid = "" ∨ subject.refreshUuid = "" →
    ∀ later : Nat, (later / 1000 : Nat) ≤ signed.claims.expiry.toInt →
      σ.claimsOf later signed.token kind =
        .error (.malformed (if subject.user ≤ 0 then .missingUser else .missingUuid))

theorem isFor_of_issueFor? (h : σ.issueFor? instant kind subject span = some signed)
    (hpos : 0 ≤ (instant + span) / 1000000000) : IsFor σ instant kind subject span signed := by
  have hexpiry := issueFor?_expiry h
  obtain ⟨hclaims, htoken⟩ := issueFor?_eq_some h
  obtain ⟨token, claims⟩ := signed
  simp only at hclaims hexpiry htoken
  have huser : claims.user = subject.user := congrArg Claims.user hclaims
  have haccess : claims.accessUuid = subject.accessUuid := congrArg Claims.accessUuid hclaims
  have hrefresh : claims.refreshUuid = subject.refreshUuid := congrArg Claims.refreshUuid hclaims
  have hkind : claims.kind = kind := congrArg Claims.kind hclaims
  refine ⟨huser, haccess, hrefresh, hkind, hexpiry, ?_, ?_, ?_, ?_⟩
  · rintro ttl rfl hsecond
    have hissued : claims.issuedAt.toInt = (instant / 1000000000 : Nat) := by
      rw [congrArg Claims.issuedAt hclaims]
      exact toInt_ofInt_of_isStampSecond hsecond
    simp only [hexpiry, hissued]
    omega
  · intro later hlater
    rw [htoken]
    exact claimsOf_sign_of_expired (hexpiry ▸ hpos) hlater
  · intro hpos haid hrid later hlater
    rw [htoken]
    exact claimsOf_sign_eq_ok_iff.mpr
      ⟨rfl, hlater, hkind, huser ▸ hpos, haccess ▸ haid, hrefresh ▸ hrid⟩
  · intro hmissing later hlater
    rw [← huser, ← haccess, ← hrefresh] at hmissing
    rw [htoken, ← huser]
    exact claimsOf_sign_of_incomplete (hexpiry ▸ hpos) hlater hkind hmissing

/-- Reading undoes issuing, whatever the secrets, the subject, the instant and the span. A token is
issued if its expiry lies in the calendar, and it is then what was asked for, unless it expires
before 1970. -/
theorem reads_issued (σ : Signer) (instant : Nat) (kind : Kind) (subject : Subject) (span : Int)
    (hpos : 0 ≤ (instant + span) / 1000000000) :
    ((∃ signed, σ.issueFor? instant kind subject span = some signed) ↔
        Time.IsStampSecond ((instant + span) / 1000000000)) ∧
      ∀ signed, σ.issueFor? instant kind subject span = some signed →
        IsFor σ instant kind subject span signed :=
  ⟨exists_issueFor?_iff, fun _ hsigned => isFor_of_issueFor? hsigned hpos⟩

/-- A token for half a second more than a quarter of an hour, issued late in 2023, with an
identifier that has to be escaped. -/
theorem reads_issued_fraction :
    0 ≤ (((1700000000750000000 : Nat) : Int) + 900500000000) / 1000000000 ∧
      ∃ signed, Signer.issueFor? ⟨"s", "s"⟩ 1700000000750000000 .access ⟨1, "a\".\n", "b"⟩
        900500000000 = some signed ∧
      Signer.claimsOf ⟨"s", "s"⟩ 1700000901999 signed.token .access = .ok signed.claims := by
  have hpos : 0 ≤ (((1700000000750000000 : Nat) : Int) + 900500000000) / 1000000000 := by decide
  obtain ⟨hissued, hfor⟩ := reads_issued ⟨"s", "s"⟩ 1700000000750000000 .access
    ⟨1, "a\".\n", "b"⟩ 900500000000 hpos
  obtain ⟨signed, hsigned⟩ := hissued.mpr (by decide)
  have h := hfor signed hsigned
  have hexpiry : signed.claims.expiry.toInt = 1700000901 := h.expiry
  exact ⟨hpos, signed, hsigned,
    h.read (by decide) (by decide) (by decide) _ (by rw [hexpiry]; decide)⟩

end Signer

end SessionLedger.Token
