import SessionLedger.Proofs.Encoding.Base64
import SessionLedger.Proofs.Token.Claims
import SessionLedger.Text.Blank
import SessionLedger.Token.Signer

/-! A signed token is read back as the claims that were signed, as long as they hold and are
complete. -/
namespace SessionLedger.Token
open Encoding Json Text

/-! ## The header -/

namespace Header

/-- What the fields of the header of an issued token hold. -/
def values : (f : Field) → layout.Value f
  | .type => some "JWT"
  | .algorithm => .hs256
  | .contentType => none
  | .keySetUrl => none
  | .key => none
  | .keyId => none
  | .certificateUrl => none
  | .certificates => none
  | .thumbprint => none
  | .thumbprint256 => none

theorem takes_reader : reader.Takes issued.write .hs256 := by
  have htype : (Reader.optional Reader.text).Takes (Value.text "JWT").write (some "JWT") := by
    rw [Value.write]
    exact Reader.takes_optionalText "JWT"
  have halgorithm : (Reader.choice Algorithm.ofName?).Takes (Value.text "HS256").write .hs256 := by
    rw [Value.write]
    exact Reader.takes_choice rfl
  have hfolds : Reader.Folds (Layout.readMember (L := layout)) layout.blank
      [("typ", .text "JWT"), ("alg", .text "HS256")]
      ((layout.blank.set Field.type (some "JWT")).set Field.algorithm .hs256) :=
    .cons (Layout.takes_field (f := Field.type) rfl rfl htype)
      (.cons (Layout.takes_field (f := Field.algorithm) rfl rfl halgorithm) (.nil _))
  have hvalue : ∀ f, ((layout.blank.set Field.type (some "JWT")).set Field.algorithm
      .hs256).value? f = some (values f) := fun f => by
    cases f <;> rfl
  exact Layout.takes_reader hfolds hvalue

end Header

/-! ## Parts -/

theorem ok_bind {ε α β : Type} (a : α) (f : α → Except ε β) : (Except.ok a >>= f) = f a := rfl

theorem bind_eq_ok_iff {ε α β : Type} {x : Except ε α} {f : α → Except ε β} {b : β} :
    (x >>= f) = .ok b ↔ ∃ a, x = .ok a ∧ f a = .ok b := by
  cases x with
  | error e =>
    constructor
    · rintro ⟨⟩
    · rintro ⟨a, ⟨⟩, -⟩
  | ok a =>
    constructor
    · exact fun h => ⟨a, rfl, h⟩
    · rintro ⟨_, ⟨⟩, h⟩
      exact h

theorem eq_ok_of_toOption {ε α : Type} {x : Except ε α} {a : α} (h : x.toOption = some a) :
    x = .ok a := by
  cases x with
  | error e => cases h
  | ok b =>
    cases h
    rfl

theorem octetsOf_part (bs : List UInt8) : octetsOf (part bs) = .ok bs := by
  rw [octetsOf, part, Base64.isAlphabet_urlSafe.decode?_encode]

theorem jsonOf_jsonPart {α : Type} {r : Json.Reader α} {v : Json.Value} {a : α}
    (h : r.Takes v.write a) : jsonOf r (Utf8.encode v.compact) = .ok a := by
  rw [jsonOf, encode_compact, h.whole]

theorem point_notMem_part (bs : List UInt8) : '.' ∉ part bs := by
  intro h
  have hmem := Base64.isAlphabet_urlSafe.mem_of_mem_encode h
  revert hmem
  decide

theorem parts?_sign (secret : String) (c : Claims) :
    parts? (sign secret c) = some (jsonPart Header.issued, jsonPart c.toJson,
      signature secret (jsonPart Header.issued ++ '.' :: jsonPart c.toJson)) := by
  have hmessage : ∀ message, splitLast? '.' (message ++ '.' :: signature secret message) =
      some (message, signature secret message) := fun message =>
    splitLast?_eq_some_iff.mpr ⟨rfl, point_notMem_part _⟩
  have hheader : splitLast? '.' (jsonPart Header.issued ++ '.' :: jsonPart c.toJson) =
      some (jsonPart Header.issued, jsonPart c.toJson) :=
    splitLast?_eq_some_iff.mpr ⟨rfl, point_notMem_part _⟩
  simp only [parts?, sign, String.toList_ofList, hmessage, hheader, Option.bind_eq_bind,
    Option.bind_some, Option.pure_def]

/-- Tokens that carry different claims differ. -/
theorem sign_inj {secret : String} {c c' : Claims} :
    sign secret c = sign secret c' ↔ c = c' := by
  constructor
  · intro h
    -- Both tokens have one payload, which is read as the claims of either.
    have hparts := parts?_sign secret c
    rw [h, parts?_sign secret c', Option.some.injEq, Prod.mk.injEq, Prod.mk.injEq] at hparts
    have hoctets := Base64.isAlphabet_urlSafe.encode_inj.mp hparts.2.1
    have hread : jsonOf Claims.reader (Utf8.encode c.toJson.compact) = .ok c :=
      jsonOf_jsonPart c.takes_reader
    rw [← hoctets, jsonOf_jsonPart c'.takes_reader] at hread
    cases hread
    rfl
  · rintro rfl
    rfl

/-- A token has points in it. -/
theorem isAllBlank_sign {secret : String} {c : Claims} :
    isAllBlank (sign secret c) = false := by
  simp only [isAllBlank, sign, String.toList_ofList, List.all_append, List.all_cons]
  rw [show isBlank '.' = false by decide]
  simp

theorem checkSignature_sign (secret : String) (payload : List Char) :
    checkSignature secret (jsonPart Header.issued) payload
      (signature secret (jsonPart Header.issued ++ '.' :: payload)) = .ok () := by
  have hheader : jsonOf Header.reader (Utf8.encode Header.issued.compact) = .ok .hs256 :=
    jsonOf_jsonPart Header.takes_reader
  have hoctets : octetsOf (jsonPart Header.issued) = .ok (Utf8.encode Header.issued.compact) :=
    octetsOf_part _
  simp only [checkSignature, hoctets, hheader, ok_bind, ne_eq, not_true_eq_false, if_false]
  rfl

/-! ## Checks -/

theorem checkValidity_eq_ok_iff {now : Int} {c : Claims} :
    checkValidity now c ⟨0 ≤ c.expiry.toInt, false⟩ = .ok () ↔
      0 ≤ c.expiry.toInt ∧ now ≤ c.expiry.toInt := by
  simp only [checkValidity]
  by_cases hpos : 0 ≤ c.expiry.toInt
  · by_cases hnow : c.expiry.toInt < now
    · simp only [hpos, hnow, decide_true, Bool.not_true, Bool.false_eq_true, if_false, if_true]
      constructor
      · rintro ⟨⟩
      · exact fun h => absurd h.2 (Int.not_le.mpr hnow)
    · simp only [hpos, hnow, decide_true, Bool.not_true, Bool.false_eq_true, if_false]
      exact ⟨fun _ => ⟨trivial, Int.not_lt.mp hnow⟩, fun _ => rfl⟩
  · simp only [hpos, decide_false, Bool.not_false, if_true]
    constructor
    · rintro ⟨⟩
    · exact fun h => h.1.elim

theorem checkComplete_eq_ok_iff {kind : Kind} {c : Claims} :
    checkComplete kind c = .ok () ↔
      c.kind = kind ∧ 0 < c.user ∧ c.accessUuid ≠ "" ∧ c.refreshUuid ≠ "" := by
  simp only [checkComplete]
  by_cases hkind : c.kind = kind
  · by_cases huser : c.user ≤ 0
    · simp only [hkind, huser, ne_eq, not_true_eq_false, if_false, if_true]
      constructor
      · rintro ⟨⟩
      · exact fun h => absurd huser (Int64.not_le.mpr h.2.1)
    · have hpos : 0 < c.user := Int64.not_le.mp huser
      by_cases huuid : (c.accessUuid.isEmpty || c.refreshUuid.isEmpty) = true
      · simp only [hkind, huser, huuid, ne_eq, not_true_eq_false, if_false, if_true]
        constructor
        · rintro ⟨⟩
        · rintro ⟨-, -, ha, hr⟩
          rw [Bool.or_eq_true, String.isEmpty_iff, String.isEmpty_iff] at huuid
          exact (huuid.elim ha hr).elim
      · simp only [hkind, huser, huuid, ne_eq, not_true_eq_false, if_false]
        rw [Bool.or_eq_true, String.isEmpty_iff, String.isEmpty_iff, not_or] at huuid
        exact ⟨fun _ => ⟨trivial, hpos, huuid⟩, fun _ => rfl⟩
  · simp only [hkind, ne_eq, not_false_eq_true, if_true]
    constructor
    · rintro ⟨⟩
    · exact fun h => h.1.elim

namespace Signer
variable {σ : Signer} {now : Nat} {kind : Kind} {c c' : Claims}

/-- A token that was signed for its kind is checked like its claims. -/
theorem claimsOf_sign (σ : Signer) (now : Nat) (kind : Kind) (c : Claims) :
    σ.claimsOf now (sign (σ.secret kind) c) kind = (do
      checkValidity (now / 1000 : Nat) c ⟨0 ≤ c.expiry.toInt, false⟩
      checkComplete kind c
      return c) := by
  have hclaims : jsonOf Claims.reader (Utf8.encode c.toJson.compact) = .ok c :=
    jsonOf_jsonPart c.takes_reader
  have hregistered : jsonOf RegisteredClaims.reader (Utf8.encode c.toJson.compact) =
      .ok ⟨0 ≤ c.expiry.toInt, false⟩ := jsonOf_jsonPart (RegisteredClaims.takes_reader c)
  have hoctets : octetsOf (jsonPart c.toJson) = .ok (Utf8.encode c.toJson.compact) :=
    octetsOf_part _
  simp only [claimsOf, parts?_sign, checkSignature_sign, hoctets, hclaims, hregistered, ok_bind]

/-- A token that has expired is refused for that, whatever else it says. -/
theorem claimsOf_sign_of_expired (hexpiry : 0 ≤ c.expiry.toInt)
    (h : c.expiry.toInt < (now / 1000 : Nat)) :
    σ.claimsOf now (sign (σ.secret kind) c) kind = .error .expired := by
  have hvalidity : checkValidity (now / 1000 : Nat) c ⟨0 ≤ c.expiry.toInt, false⟩ =
      .error .expired := by
    simp only [checkValidity, hexpiry, h, decide_true, Bool.not_true, Bool.false_eq_true, if_false,
      if_true]
    rfl
  rw [claimsOf_sign, hvalidity]
  rfl

/-- A token that was signed for its kind is read as its claims, if they have not expired and are
complete. -/
theorem claimsOf_sign_eq_ok_iff :
    σ.claimsOf now (sign (σ.secret kind) c) kind = .ok c' ↔
      c' = c ∧ (now / 1000 : Nat) ≤ c.expiry.toInt ∧
        c.kind = kind ∧ 0 < c.user ∧ c.accessUuid ≠ "" ∧ c.refreshUuid ≠ "" := by
  rw [claimsOf_sign]
  have hvalidity : checkValidity (now / 1000 : Nat) c ⟨0 ≤ c.expiry.toInt, false⟩ = .ok () ↔
      0 ≤ c.expiry.toInt ∧ (now / 1000 : Nat) ≤ c.expiry.toInt := checkValidity_eq_ok_iff
  have hcomplete : checkComplete kind c = .ok () ↔
      c.kind = kind ∧ 0 < c.user ∧ c.accessUuid ≠ "" ∧ c.refreshUuid ≠ "" :=
    checkComplete_eq_ok_iff
  cases hv : checkValidity (now / 1000 : Nat) c ⟨0 ≤ c.expiry.toInt, false⟩ with
  | error e =>
    rw [hv] at hvalidity
    constructor
    · rintro ⟨⟩
    · -- Claims that have not expired do not expire before 1970 either.
      rintro ⟨-, hnow, -⟩
      cases hvalidity.mpr ⟨by omega, hnow⟩
  | ok u =>
    rw [hv] at hvalidity
    rw [ok_bind]
    cases hk : checkComplete kind c with
    | error e =>
      rw [hk] at hcomplete
      constructor
      · rintro ⟨⟩
      · rintro ⟨-, -, h⟩
        cases hcomplete.mpr h
    | ok u =>
      rw [hk] at hcomplete
      constructor
      · rintro ⟨⟩
        exact ⟨rfl, (hvalidity.mp rfl).2, hcomplete.mp rfl⟩
      · rintro ⟨rfl, -⟩
        rfl

/-- What a token is read as stands in its second part. -/
theorem payload_of_claimsOf {token : String} (h : σ.claimsOf now token kind = .ok c) :
    ∃ header payload written bs, parts? token = some (header, payload, written) ∧
      octetsOf payload = .ok bs ∧ jsonOf Claims.reader bs = .ok c := by
  simp only [claimsOf] at h
  split at h
  · cases h
  · next header payload written hparts =>
    obtain ⟨_, -, h⟩ := bind_eq_ok_iff.mp h
    obtain ⟨bs, hoctets, h⟩ := bind_eq_ok_iff.mp h
    obtain ⟨c, hclaims, h⟩ := bind_eq_ok_iff.mp h
    -- The checks that follow do not change the claims.
    obtain ⟨_, -, h⟩ := bind_eq_ok_iff.mp h
    obtain ⟨_, -, h⟩ := bind_eq_ok_iff.mp h
    obtain ⟨_, -, h⟩ := bind_eq_ok_iff.mp h
    cases h
    exact ⟨header, payload, written, bs, hparts, hoctets, hclaims⟩

/-- A token is read as the same claims at all times and for all kinds. -/
theorem claimsOf_unique {token : String} {now' : Nat} {kind' : Kind}
    (h : σ.claimsOf now token kind = .ok c) (h' : σ.claimsOf now' token kind' = .ok c') :
    c = c' := by
  obtain ⟨header, payload, written, bs, hparts, hoctets, hclaims⟩ := payload_of_claimsOf h
  obtain ⟨_, _, _, _, hparts', hoctets', hclaims'⟩ := payload_of_claimsOf h'
  rw [hparts] at hparts'
  cases hparts'
  rw [hoctets] at hoctets'
  cases hoctets'
  rw [hclaims] at hclaims'
  cases hclaims'
  rfl

end Signer

end SessionLedger.Token
