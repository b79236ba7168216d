import SessionLedger.Proofs.Token.Signer

/-! Which texts are tokens. A text is read as claims of a kind just if it is put together the way
tokens are: three parts joined by points, each in the one written form of its octets, and the last
of them the keyed digest of the text before it. The claims name their kind, so no text is a token
of both kinds, whatever the secrets. -/
namespace SessionLedger.Token
open Encoding Json Text

/-! ## What each check lets through -/

theorem octetsOf_eq_ok_iff {written : List Char} {bs : List UInt8} :
    octetsOf written = .ok bs ↔ written = part bs := by
  rw [part, ← Base64.isAlphabet_urlSafe.decode?_eq_some_iff, octetsOf]
  cases Base64.decode? Base64.urlSafe written with
  | none => simp only [reduceCtorEq]
  | some bs' => rw [Except.ok.injEq, Option.some.injEq]

theorem jsonOf_eq_ok_iff {α : Type} {reader : Json.Reader α} {bs : List UInt8} {a : α} :
    jsonOf reader bs = .ok a ↔ reader.whole bs = some a := by
  rw [jsonOf]
  cases reader.whole bs with
  | none => simp only [reduceCtorEq]
  | some a' => rw [Except.ok.injEq, Option.some.injEq]

theorem parts?_eq_some_iff {token : String} {header payload written : List Char} :
    parts? token = some (header, payload, written) ↔
      token.toList = (header ++ '.' :: payload) ++ '.' :: written ∧
        '.' ∉ payload ∧ '.' ∉ written := by
  simp only [parts?, Option.bind_eq_bind, Option.bind_eq_some_iff, Option.pure_def,
    Option.some.injEq, Prod.exists, Prod.mk.injEq, splitLast?_eq_some_iff]
  constructor
  · rintro ⟨_, _, ⟨htoken, hwritten⟩, _, _, ⟨rfl, hpayload⟩, rfl, rfl, rfl⟩
    exact ⟨htoken, hpayload, hwritten⟩
  · rintro ⟨htoken, hpayload, hwritten⟩
    exact ⟨_, _, ⟨htoken, hwritten⟩, _, _, ⟨rfl, hpayload⟩, rfl, rfl, rfl⟩

theorem checkSignature_eq_ok_iff {secret : String} {header payload written : List Char} :
    checkSignature secret header payload written = .ok () ↔
      ∃ bs, header = part bs ∧ Header.reader.whole bs = some .hs256 ∧
        written = signature secret (header ++ '.' :: payload) := by
  simp only [checkSignature, bind_eq_ok_iff, octetsOf_eq_ok_iff, jsonOf_eq_ok_iff]
  constructor
  · rintro ⟨bs, hbs, algorithm, hread, h⟩
    by_cases halgorithm : algorithm = .hs256
    · by_cases hwritten : signature secret (header ++ '.' :: payload) = written
      · exact ⟨bs, hbs, halgorithm ▸ hread, hwritten.symm⟩
      · simp only [halgorithm, hwritten, ne_eq, not_true_eq_false, not_false_eq_true, if_false,
          if_true] at h
        cases h
    · simp only [halgorithm, ne_eq, not_false_eq_true, if_true] at h
      cases h
  · rintro ⟨bs, hbs, hread, rfl⟩
    refine ⟨bs, hbs, .hs256, hread, ?_⟩
    simp only [ne_eq, not_true_eq_false, if_false]
    rfl

theorem checkValidity_ok_iff {now : Int} {c : Claims} {registered : RegisteredClaims} :
    checkValidity now c registered = .ok () ↔
      registered = ⟨true, false⟩ ∧ now ≤ c.expiry.toInt := by
  obtain ⟨hasExpiry, hasAudience⟩ := registered
  by_cases hnow : c.expiry.toInt < now
  · have hlate : ¬ now ≤ c.expiry.toInt := Int.not_le.mpr hnow
    simp only [hlate, and_false, iff_false]
    cases hasExpiry with
    | false => exact fun h => by cases h
    | true =>
      simp only [checkValidity, hnow, if_true]
      exact fun h => by cases h
  · have hlive : now ≤ c.expiry.toInt := Int.not_lt.mp hnow
    simp only [checkValidity, hnow, hlive, if_false, and_true]
    cases hasExpiry with
    | false => exact iff_of_false (fun h => by cases h) fun h => by cases h
    | true =>
      cases hasAudience with
      | false => exact ⟨fun _ => rfl, fun _ => rfl⟩
      | true => exact iff_of_false (fun h => by cases h) fun h => by cases h

/-! ## Genuine tokens -/

/-- A text is a token of a kind that says `c` and holds at an instant in milliseconds; it is made
of the octets of a header and of a payload. -/
structure Genuine (σ : Signer) (now : Nat) (token : String) (kind : Kind) (c : Claims)
    (header payload : List UInt8) : Prop where
  /-- The last part is the keyed digest of the text of the first two, character for character. -/
  written : token.toList = (part header ++ '.' :: part payload) ++ '.' ::
    part (Digest.Hmac.code (Utf8.encode (σ.secret kind))
      (Utf8.encode (String.ofList (part header ++ '.' :: part payload))))
  algorithm : Header.reader.whole header = some .hs256
  claims : Claims.reader.whole payload = some c
  /-- There is an expiry, and the token is meant for nobody else. -/
  registered : RegisteredClaims.reader.whole payload = some ⟨true, false⟩
  unexpired : (now / 1000 : Nat) ≤ c.expiry.toInt
  kind_eq : c.kind = kind
  user_pos : 0 < c.user
  accessUuid_ne : c.accessUuid ≠ ""
  refreshUuid_ne : c.refreshUuid ≠ ""

namespace Genuine
variable {σ σ' : Signer} {now now' : Nat} {token : String} {kind kind' : Kind} {c c' : Claims}
  {header header' payload payload' : List UInt8}

/-- The parts of a token stand between its last two points and around them. -/
theorem parts (h : Genuine σ now token kind c header payload) :
    parts? token = some (part header, part payload,
      signature (σ.secret kind) (part header ++ '.' :: part payload)) :=
  parts?_eq_some_iff.mpr ⟨h.written, point_notMem_part _, point_notMem_part _⟩

/-- A text has one payload, so it says the same under all secrets and at all times. -/
theorem unique (h : Genuine σ now token kind c header payload)
    (h' : Genuine σ' now' token kind' c' header' payload') : c = c' ∧ kind = kind' := by
  have hparts := h.parts
  rw [h'.parts, Option.some.injEq, Prod.mk.injEq, Prod.mk.injEq] at hparts
  obtain rfl : payload' = payload := Base64.isAlphabet_urlSafe.encode_inj.mp hparts.2.1
  obtain rfl : c = c' := Option.some.inj (h.claims.symm.trans h'.claims)
  exact ⟨rfl, h.kind_eq.symm.trans h'.kind_eq⟩

end Genuine

/-- A text is read as claims just if it is a token that says so. -/
theorem Signer.claimsOf_eq_ok_iff {σ : Signer} {now : Nat} {token : String} {kind : Kind}
    {c : Claims} :
    σ.claimsOf now token kind = .ok c ↔
      ∃ header payload, Genuine σ now token kind c header payload := by
  constructor
  · intro h
    simp only [claimsOf] at h
    split at h
    · cases h
    · next header payload written hparts =>
      obtain ⟨_, hsignature, h⟩ := bind_eq_ok_iff.mp h
      obtain ⟨bs, hbs, h⟩ := bind_eq_ok_iff.mp h
      obtain ⟨claims, hclaims, h⟩ := bind_eq_ok_iff.mp h
      obtain ⟨registered, hregistered, h⟩ := bind_eq_ok_iff.mp h
      obtain ⟨_, hvalid, h⟩ := bind_eq_ok_iff.mp h
      obtain ⟨_, hcomplete, h⟩ := bind_eq_ok_iff.mp h
      cases h
      obtain ⟨hs, rfl, hheader, rfl⟩ := checkSignature_eq_ok_iff.mp hsignature
      obtain rfl := octetsOf_eq_ok_iff.mp hbs
      obtain ⟨rfl, hunexpired⟩ := checkValidity_ok_iff.mp hvalid
      obtain ⟨hkind, huser, haccess, hrefresh⟩ := checkComplete_eq_ok_iff.mp hcomplete
      exact ⟨hs, bs, (parts?_eq_some_iff.mp hparts).1, hheader, jsonOf_eq_ok_iff.mp hclaims,
        jsonOf_eq_ok_iff.mp hregistered, hunexpired, hkind, huser, haccess, hrefresh⟩
  · rintro ⟨header, payload, h⟩
    have hsignature : checkSignature (σ.secret kind) (part header) (part payload)
        (signature (σ.secret kind) (part header ++ '.' :: part payload)) = .ok () :=
      checkSignature_eq_ok_iff.mpr ⟨header, rfl, h.algorithm, rfl⟩
    have hvalid := checkValidity_ok_iff.mpr
      ⟨(rfl : (⟨true, false⟩ : RegisteredClaims) = _), h.unexpired⟩
    have hcomplete := checkComplete_eq_ok_iff.mpr
      ⟨h.kind_eq, h.user_pos, h.accessUuid_ne, h.refreshUuid_ne⟩
    simp only [claimsOf, h.parts, hsignature, octetsOf_eq_ok_iff.mpr rfl,
      jsonOf_eq_ok_iff.mpr h.claims, jsonOf_eq_ok_iff.mpr h.registered, hvalid, hcomplete, ok_bind]
    rfl

/-- A text that is read as a token is not blank. -/
theorem Signer.isAllBlank_of_claimsOf {σ : Signer} {now : Nat} {token : String} {kind : Kind}
    {c : Claims} (h : σ.claimsOf now token kind = .ok c) : isAllBlank token = false := by
  obtain ⟨header, payload, hgenuine⟩ := claimsOf_eq_ok_iff.mp h
  rw [isAllBlank, hgenuine.written, List.all_append, List.all_cons,
    show isBlank '.' = false by decide]
  simp

/-- No text is read as a token of both kinds, under whatever secrets and at whatever times. -/
theorem Signer.kind_unique {σ σ' : Signer} {now now' : Nat} {token : String} {kind kind' : Kind}
    {c c' : Claims} (h : σ.claimsOf now token kind = .ok c)
    (h' : σ'.claimsOf now' token kind' = .ok c') : kind = kind' := by
  obtain ⟨header, payload, hgenuine⟩ := claimsOf_eq_ok_iff.mp h
  obtain ⟨header', payload', hgenuine'⟩ := claimsOf_eq_ok_iff.mp h'
  exact (hgenuine.unique hgenuine').2

end SessionLedger.Token
