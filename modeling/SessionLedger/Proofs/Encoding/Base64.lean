import SessionLedger.Encoding.Base64

/-! Octets are read from their written form and from nothing else, and the written form has nothing
but symbols. -/
namespace SessionLedger.Encoding.Base64

/-- An alphabet of 64 different symbols. -/
structure IsAlphabet (alphabet : Alphabet) : Prop where
  length : alphabet.length = 64
  nodup : alphabet.Nodup

theorem isAlphabet_urlSafe : IsAlphabet urlSafe :=
  ⟨by decide, by decide⟩

theorem digit_lt (bs : List UInt8) {n : Nat} (h : n ∈ digits bs) : n < 64 := by
  fun_induction digits bs with
  | case1 a b c rest ih =>
    have ha := a.toNat_lt
    have hb := b.toNat_lt
    have hc := c.toNat_lt
    simp only [List.mem_cons] at h
    rcases h with rfl | rfl | rfl | rfl | h
    · omega
    · omega
    · omega
    · omega
    · exact ih h
  | case2 a b =>
    have ha := a.toNat_lt
    have hb := b.toNat_lt
    simp only [List.mem_cons, List.not_mem_nil, or_false] at h
    omega
  | case3 a =>
    have ha := a.toNat_lt
    simp only [List.mem_cons, List.not_mem_nil, or_false] at h
    omega
  | case4 => cases h

/-- The digits that stand for octets are the digits of those octets: bits that belong to no octet
are refused. -/
theorem digits_of_octets? {ns : List Nat} {bs : List UInt8} (hns : ∀ n ∈ ns, n < 64)
    (h : octets? ns = some bs) : digits bs = ns := by
  fun_induction octets? ns generalizing bs with
  | case1 p q r s rest ih =>
    simp only [Option.bind_eq_bind, Option.bind_eq_some_iff, Option.pure_def,
      Option.some.injEq] at h
    obtain ⟨tail, htail, rfl⟩ := h
    simp only [List.mem_cons, forall_eq_or_imp] at hns
    obtain ⟨hp, hq, hr, hs, hrest⟩ := hns
    simp only [digits, ih hrest htail, UInt8.toNat_ofNat', List.cons.injEq, and_true]
    omega
  | case2 p q r hzero =>
    cases h
    simp only [List.mem_cons, forall_eq_or_imp] at hns
    simp only [digits, UInt8.toNat_ofNat', List.cons.injEq, and_true]
    omega
  | case4 p q hzero =>
    cases h
    simp only [List.mem_cons, forall_eq_or_imp] at hns
    simp only [digits, UInt8.toNat_ofNat', List.cons.injEq, and_true]
    omega
  | case7 =>
    cases h
    rfl
  | _ => cases h

namespace IsAlphabet
variable {alphabet : Alphabet} (h : IsAlphabet alphabet)
include h

theorem getD_mem {n : Nat} (hn : n < 64) : alphabet.getD n ' ' ∈ alphabet := by
  rw [← h.length] at hn
  rw [List.getD_eq_getElem?_getD, List.getElem?_eq_getElem hn]
  exact List.getElem_mem hn

theorem value?_getD {n : Nat} (hn : n < 64) : value? alphabet (alphabet.getD n ' ') = some n := by
  rw [← h.length] at hn
  rw [List.getD_eq_getElem?_getD, List.getElem?_eq_getElem hn, Option.getD_some, value?,
    List.idxOf?_eq_some_iff]
  refine ⟨hn, rfl, fun m hm heq => ?_⟩
  exact List.pairwise_iff_getElem.mp h.nodup m n _ hn hm heq

theorem mapM_value? {ns : List Nat} (hns : ∀ n ∈ ns, n < 64) :
    (ns.map (alphabet.getD · ' ')).mapM (value? alphabet) = some ns := by
  induction ns with
  | nil => rfl
  | cons n ns ih =>
    rw [List.map_cons, List.mapM_cons, h.value?_getD (hns n (by simp)),
      ih fun m hm => hns m (by simp [hm])]
    rfl

/-- Octets are read from their written form. -/
theorem decode?_encode (bs : List UInt8) : decode? alphabet (encode alphabet bs) = some bs := by
  rw [decode?, encode, h.mapM_value? fun n hn => digit_lt bs hn, Option.bind_some,
    octets?_digits]

theorem of_value? {c : Char} {n : Nat} (hc : value? alphabet c = some n) :
    n < 64 ∧ alphabet.getD n ' ' = c := by
  rw [value?, List.idxOf?_eq_some_iff] at hc
  obtain ⟨hn, rfl, -⟩ := hc
  refine ⟨h.length ▸ hn, ?_⟩
  rw [List.getD_eq_getElem?_getD, List.getElem?_eq_getElem hn, Option.getD_some]

theorem of_mapM_value? {cs : List Char} {ns : List Nat}
    (hcs : cs.mapM (value? alphabet) = some ns) :
    (∀ n ∈ ns, n < 64) ∧ ns.map (alphabet.getD · ' ') = cs := by
  induction cs generalizing ns with
  | nil =>
    cases hcs
    exact ⟨nofun, rfl⟩
  | cons c cs ih =>
    simp only [List.mapM_cons, Option.bind_eq_bind, Option.bind_eq_some_iff, Option.pure_def,
      Option.some.injEq] at hcs
    obtain ⟨n, hn, ms, hms, rfl⟩ := hcs
    obtain ⟨hlt, heq⟩ := h.of_value? hn
    obtain ⟨hall, htail⟩ := ih hms
    exact ⟨by simpa using ⟨hlt, hall⟩, by rw [List.map_cons, heq, htail]⟩

/-- Octets are read from their written form and from no other text. -/
theorem decode?_eq_some_iff {cs : List Char} {bs : List UInt8} :
    decode? alphabet cs = some bs ↔ cs = encode alphabet bs := by
  constructor
  · intro hcs
    obtain ⟨ns, hns, hbs⟩ := Option.bind_eq_some_iff.mp hcs
    obtain ⟨hlt, rfl⟩ := h.of_mapM_value? hns
    rw [encode, digits_of_octets? hlt hbs]
  · rintro rfl
    exact h.decode?_encode bs

theorem encode_inj {bs bs' : List UInt8} :
    encode alphabet bs = encode alphabet bs' ↔ bs = bs' := by
  constructor
  · intro heq
    have hbs := h.decode?_encode bs
    rw [heq, h.decode?_encode bs'] at hbs
    exact (Option.some.inj hbs).symm
  · rintro rfl
    rfl

theorem mem_of_mem_encode {bs : List UInt8} {c : Char} (hc : c ∈ encode alphabet bs) :
    c ∈ alphabet := by
  obtain ⟨n, hn, rfl⟩ := List.mem_map.mp hc
  exact h.getD_mem (digit_lt bs hn)

end IsAlphabet

end SessionLedger.Encoding.Base64
