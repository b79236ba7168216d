import SessionLedger.Proofs.Text.Decimal
import SessionLedger.World
import Mathlib.Data.List.Forall2

/-! The text of an identifier. A version 4 UUID is written with lower-case hexadecimal digits and
with hyphens at four places; the digit after the second hyphen is the version and the one after the
third tells the variant. Only a short end of it can be a decimal number. -/
namespace SessionLedger.Uuid
open Text

/-- What may stand at a place of an identifier. -/
inductive Place where
  | digit
  | hyphen
  | version
  | variant

/-- The character may stand at a place. -/
def Place.Fits : Place → Char → Prop
  | .digit, c => c.isDigit = true ∨ 'a' ≤ c ∧ c ≤ 'f'
  | .hyphen, c => c = '-'
  | .version, c => c = '4'
  | .variant, c => c ∈ ['8', '9', 'a', 'b']

instance (p : Place) (c : Char) : Decidable (p.Fits c) :=
  match p with
  | .digit => inferInstanceAs (Decidable (_ ∨ _))
  | .hyphen | .version => inferInstanceAs (Decidable (_ = _))
  | .variant => inferInstanceAs (Decidable (_ ∈ _))

/-- The places of an identifier. -/
def places : List Place :=
  List.replicate 8 .digit ++ .hyphen :: List.replicate 4 .digit ++
    .hyphen :: .version :: List.replicate 3 .digit ++
    .hyphen :: .variant :: List.replicate 3 .digit ++ .hyphen :: List.replicate 12 .digit

/-- A version 4 UUID in lower case. -/
def IsCanonical (uuid : String) : Prop :=
  List.Forall₂ Place.Fits places uuid.toList

instance (uuid : String) : Decidable (IsCanonical uuid) :=
  inferInstanceAs (Decidable (List.Forall₂ _ _ _))

/-- There is an identifier that begins with a text. -/
def IsBeginning (head : String) : Prop :=
  ∃ tail, IsCanonical (head ++ tail)

variable {uuid head : String} {i : Int64} {n : Nat}

theorem IsCanonical.length (h : IsCanonical uuid) : uuid.length = 36 := by
  rw [← String.length_toList, ← h.length_eq]
  rfl

theorem IsCanonical.ne_empty (h : IsCanonical uuid) : uuid ≠ "" := by
  rintro rfl
  exact absurd h.length (by decide)

/-- The last hyphen has twelve digits after it. -/
theorem IsCanonical.hyphen (h : IsCanonical uuid) : uuid.toList[23]? = some '-' := by
  have hlength : uuid.toList.length = 36 := by
    rw [String.length_toList, h.length]
  have hfits : Place.hyphen.Fits (uuid.toList.get ⟨23, by omega⟩) :=
    List.Forall₂.get h (by decide : 23 < places.length) (by omega)
  rw [List.getElem?_eq_getElem (by omega)]
  exact congrArg some hfits

/-! ## Identifiers that end in a number -/

/-- No identifier stands at the end of a number. -/
theorem IsCanonical.ofInt_ne {i : Int} (h : IsCanonical uuid) (cs : List Char) :
    Decimal.ofInt i ≠ cs ++ uuid.toList := by
  intro heq
  have hhyphen : (Decimal.ofInt i)[cs.length + 23]? = some '-' := by
    rw [heq, List.getElem?_append_right (Nat.le_add_right _ _), Nat.add_sub_cancel_left, h.hyphen]
  exact absurd (Decimal.isDigit_of_getElem?_ofInt (Nat.succ_pos _) hhyphen) (by decide)

/-- A number that stands at the end of an identifier stands behind its last hyphen, or is negative
and starts with it. -/
theorem IsCanonical.length_of_decimal (h : IsCanonical (head ++ Decimal.ofInt64 i)) :
    23 ≤ head.length ∧ head.length < 36 := by
  have hlength := h.length
  have hhyphen := h.hyphen
  rw [String.length_append] at hlength
  constructor
  · refine Nat.le_of_not_lt fun hshort => ?_
    -- The hyphen would stand among the digits of the number.
    rw [String.toList_append, List.getElem?_append_right (by rw [String.length_toList]; omega),
      String.length_toList, Decimal.ofInt64, String.toList_ofList] at hhyphen
    exact absurd (Decimal.isDigit_of_getElem?_ofInt (by omega) hhyphen) (by decide)
  · have hpos : 0 < (Decimal.ofInt64 i).length := by
      rw [← String.length_toList, Decimal.ofInt64, String.toList_ofList]
      exact List.length_pos_of_ne_nil (Decimal.ofInt_ne_nil _)
    omega

/-- There is a number of up to twelve digits, and one of twelve digits and a sign, that may stand
at the end of an identifier. -/
theorem exists_decimal_fits : ∀ k : Fin 13, ∃ i : Int64,
    List.Forall₂ Place.Fits (places.drop (35 - k)) (Decimal.ofInt64 i).toList := by
  intro k
  by_cases hsigned : k = 12
  · subst hsigned
    exact ⟨-100000000000, by decide +kernel⟩
  · refine ⟨Int64.ofInt (Nat.pow 10 k : Nat), ?_⟩
    revert k
    decide +kernel

theorem IsBeginning.exists_decimal (h : IsBeginning head) (hlong : 23 ≤ head.length)
    (hshort : head.length < 36) : ∃ i : Int64, IsCanonical (head ++ Decimal.ofInt64 i) := by
  obtain ⟨tail, htail⟩ := h
  obtain ⟨i, hi⟩ := exists_decimal_fits ⟨35 - head.length, by omega⟩
  have hdrop : 35 - (35 - head.length) = head.length := by omega
  rw [hdrop] at hi
  refine ⟨i, ?_⟩
  rw [IsCanonical, String.toList_append] at htail ⊢
  have hhead := List.forall₂_take_append _ _ _ htail
  rw [String.length_toList] at hhead
  rw [← List.take_append_drop head.length places]
  exact List.rel_append hhead hi

/-! ## Numbered identifiers -/

theorem fits_of_mem_toDigits {c : Char} (h : c ∈ Nat.toDigits 16 n) : Place.digit.Fits c := by
  induction n using Nat.strongRecOn with
  | ind n ih =>
    have hdigit : ∀ d < 16, Place.digit.Fits (Nat.digitChar d) := by decide
    rw [Nat.toDigits_eq_if (by decide)] at h
    split at h
    next hsmall =>
      rw [List.mem_singleton.mp h]
      exact hdigit n hsmall
    next hlarge =>
      rcases List.mem_append.mp h with hinit | hlast
      · exact ih (n / 16) (by omega) hinit
      · rw [List.mem_singleton.mp hlast]
        exact hdigit _ (Nat.mod_lt _ (by decide))

theorem isCanonical_numbered (h : n < Nat.pow 16 12) : IsCanonical (numbered n) := by
  have hlength : (Nat.toDigits 16 n).length ≤ 12 :=
    (Nat.length_toDigits_le_iff (by decide) (by decide)).mpr h
  have hstart : List.Forall₂ Place.Fits (places.take 24) "00000000-0000-4000-8000-".toList := by
    decide
  have hdigits : List.Forall₂ Place.Fits (List.replicate 12 .digit) (String.ofList
      (List.replicate (12 - (Nat.toDigits 16 n).length) '0' ++ Nat.toDigits 16 n)).toList := by
    rw [String.toList_ofList]
    refine List.forall₂_iff_get.mpr ⟨?_, fun k hk hk' => ?_⟩
    · rw [List.length_append, List.length_replicate, List.length_replicate]
      omega
    rw [List.get_eq_getElem, List.getElem_replicate]
    rcases List.mem_append.mp (List.get_mem _ ⟨k, hk'⟩) with hzero | hdigit
    · rw [List.eq_of_mem_replicate hzero]
      decide
    · exact fits_of_mem_toDigits hdigit
  unfold numbered
  rw [IsCanonical, String.toList_append]
  exact List.rel_append hstart hdigits

end SessionLedger.Uuid
