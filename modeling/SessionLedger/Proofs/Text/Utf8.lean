import SessionLedger.Text.Utf8

/-! The octets of a text are read as that text. The cases are the lengths of the form of a
character. -/
namespace SessionLedger.Text.Utf8

theorem scalar?_toNat (c : Char) : scalar? c.toNat = some c :=
  dif_pos c.valid

/-- An octet that carries bits beyond a mark. -/
private theorem toNat_lead {n base : Nat} (h : n + base < 256) :
    (UInt8.ofNat (n + base)).toNat = n + base :=
  UInt8.toNat_ofNat_of_lt' h

theorem tail?_continuation {n : Nat} (h : n < 64) : tail? (UInt8.ofNat (n + 0x80)) = some n := by
  have hn : (UInt8.ofNat (n + 0x80)).toNat = n + 0x80 := toNat_lead (by omega)
  simp only [tail?, UInt8.le_iff_toNat_le, hn]
  rw [if_pos ⟨Nat.le_add_left _ _, by change n + 128 ≤ 191; omega⟩, Nat.add_sub_cancel]

theorem next?_one {n : Nat} (h : n < 0x80) (rest : List UInt8) :
    next? (UInt8.ofNat n :: rest) = some (Char.ofNat n, rest) := by
  have hn : (UInt8.ofNat n).toNat = n := UInt8.toNat_ofNat_of_lt' (by change n < 256; omega)
  have hlt : UInt8.ofNat n < 0x80 := by
    rw [UInt8.lt_iff_toNat_lt, hn]
    exact h
  simp only [next?, if_pos hlt, hn]

theorem next?_two {a b : UInt8} {q : Nat} {c : Char} (ha : 0xC2 ≤ a.toNat) (ha' : a.toNat < 0xE0)
    (hb : tail? b = some q) (hc : scalar? ((a.toNat - 0xC0) * 64 + q) = some c)
    (rest : List UInt8) : next? (a :: b :: rest) = some (c, rest) := by
  have h₁ : ¬ a < 0x80 := Nat.not_lt.mpr (Nat.le_trans (by decide) ha)
  have h₂ : ¬ a < 0xC2 := Nat.not_lt.mpr ha
  have h₃ : a < 0xE0 := ha'
  rw [next?, if_neg h₁, if_neg h₂, if_pos h₃]
  simp only [hb, hc, Option.bind_eq_bind, Option.bind_some, Option.pure_def]

theorem next?_three {a b₁ b₂ : UInt8} {q r : Nat} {c : Char} (ha : 0xE0 ≤ a.toNat)
    (ha' : a.toNat < 0xF0) (hb₁ : tail? b₁ = some q) (hb₂ : tail? b₂ = some r)
    (hmin : 0x800 ≤ (a.toNat - 0xE0) * 4096 + q * 64 + r)
    (hc : scalar? ((a.toNat - 0xE0) * 4096 + q * 64 + r) = some c) (rest : List UInt8) :
    next? (a :: b₁ :: b₂ :: rest) = some (c, rest) := by
  have h₁ : ¬ a < 0x80 := Nat.not_lt.mpr (Nat.le_trans (by decide) ha)
  have h₂ : ¬ a < 0xC2 := Nat.not_lt.mpr (Nat.le_trans (by decide) ha)
  have h₃ : ¬ a < 0xE0 := Nat.not_lt.mpr ha
  have h₄ : a < 0xF0 := ha'
  rw [next?, if_neg h₁, if_neg h₂, if_neg h₃, if_pos h₄]
  simp only [Option.bind_eq_bind, Option.pure_def]
  rw [hb₁, Option.bind_some, hb₂, Option.bind_some, if_neg (Nat.not_lt.mpr hmin), hc,
    Option.bind_some]

theorem next?_four {a b₁ b₂ b₃ : UInt8} {q r t : Nat} {c : Char} (ha : 0xF0 ≤ a.toNat)
    (ha' : a.toNat < 0xF5) (hb₁ : tail? b₁ = some q) (hb₂ : tail? b₂ = some r)
    (hb₃ : tail? b₃ = some t)
    (hmin : 0x10000 ≤ (a.toNat - 0xF0) * 262144 + q * 4096 + r * 64 + t)
    (hc : scalar? ((a.toNat - 0xF0) * 262144 + q * 4096 + r * 64 + t) = some c)
    (rest : List UInt8) : next? (a :: b₁ :: b₂ :: b₃ :: rest) = some (c, rest) := by
  have h₁ : ¬ a < 0x80 := Nat.not_lt.mpr (Nat.le_trans (by decide) ha)
  have h₂ : ¬ a < 0xC2 := Nat.not_lt.mpr (Nat.le_trans (by decide) ha)
  have h₃ : ¬ a < 0xE0 := Nat.not_lt.mpr (Nat.le_trans (by decide) ha)
  have h₄ : ¬ a < 0xF0 := Nat.not_lt.mpr ha
  have h₅ : a < 0xF5 := ha'
  rw [next?, if_neg h₁, if_neg h₂, if_neg h₃, if_neg h₄, if_pos h₅]
  -- Rewriting keeps the bound on the value from being unfolded.
  simp only [Option.bind_eq_bind, Option.pure_def]
  rw [hb₁, Option.bind_some, hb₂, Option.bind_some, hb₃, Option.bind_some,
    if_neg (Nat.not_lt.mpr hmin), hc, Option.bind_some]

/-- The octets of a character in front are read as that character. -/
theorem next?_octets (c : Char) (rest : List UInt8) :
    next? (octets c ++ rest) = some (c, rest) := by
  have hmax : c.toNat < 0x110000 := by
    rcases c.valid with h | ⟨-, h⟩
    · exact Nat.lt_trans h (by decide)
    · exact h
  simp only [octets, String.utf8EncodeChar, Char.toNat_val]
  split
  · next h =>
    rw [List.singleton_append, next?_one (by omega), Char.ofNat_toNat]
  · split
    · next h =>
      have hlead : (UInt8.ofNat (c.toNat / 64 % 32 + 0xC0)).toNat = c.toNat / 64 % 32 + 0xC0 :=
        toNat_lead (by omega)
      have hvalue : (c.toNat / 64 % 32 + 0xC0 - 0xC0) * 64 + c.toNat % 64 = c.toNat := by omega
      refine next?_two ?_ ?_ (tail?_continuation (by omega)) ?_ rest
      · omega
      · omega
      · rw [hlead, hvalue, scalar?_toNat]
    · split
      · next h =>
        have hlead : (UInt8.ofNat (c.toNat / 4096 % 16 + 0xE0)).toNat =
            c.toNat / 4096 % 16 + 0xE0 := toNat_lead (by omega)
        have hvalue : (c.toNat / 4096 % 16 + 0xE0 - 0xE0) * 4096 + c.toNat / 64 % 64 * 64 +
            c.toNat % 64 = c.toNat := by omega
        refine next?_three ?_ ?_ (tail?_continuation (by omega)) (tail?_continuation (by omega))
          ?_ ?_ rest
        · omega
        · omega
        · rw [hlead, hvalue]
          omega
        · rw [hlead, hvalue, scalar?_toNat]
      · next h =>
        have hlead : (UInt8.ofNat (c.toNat / 262144 % 8 + 0xF0)).toNat =
            c.toNat / 262144 % 8 + 0xF0 := toNat_lead (by omega)
        have hvalue : (c.toNat / 262144 % 8 + 0xF0 - 0xF0) * 262144 + c.toNat / 4096 % 64 * 4096 +
            c.toNat / 64 % 64 * 64 + c.toNat % 64 = c.toNat := by omega
        refine next?_four ?_ ?_ (tail?_continuation (by omega)) (tail?_continuation (by omega))
          (tail?_continuation (by omega)) ?_ ?_ rest
        · omega
        · omega
        · rw [hlead, hvalue]
          omega
        · rw [hlead, hvalue, scalar?_toNat]

theorem decodeWithin_flatMap (cs : List Char) {n : Nat} (h : (cs.flatMap octets).length ≤ n) :
    decodeWithin n (cs.flatMap octets) = some cs := by
  induction cs generalizing n with
  | nil => cases n <;> rfl
  | cons c cs ih =>
    have hpos : 0 < (octets c).length := List.length_pos_iff.mpr String.utf8EncodeChar_ne_nil
    rw [List.flatMap_cons, List.length_append] at h
    obtain ⟨m, rfl⟩ : ∃ m, n = m + 1 := ⟨n - 1, by omega⟩
    obtain ⟨b, bs, hbs⟩ := List.exists_cons_of_length_pos hpos
    have hnext := next?_octets c (cs.flatMap octets)
    rw [List.flatMap_cons]
    rw [hbs, List.cons_append] at hnext ⊢
    simp only [decodeWithin, hnext, Option.bind_eq_bind, Option.bind_some]
    rw [ih (by omega)]
    rfl

/-- The octets of a text are read as that text. -/
theorem decode?_encode (s : String) : decode? (encode s) = some s := by
  rw [decode?, encode, decodeWithin_flatMap s.toList (Nat.le_refl _), Option.map_some,
    String.ofList_toList]

end SessionLedger.Text.Utf8
