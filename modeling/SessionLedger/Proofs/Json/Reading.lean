import SessionLedger.Json.Reading

/-! Written characters as octets to be read, and what may stand after a written value. -/
namespace SessionLedger.Json
open Text

/-- The octets of characters. -/
def bytes (cs : List Char) : Source :=
  cs.flatMap Utf8.octets

@[simp] theorem bytes_nil : bytes [] = [] := rfl

@[simp] theorem bytes_append (cs cs' : List Char) : bytes (cs ++ cs') = bytes cs ++ bytes cs' :=
  List.flatMap_append

theorem bytes_cons (c : Char) (cs : List Char) : bytes (c :: cs) = Utf8.octets c ++ bytes cs :=
  List.flatMap_cons

theorem octets_ascii {c : Char} (h : c.toNat < 0x80) : Utf8.octets c = [UInt8.ofNat c.toNat] :=
  if_pos (Nat.le_of_lt_succ h)

/-- The form of a character beyond ASCII has no ASCII octet. -/
theorem le_of_mem_octets {c : Char} (h : 0x80 ≤ c.toNat) {b : UInt8} (hb : b ∈ Utf8.octets c) :
    0x80 ≤ b.toNat := by
  simp only [Utf8.octets, String.utf8EncodeChar, Char.toNat_val] at hb
  rw [if_neg (by omega)] at hb
  split at hb
  · simp only [List.mem_cons, List.not_mem_nil, or_false] at hb
    rcases hb with rfl | rfl <;> rw [UInt8.toNat_ofNat_of_lt' (by change _ < 256; omega)] <;> omega
  · split at hb
    · simp only [List.mem_cons, List.not_mem_nil, or_false] at hb
      rcases hb with rfl | rfl | rfl <;>
        rw [UInt8.toNat_ofNat_of_lt' (by change _ < 256; omega)] <;> omega
    · simp only [List.mem_cons, List.not_mem_nil, or_false] at hb
      rcases hb with rfl | rfl | rfl | rfl <;>
        rw [UInt8.toNat_ofNat_of_lt' (by change _ < 256; omega)] <;> omega

/-- What follows a value in compact text: nothing, or a mark that ends the value. -/
def Ends (rest : Source) : Prop :=
  ∀ b ∈ rest.head?, b = comma ∨ b = closeList ∨ b = closeObject

theorem ends_nil : Ends [] := by
  simp [Ends]

theorem ends_comma (rest : Source) : Ends (comma :: rest) := by
  simp [Ends]

theorem ends_closeObject (rest : Source) : Ends (closeObject :: rest) := by
  simp [Ends]

theorem ends_closeList (rest : Source) : Ends (closeList :: rest) := by
  simp [Ends]

/-- A written value that is told by its first octet from a blank, from null, and from the end of a
list. -/
def Opens (cs : List Char) : Prop :=
  ∃ b bs, bytes cs = b :: bs ∧ isBlankOctet b = false ∧ Lead.of b ≠ .null ∧ b ≠ closeList

theorem skipBlanks_cons {b : UInt8} (h : isBlankOctet b = false) (rest : Source) :
    skipBlanks (b :: rest) = b :: rest :=
  List.dropWhile_cons_of_neg (by simp [h])

/-- A reader takes the octets of a written value off the front of a text. -/
def Reader.Takes {α : Type} (r : Reader α) (cs : List Char) (a : α) : Prop :=
  ∀ rest, Ends rest → r (bytes cs ++ rest) = .value a rest

/-- A value that a reader takes off the front is the value of the whole text. -/
theorem Reader.Takes.whole {α : Type} {r : Reader α} {cs : List Char} {a : α}
    (h : r.Takes cs a) : r.whole (bytes cs) = some a := by
  have hread := h [] ends_nil
  rw [List.append_nil] at hread
  simp [Reader.whole, hread, skipBlanks]

end SessionLedger.Json
