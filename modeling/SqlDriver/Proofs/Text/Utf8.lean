/-
# SqlDriver.Proofs.Text.Utf8 -- octets that were written as a text are read as that text

Reading octets replaces what is no text.  Nothing of what `encode` writes is replaced: a
character is read back from its octets whatever follows them (`decodeFrom_char`), so a text
and a string are read back as they are (`decodeLossy_encode`, `toStringLossy_ofString`).
-/
import Mathlib.Tactic.SplitIfs
import SqlDriver.Text.Utf8

namespace SqlDriver.Text.Utf8

set_option autoImplicit false

/-! ## One octet -/

section Octets

variable {n : Nat} (r : List UInt8)

theorem toNat_ofNat_of_lt (small : n < 0x100) : (UInt8.ofNat n).toNat = n := by
  rw [UInt8.toNat_ofNat']
  omega

/-- An octet below all others is a character of its own. -/
theorem decodeFrom_ascii (small : n < 0x80) :
    decodeFrom none (UInt8.ofNat n :: r) = Char.ofNat n :: decodeFrom none r := by
  simp only [decodeFrom, step, begin, toNat_ofNat_of_lt (Nat.lt_trans small (by decide)), small,
    if_true, List.singleton_append]

/-- The octet in front of one other. -/
theorem decodeFrom_two (least : 2 ≤ n) (most : n < 0x20) :
    decodeFrom none (UInt8.ofNat (n + 0xC0) :: r) = decodeFrom (some ⟨1, 0x80, 0xBF, n⟩) r := by
  simp only [decodeFrom, step, begin, toNat_ofNat_of_lt (n := n + 0xC0) (by omega)]
  rw [if_neg (by omega), if_neg (by omega), if_pos (by omega), Nat.add_sub_cancel, List.nil_append]

/-- The octet in front of two others, the first of which it may bound. -/
theorem decodeFrom_three (most : n < 0x10) :
    decodeFrom none (UInt8.ofNat (n + 0xE0) :: r) =
      decodeFrom (some ⟨2, if n = 0 then 0xA0 else 0x80, if n = 13 then 0x9F else 0xBF, n⟩) r := by
  simp only [decodeFrom, step, begin, toNat_ofNat_of_lt (n := n + 0xE0) (by omega)]
  rw [if_neg (by omega), if_neg (by omega), if_neg (by omega), if_pos (by omega),
    Nat.add_sub_cancel, List.nil_append]
  simp only [show n + 0xE0 = 0xE0 ↔ n = 0 by omega, show n + 0xE0 = 0xED ↔ n = 13 by omega]

/-- The octet in front of three others, the first of which it may bound. -/
theorem decodeFrom_four (most : n < 5) :
    decodeFrom none (UInt8.ofNat (n + 0xF0) :: r) =
      decodeFrom (some ⟨3, if n = 0 then 0x90 else 0x80, if n = 4 then 0x8F else 0xBF, n⟩) r := by
  simp only [decodeFrom, step, begin, toNat_ofNat_of_lt (n := n + 0xF0) (by omega)]
  rw [if_neg (by omega), if_neg (by omega), if_neg (by omega), if_neg (by omega),
    if_pos (by omega), Nat.add_sub_cancel, List.nil_append]
  simp only [show n + 0xF0 = 0xF0 ↔ n = 0 by omega, show n + 0xF0 = 0xF4 ↔ n = 4 by omega]

variable {owed low high bits : Nat} (from_low : low ≤ n + 0x80) (to_high : n + 0x80 ≤ high)
  (six : n < 0x40)

include from_low to_high six

/-- The last octet that is owed completes the character. -/
theorem decodeFrom_last :
    decodeFrom (some ⟨1, low, high, bits⟩) (UInt8.ofNat (n + 0x80) :: r) =
      Char.ofNat (bits * 64 + n) :: decodeFrom none r := by
  simp only [decodeFrom, step, toNat_ofNat_of_lt (n := n + 0x80) (by omega), from_low, to_high,
    and_self, if_true, Nat.le_refl, Nat.add_sub_cancel, List.singleton_append]

/-- Each octet that is owed adds six bits. -/
theorem decodeFrom_more (more : 1 < owed) :
    decodeFrom (some ⟨owed, low, high, bits⟩) (UInt8.ofNat (n + 0x80) :: r) =
      decodeFrom (some ⟨owed - 1, 0x80, 0xBF, bits * 64 + n⟩) r := by
  simp only [decodeFrom, step, toNat_ofNat_of_lt (n := n + 0x80) (by omega), from_low, to_high,
    and_self, if_true, if_neg (Nat.not_le.mpr more), Nat.add_sub_cancel, List.nil_append]

end Octets

/-! ## One character -/

/-- A character is read back from its octets. -/
theorem decodeFrom_char (c : Char) (r : List UInt8) :
    decodeFrom none (String.utf8EncodeChar c ++ r) = c :: decodeFrom none r := by
  have same : Char.ofNat c.val.toNat = c := Char.ofNat_toNat c
  have valid : c.val.toNat < 0xD800 ∨ 0xDFFF < c.val.toNat ∧ c.val.toNat < 0x110000 := c.valid
  unfold String.utf8EncodeChar
  extract_lets n
  change n < 0xD800 ∨ 0xDFFF < n ∧ n < 0x110000 at valid
  change Char.ofNat n = c at same
  split_ifs with one two three
  · exact (decodeFrom_ascii r (by omega)).trans (by rw [same])
  · simp only [List.cons_append, List.nil_append]
    rw [decodeFrom_two _ (by omega) (by omega),
      decodeFrom_last _ (by omega) (by omega) (by omega),
      show n / 64 % 32 * 64 + n % 64 = n by omega, same]
  · simp only [List.cons_append, List.nil_append]
    rw [decodeFrom_three _ (by omega),
      decodeFrom_more _ (by split <;> omega) (by split <;> omega) (by omega) (by decide),
      decodeFrom_last _ (by omega) (by omega) (by omega),
      show (n / 4096 % 16 * 64 + n / 64 % 64) * 64 + n % 64 = n by omega, same]
  · simp only [List.cons_append, List.nil_append]
    rw [decodeFrom_four _ (by omega),
      decodeFrom_more _ (by split <;> omega) (by split <;> omega) (by omega) (by decide),
      decodeFrom_more _ (by omega) (by omega) (by omega) (by decide),
      decodeFrom_last _ (by omega) (by omega) (by omega),
      show ((n / 262144 % 8 * 64 + n / 4096 % 64) * 64 + n / 64 % 64) * 64 + n % 64 = n by omega,
      same]

theorem decodeLossy_encode (s : List Char) : decodeLossy (encode s) = s := by
  induction s with
  | nil => rfl
  | cons c r ih => exact (decodeFrom_char c (encode r)).trans (congrArg (c :: ·) ih)

/-! ## Strings -/

theorem toList_loop (octets : ByteArray) (i : Nat) (read : List UInt8) :
    ByteArray.toList.loop octets i read = read.reverse ++ octets.data.toList.drop i := by
  fun_induction ByteArray.toList.loop octets i read with
  | case1 i read inside ih =>
      have there : i < octets.data.toList.length := by simpa using inside
      rw [ih, List.drop_eq_getElem_cons there, List.reverse_cons, List.append_assoc]
      simp [ByteArray.get!, inside]
  | case2 i read outside =>
      rw [List.drop_eq_nil_of_le (by simpa using Nat.le_of_not_lt outside), List.append_nil]

theorem ofString_eq_encode (s : String) : ofString s = encode s.toList := by
  rw [ofString, ByteArray.toList, toList_loop, String.toUTF8_eq_toByteArray]
  conv => lhs; rw [← String.ofList_toList (s := s)]
  rw [String.toByteArray_ofList]
  exact List.toList_data_toByteArray

/-- A string is read back from its octets. -/
theorem toStringLossy_ofString (s : String) : toStringLossy (ofString s) = s := by
  rw [toStringLossy, ofString_eq_encode, decodeLossy_encode, String.ofList_toList]

end SqlDriver.Text.Utf8
