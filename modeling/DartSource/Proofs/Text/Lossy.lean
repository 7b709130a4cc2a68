import Mathlib.Tactic.SplitIfs
import DartSource.Text.Lossy

/-!
# Well-formed bytes are read as they stand

The bytes of a text are the codes of its characters in a row (`toBytes_ofList`). A code takes one to
four bytes. The first one announces how many are to come, within which bounds the next one lies, and
the leading part of the number of the character (`announce?_two`, `announce?_three`,
`announce?_four`); every later one brings six more bits of the number. So a code is read as its
character, whatever follows it (`lossyChars_code`), and a text comes back from its bytes
(`ofBytes_toBytes`).
-/

namespace DartSource.Text

/-! ### The bytes of a text -/

/-- The bytes are gathered from the front on, and turned round at the end. -/
theorem toList_loop (bytes : ByteArray) (i : Nat) (front : List UInt8) :
    ByteArray.toList.loop bytes i front = front.reverse ++ bytes.data.toList.drop i := by
  fun_induction ByteArray.toList.loop bytes i front with
  | case1 i front inside ih =>
    have inside' : i < bytes.data.toList.length := by simpa using inside
    have item : bytes.get! i = bytes.data.toList[i] := by
      rw [Array.getElem_toList]
      exact getElem!_pos bytes.data i inside
    rw [ih, List.drop_eq_getElem_cons inside', item, List.reverse_cons, List.append_assoc,
      List.singleton_append]
  | case2 i front outside =>
    rw [List.drop_eq_nil_of_le (by simpa using Nat.le_of_not_lt outside), List.append_nil]

/-- The bytes of a text are the codes of its characters. -/
theorem toBytes_ofList (chars : List Char) :
    toBytes (String.ofList chars) = chars.flatMap String.utf8EncodeChar := by
  rw [toBytes, String.toUTF8_eq_toByteArray, String.toByteArray_ofList, ByteArray.toList,
    toList_loop, List.utf8Encode, List.data_toByteArray]
  rfl

/-! ### Reading a byte -/

theorem toNat_ofNat_of_lt {n : Nat} (h : n < 256) : (UInt8.ofNat n).toNat = n := by
  rw [UInt8.toNat_ofNat', Nat.mod_eq_of_lt h]

variable {n : Nat} {begun : PartialChar} {low high owed value bits : Nat}

theorem lossyChars_single (h : n < 0x80) (rest : List UInt8) :
    lossyChars none (UInt8.ofNat n :: rest) = Char.ofNat n :: lossyChars none rest := by
  simp only [lossyChars, toNat_ofNat_of_lt (show n < 256 by omega), startChar, if_pos h,
    List.singleton_append]

theorem lossyChars_first (least : 0x80 ≤ n) (isByte : n < 256)
    (announced : announce? n = some begun) (rest : List UInt8) :
    lossyChars none (UInt8.ofNat n :: rest) = lossyChars (some begun) rest := by
  simp only [lossyChars, toNat_ofNat_of_lt isByte, startChar, if_neg (Nat.not_lt.mpr least),
    announced, List.nil_append]

theorem lossyChars_more (inside : low ≤ bits + 0x80 ∧ bits + 0x80 ≤ high) (six : bits < 64)
    (rest : List UInt8) :
    lossyChars (some ⟨owed + 2, low, high, value⟩) (UInt8.ofNat (bits + 0x80) :: rest) =
      lossyChars (some ⟨owed + 1, 0x80, 0xBF, 64 * value + bits⟩) rest := by
  simp only [lossyChars, toNat_ofNat_of_lt (show bits + 0x80 < 256 by omega), continueChar,
    if_pos inside, if_neg (show ¬ owed + 2 ≤ 1 by omega), Nat.add_sub_cancel, List.nil_append,
    Nat.add_succ_sub_one]

theorem lossyChars_last (inside : low ≤ bits + 0x80 ∧ bits + 0x80 ≤ high) (six : bits < 64)
    (rest : List UInt8) :
    lossyChars (some ⟨1, low, high, value⟩) (UInt8.ofNat (bits + 0x80) :: rest) =
      Char.ofNat (64 * value + bits) :: lossyChars none rest := by
  simp only [lossyChars, toNat_ofNat_of_lt (show bits + 0x80 < 256 by omega), continueChar,
    if_pos inside, if_pos (Nat.le_refl 1), Nat.add_sub_cancel, List.singleton_append]

/-! ### What the first byte announces -/

theorem announce?_two {v : Nat} (least : 0x80 ≤ v) (greatest : v ≤ 0x7FF) :
    announce? (v / 64 % 32 + 0xC0) = some ⟨1, 0x80, 0xBF, v / 64⟩ := by
  rw [Nat.mod_eq_of_lt (by omega), announce?, if_pos (by omega), Nat.add_sub_cancel]

/-- The numbers left out here are no characters. -/
theorem announce?_three {v : Nat} (least : 0x800 ≤ v) (greatest : v ≤ 0xFFFF)
    (valid : v < 0xD800 ∨ 0xDFFF < v) :
    ∃ low high, announce? (v / 4096 % 16 + 0xE0) = some ⟨2, low, high, v / 4096⟩ ∧
      low ≤ v / 64 % 64 + 0x80 ∧ v / 64 % 64 + 0x80 ≤ high := by
  rw [Nat.mod_eq_of_lt (by omega), announce?, if_neg (by omega)]
  by_cases first : v / 4096 = 0
  · -- with a smaller second byte, two bytes would do
    refine ⟨0xA0, 0xBF, ?_, by omega, by omega⟩
    rw [if_pos (by omega), first]
  · rw [if_neg (by omega)]
    by_cases broken : v / 4096 = 13
    · -- a greater second byte would lead to the numbers that are left out
      refine ⟨0x80, 0x9F, ?_, by omega, by omega⟩
      rw [if_pos (by omega), broken]
    · refine ⟨0x80, 0xBF, ?_, by omega, by omega⟩
      rw [if_neg (by omega), if_pos (by omega), Nat.add_sub_cancel]

theorem announce?_four {v : Nat} (least : 0x10000 ≤ v) (greatest : v < 0x110000) :
    ∃ low high, announce? (v / 262144 % 8 + 0xF0) = some ⟨3, low, high, v / 262144⟩ ∧
      low ≤ v / 4096 % 64 + 0x80 ∧ v / 4096 % 64 + 0x80 ≤ high := by
  rw [Nat.mod_eq_of_lt (by omega), announce?, if_neg (by omega), if_neg (by omega),
    if_neg (by omega), if_neg (by omega)]
  by_cases first : v / 262144 = 0
  · -- with a smaller second byte, three bytes would do
    refine ⟨0x90, 0xBF, ?_, by omega, by omega⟩
    rw [if_pos (by omega), first]
  · rw [if_neg (by omega)]
    by_cases last : v / 262144 = 4
    · -- a greater second byte would lead beyond the last character
      refine ⟨0x80, 0x8F, ?_, by omega, by omega⟩
      rw [if_neg (by omega), if_pos (by omega), last]
    · refine ⟨0x80, 0xBF, ?_, by omega, by omega⟩
      rw [if_pos (by omega), Nat.add_sub_cancel]

/-! ### Reading a code -/

/-- **A code is read as its character**, whatever follows it. -/
theorem lossyChars_code (c : Char) (rest : List UInt8) :
    lossyChars none (String.utf8EncodeChar c ++ rest) = c :: lossyChars none rest := by
  obtain ⟨v, hv⟩ : ∃ v, c.val.toNat = v := ⟨_, rfl⟩
  have char : Char.ofNat v = c := hv ▸ Char.ofNat_toNat c
  have valid : v < 0xD800 ∨ (0xDFFF < v ∧ v < 0x110000) := hv ▸ c.valid
  rw [String.utf8EncodeChar]
  simp only [hv]
  -- the code has one, two, three or four bytes
  split_ifs with one two three <;> simp only [List.cons_append, List.nil_append]
  · rw [lossyChars_single (by omega), char]
  · have announced := announce?_two (v := v) (by omega) (by omega)
    have whole : 64 * (v / 64) + v % 64 = v := by omega
    rw [lossyChars_first (by omega) (by omega) announced,
      lossyChars_last (by omega) (by omega), whole, char]
  · obtain ⟨low, high, announced, inside⟩ :=
      announce?_three (v := v) (by omega) (by omega) (by omega)
    have whole : 64 * (64 * (v / 4096) + v / 64 % 64) + v % 64 = v := by omega
    rw [lossyChars_first (by omega) (by omega) announced, lossyChars_more inside (by omega),
      lossyChars_last (by omega) (by omega), whole, char]
  · obtain ⟨low, high, announced, inside⟩ := announce?_four (v := v) (by omega) (by omega)
    have whole : 64 * (64 * (64 * (v / 262144) + v / 4096 % 64) + v / 64 % 64) + v % 64 = v := by
      omega
    rw [lossyChars_first (by omega) (by omega) announced, lossyChars_more inside (by omega),
      lossyChars_more (by omega) (by omega), lossyChars_last (by omega) (by omega), whole, char]

/-- **A text comes back from its bytes.** -/
theorem ofBytes_toBytes (text : String) : ofBytes (toBytes text) = text := by
  have read (chars : List Char) :
      lossyChars none (chars.flatMap String.utf8EncodeChar) = chars := by
    induction chars with
    | nil => rfl
    | cons c rest ih => rw [List.flatMap_cons, lossyChars_code, ih]
  rw [← String.ofList_toList (s := text), toBytes_ofList, ofBytes, read]

end DartSource.Text
