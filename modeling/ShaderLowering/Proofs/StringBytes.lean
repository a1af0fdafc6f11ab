import Mathlib.Data.Nat.Digits.Defs
import Mathlib.Data.String.Basic

/-!
# The bytes of strings

A string is told by its UTF-8 bytes, and how many there are is its size. The library states both of
byte arrays; here they are stated of the list of bytes that texts are written from.
-/

namespace ShaderLowering

/-- The bytes of an array from a place on, read one after the other. -/
theorem toList_loop (bytes : ByteArray) (place : Nat) (before : List UInt8) :
    ByteArray.toList.loop bytes place before =
      before.reverse ++ bytes.data.toList.drop place := by
  fun_induction ByteArray.toList.loop bytes place before with
  | case1 place before hlt ih =>
    have hsize : place < bytes.data.toList.length := hlt
    have hbyte : bytes.get! place = bytes.data.toList[place] :=
      getElem!_pos bytes.data place hlt
    rw [ih, List.drop_eq_getElem_cons hsize, List.reverse_cons, List.append_assoc, hbyte]
    rfl
  | case2 place before hge =>
    have hsize : bytes.data.toList.length ≤ place := Nat.le_of_not_lt hge
    rw [List.drop_eq_nil_of_le hsize, List.append_nil]

theorem toList_eq_data (bytes : ByteArray) : bytes.toList = bytes.data.toList :=
  toList_loop bytes 0 []

/-- A string is told by its bytes. -/
theorem eq_of_toUTF8_toList {s t : String} (h : s.toUTF8.toList = t.toUTF8.toList) : s = t := by
  rw [toList_eq_data, toList_eq_data] at h
  exact String.toByteArray_inj.1 (ByteArray.ext (Array.toList_inj.1 h))

theorem length_toUTF8_toList (s : String) : s.toUTF8.toList.length = s.utf8ByteSize := by
  rw [toList_eq_data]
  rfl

/-- No character takes more than four bytes. -/
theorem utf8ByteSize_le (s : String) : s.utf8ByteSize ≤ 4 * s.length := by
  obtain ⟨chars, rfl⟩ : ∃ chars, s = String.ofList chars := ⟨s.toList, String.ofList_toList.symm⟩
  rw [String.utf8ByteSize_ofList, String.length_ofList]
  induction chars with
  | nil => exact Nat.le_refl 0
  | cons c chars ih =>
    have hc := c.utf8Size_le_four
    rw [String.utf8Len_cons, List.length_cons]
    omega

/-- A number of at most ten digits is a short text. -/
theorem utf8ByteSize_toString_le {n : Nat} (h : n < 10 ^ 10) : (toString n).utf8ByteSize ≤ 40 :=
  (utf8ByteSize_le _).trans (Nat.mul_le_mul_left 4 (Nat.repr_length n 10 (by decide) h))

/-! ## Zero bytes -/

/-- Only the character zero is written with a zero byte. -/
theorem zero_notMem_utf8EncodeChar {c : Char} (hc : c ≠ '\x00') :
    0 ∉ String.utf8EncodeChar c := by
  have hpos : 0 < c.val.toNat := by
    refine Nat.pos_of_ne_zero fun h => hc ?_
    exact Char.ext (UInt32.toNat_inj.1 h)
  have hbyte {n : Nat} (hn : 0 < n) (hlt : n < 256) : (0 : UInt8) ≠ UInt8.ofNat n := by
    intro h
    have hn' := congrArg UInt8.toNat h
    rw [UInt8.toNat_ofNat', Nat.mod_eq_of_lt hlt] at hn'
    exact absurd hn' (Nat.ne_of_lt hn)
  unfold String.utf8EncodeChar
  dsimp only
  split
  · simp only [List.mem_singleton]
    exact hbyte hpos (by omega)
  · split
    · simp only [List.mem_cons, List.not_mem_nil, or_false, not_or]
      exact ⟨hbyte (by omega) (by omega), hbyte (by omega) (by omega)⟩
    · split
      · simp only [List.mem_cons, List.not_mem_nil, or_false, not_or]
        exact ⟨hbyte (by omega) (by omega), hbyte (by omega) (by omega),
          hbyte (by omega) (by omega)⟩
      · simp only [List.mem_cons, List.not_mem_nil, or_false, not_or]
        exact ⟨hbyte (by omega) (by omega), hbyte (by omega) (by omega),
          hbyte (by omega) (by omega), hbyte (by omega) (by omega)⟩

/-- A string without the character zero has no zero byte. -/
theorem zero_notMem_toUTF8 {s : String} (hs : '\x00' ∉ s.toList) : 0 ∉ s.toUTF8.toList := by
  have hbytes : s.toUTF8.toList = s.toList.flatMap String.utf8EncodeChar := by
    rw [toList_eq_data, String.toUTF8, ← String.utf8Encode_toList, List.utf8Encode,
      List.data_toByteArray]
  rw [hbytes, List.mem_flatMap]
  rintro ⟨c, hc, hzero⟩
  exact zero_notMem_utf8EncodeChar (fun h => hs (h ▸ hc)) hzero

end ShaderLowering
