import Mathlib.Algebra.Group.Nat.Defs
import Mathlib.Data.List.Basic
import ShaderLowering.Token.Writer

/-!
# The bits and bytes of words

Tokens are put together from fields that do not overlap. `Word.Within` says where the bits of a word
lie, and a field of a word that is put together is the field of the part that lies there
(`Word.field_or`, `Within.field_eq_zero`). Bytes are simpler: a word is spelled by its four bytes,
and four bytes spell one word, so a list of words is spelled by exactly one list of bytes
(`bytesWords?_eq_some_iff`).
-/

namespace ShaderLowering

namespace Word

variable {v w : Word} {low high width : Nat}

/-! ## Fields -/

/-- The bits of a field are bits of the word. -/
theorem testBit_field (w : Word) (low width n : Nat) :
    (w.field low width).testBit n = (decide (n < width) && w.toNat.testBit (low + n)) := by
  rw [field, Nat.one_shiftLeft, Nat.testBit_mod_two_pow, Nat.testBit_shiftRight]

/-- A field of two words put together is the field of the one with that of the other. -/
theorem field_or (v w : Word) (low width : Nat) :
    (v ||| w).field low width = v.field low width ||| w.field low width := by
  refine Nat.eq_of_testBit_eq fun n => ?_
  rw [Nat.testBit_or, testBit_field, testBit_field, testBit_field, UInt32.toNat_or, Nat.testBit_or,
    Bool.and_or_distrib_left]

theorem flag_or (v w : Word) (index : Nat) :
    (v ||| w).flag index = (v.flag index || w.flag index) := by
  rw [flag, UInt32.toNat_or, Nat.testBit_or, flag, flag]

/-- Whether all bits of a word lie from a bit upwards and below another one. -/
def Within (w : Word) (low high : Nat) : Prop :=
  ∀ n, w.toNat.testBit n = true → low ≤ n ∧ n < high

theorem Within.mono (h : w.Within low high) {low' high' : Nat} (hlow : low' ≤ low)
    (hhigh : high ≤ high') : w.Within low' high' :=
  fun n hn => ⟨Nat.le_trans hlow (h n hn).1, Nat.lt_of_lt_of_le (h n hn).2 hhigh⟩

/-- A field on one side of all bits is zero. -/
theorem Within.field_eq_zero (h : w.Within low high) {start : Nat}
    (hstart : start + width ≤ low ∨ high ≤ start) : w.field start width = 0 := by
  refine Nat.eq_of_testBit_eq fun n => ?_
  rw [testBit_field, Nat.zero_testBit, Bool.and_eq_false_iff]
  by_cases hn : n < width
  · right
    by_contra hbit
    obtain ⟨hlow, hhigh⟩ := h _ (Bool.not_eq_false _ ▸ hbit)
    omega
  · left
    exact decide_eq_false hn

theorem Within.flag_eq_false (h : w.Within low high) {index : Nat}
    (hindex : index < low ∨ high ≤ index) : w.flag index = false := by
  by_contra hbit
  obtain ⟨hlow, hhigh⟩ := h _ (Bool.not_eq_false _ ▸ hbit)
  omega

/-- The bits of a number that is moved up. -/
theorem testBit_place (n low i : Nat) :
    (place n low).toNat.testBit i =
      (decide (i < 32) && (decide (low ≤ i) && n.testBit (i - low))) := by
  rw [place, UInt32.toNat_ofNat', Nat.testBit_mod_two_pow, Nat.testBit_shiftLeft]

/-- A number that is moved up to a place of its width lies there. -/
theorem within_place {n : Nat} (hn : n < 2 ^ width) (low : Nat) :
    (place n low).Within low (low + width) := by
  intro i hi
  rw [testBit_place, Bool.and_eq_true, Bool.and_eq_true, decide_eq_true_eq, decide_eq_true_eq] at hi
  obtain ⟨-, hlow, hbit⟩ := hi
  refine ⟨hlow, ?_⟩
  by_contra hhigh
  have hsmall : n < 2 ^ (i - low) :=
    Nat.lt_of_lt_of_le hn (Nat.pow_le_pow_right (by decide) (by omega))
  rw [Nat.testBit_lt_two_pow hsmall] at hbit
  cases hbit

/-- A number that is moved up to a place is the field there. -/
theorem field_place {n : Nat} (hn : n < 2 ^ width) (hplace : low + width ≤ 32) :
    (place n low).field low width = n := by
  refine Nat.eq_of_testBit_eq fun i => ?_
  rw [testBit_field, testBit_place, Nat.add_sub_cancel_left]
  by_cases hi : i < width
  · have hword : low + i < 32 := by omega
    simp [hi, hword]
  · have hsmall : n < 2 ^ i :=
      Nat.lt_of_lt_of_le hn (Nat.pow_le_pow_right (by decide) (Nat.le_of_not_lt hi))
    simp [hi, Nat.testBit_lt_two_pow hsmall]

/-- A number that is no wider than a word is a word of its own width. -/
theorem place_zero (n : Nat) : place n 0 = n.toUInt32 := by
  rw [place, Nat.shiftLeft_zero]

theorem within_extendedBit : extendedBit.Within 31 32 := within_place (by decide : 1 < 2 ^ 1) 31

theorem flag_extendedBit : extendedBit.flag 31 = true := by decide

/-- What is left of a word without the bit that announces an extended token announces none. -/
theorem extended_cleared (w : Word) : (w &&& ~~~extendedBit).extended = false := by
  have hbit : (~~~extendedBit).toNat.testBit 31 = false := by decide
  rw [extended, flag, UInt32.toNat_and, Nat.testBit_and, hbit, Bool.and_false]

/-- The low bits of a field are a field of their own. -/
theorem field_mod (w : Word) (low : Nat) {narrow : Nat} (h : narrow ≤ width) :
    w.field low width % 2 ^ narrow = w.field low narrow := by
  rw [field, field, Nat.one_shiftLeft, Nat.one_shiftLeft,
    Nat.mod_mod_of_dvd _ (Nat.pow_dvd_pow 2 h)]

/-- A bit is set exactly if it is the number in the field of its own. -/
theorem flag_eq_field (w : Word) (index : Nat) : w.flag index = (w.field index 1 == 1) := by
  have hbit := testBit_field w index 1 0
  have hsmall : w.field index 1 < 2 := field_lt w index 1
  rw [Nat.testBit_zero, Nat.mod_eq_of_lt hsmall, decide_eq_true Nat.zero_lt_one, Bool.true_and,
    Nat.add_zero] at hbit
  exact hbit.symm

/-- What is moved up as a word is moved up as a number. -/
theorem shiftLeft_eq_place (w : Word) {low : Nat} (h : low < 32) :
    w <<< low.toUInt32 = place w.toNat low := by
  refine UInt32.toNat_inj.1 ?_
  have hlow : low.toUInt32.toNat = low := UInt32.toNat_ofNat_of_lt' (Nat.lt_trans h (by decide))
  rw [UInt32.toNat_shiftLeft, hlow, Nat.mod_eq_of_lt h, place, UInt32.toNat_ofNat']

/-! ## Words that are put together -/

/-- A number that is put into a place of a word. -/
structure Part where
  /-- The number. -/
  value : Nat
  /-- The lowest bit of the place. -/
  low : Nat
  /-- How many bits the place has. -/
  width : Nat

/-- The word of a part alone. -/
def Part.word (part : Part) : Word := place part.value part.low

/-- The word that is put together from parts. -/
def pack (parts : List Part) : Word := (parts.map Part.word).foldl (· ||| ·) 0

theorem pack_cons (part : Part) (parts : List Part) :
    pack (part :: parts) = part.word ||| pack parts := by
  rw [pack, List.map_cons, List.foldl_cons, UInt32.or_comm, List.foldl_assoc, pack]

/-- Whether every part fits its place, and the places follow each other in the word. -/
structure Fit (parts : List Part) : Prop where
  small : ∀ part ∈ parts, part.value < 2 ^ part.width
  inside : ∀ part ∈ parts, part.low + part.width ≤ 32
  apart : parts.Pairwise fun first second => first.low + first.width ≤ second.low

/-- Where no part lies, the word is empty. -/
theorem field_pack_eq_zero {parts : List Part} (hsmall : ∀ part ∈ parts, part.value < 2 ^ part.width)
    (h : ∀ part ∈ parts, low + width ≤ part.low ∨ part.low + part.width ≤ low) :
    (pack parts).field low width = 0 := by
  induction parts with
  | nil =>
    change Word.field 0 low width = 0
    rw [field, UInt32.toNat_zero, Nat.zero_shiftRight, Nat.zero_mod]
  | cons part parts ih =>
    have hfirst := within_place (hsmall part List.mem_cons_self) part.low
    have hrest := ih (fun p hp => hsmall p (List.mem_cons_of_mem _ hp))
      fun p hp => h p (List.mem_cons_of_mem _ hp)
    rw [pack_cons, field_or, Part.word, hfirst.field_eq_zero (h part List.mem_cons_self), hrest,
      Nat.zero_or]

/-- Each part is the field at its place. -/
theorem field_pack {parts : List Part} (h : Fit parts) {part : Part} (hpart : part ∈ parts) :
    (pack parts).field part.low part.width = part.value := by
  obtain ⟨hsmall, hinside, hapart⟩ := h
  induction parts with
  | nil => cases hpart
  | cons first parts ih =>
    obtain ⟨hfirst, hrest⟩ := List.pairwise_cons.1 hapart
    have hsmall' : ∀ p ∈ parts, p.value < 2 ^ p.width :=
      fun p hp => hsmall p (List.mem_cons_of_mem _ hp)
    rw [pack_cons, field_or, Part.word]
    rcases List.mem_cons.1 hpart with rfl | hpart
    · rw [field_place (hsmall part List.mem_cons_self) (hinside part List.mem_cons_self),
        field_pack_eq_zero hsmall' fun p hp => .inl (hfirst p hp), Nat.or_zero]
    · have hbehind : (place first.value first.low).field part.low part.width = 0 :=
        (within_place (hsmall first List.mem_cons_self) first.low).field_eq_zero
          (.inr (hfirst part hpart))
      rw [hbehind, Nat.zero_or]
      exact ih hpart hsmall' (fun p hp => hinside p (List.mem_cons_of_mem _ hp)) hrest

/-! ## Bytes -/

/-- The bits of a word that four bytes spell are those of the bytes, one after the other. -/
theorem getLsbD_ofBytes (a b c d : UInt8) (n : Nat) :
    (Word.ofBytes a b c d).toBitVec.getLsbD n =
      if n < 8 then a.toBitVec.getLsbD n else if n < 16 then b.toBitVec.getLsbD (n - 8)
      else if n < 24 then c.toBitVec.getLsbD (n - 16) else d.toBitVec.getLsbD (n - 24) := by
  have h8 : (8#32 % 32).toNat = 8 := by decide
  have h16 : (16#32 % 32).toNat = 16 := by decide
  have h24 : (24#32 % 32).toNat = 24 := by decide
  simp only [Word.ofBytes, UInt32.toBitVec_or, UInt32.toBitVec_shiftLeft, UInt8.toBitVec_toUInt32,
    UInt32.toBitVec_ofNat, BitVec.shiftLeft_eq', h8, h16, h24, BitVec.getLsbD_or,
    BitVec.getLsbD_shiftLeft, BitVec.getLsbD_setWidth]
  by_cases hword : n < 32
  · -- the bit is in one byte, and the others are moved past it or end before it
    have hbyte : n < 8 ∨ 8 ≤ n ∧ n < 16 ∨ 16 ≤ n ∧ n < 24 ∨ 24 ≤ n := by omega
    rcases hbyte with h | ⟨h, h'⟩ | ⟨h, h'⟩ | h
    · have hbelow : n < 16 ∧ n < 24 := by omega
      simp [h, hbelow, hword]
    · have hplace : ¬n < 8 ∧ n < 24 ∧ n - 8 < 32 := by omega
      simp [hplace, h, h', hword]
    · have hplace : ¬n < 8 ∧ ¬n < 16 ∧ n - 8 < 32 ∧ n - 16 < 32 ∧ 8 ≤ n ∧ 8 ≤ n - 8 := by omega
      simp [hplace, h', hword]
    · have hplace : ¬n < 8 ∧ ¬n < 16 ∧ ¬n < 24 ∧ n - 8 < 32 ∧ n - 16 < 32 ∧ n - 24 < 32 ∧ 8 ≤ n ∧
          8 ≤ n - 8 ∧ 8 ≤ n - 16 := by omega
      simp [hplace, hword]
  · have hplace : ¬n < 8 ∧ ¬n < 16 ∧ ¬n < 24 ∧ 8 ≤ n - 24 := by omega
    simp [hplace, hword]

/-- A byte of a word, bit by bit. -/
theorem getLsbD_byte (w k : Word) {m : Nat} (hk : (k.toBitVec % 32).toNat = m) {i : Nat}
    (hi : i < 8) : (w >>> k).toUInt8.toBitVec.getLsbD i = w.toBitVec.getLsbD (m + i) := by
  rw [UInt32.toBitVec_toUInt8, UInt32.toBitVec_shiftRight, BitVec.ushiftRight_eq', hk,
    BitVec.getLsbD_setWidth, BitVec.getLsbD_ushiftRight, decide_eq_true hi, Bool.true_and]

theorem getLsbD_lowByte (w : Word) {i : Nat} (hi : i < 8) :
    w.toUInt8.toBitVec.getLsbD i = w.toBitVec.getLsbD i := by
  rw [UInt32.toBitVec_toUInt8, BitVec.getLsbD_setWidth, decide_eq_true hi, Bool.true_and]

/-- A word is spelled by its bytes. -/
theorem ofBytes_bytes (w : Word) :
    Word.ofBytes w.toUInt8 (w >>> 8).toUInt8 (w >>> 16).toUInt8 (w >>> 24).toUInt8 = w := by
  refine UInt32.toBitVec_inj.1 (BitVec.eq_of_getLsbD_eq fun i hi => ?_)
  rw [getLsbD_ofBytes]
  -- each bit of the word is in exactly one of the four bytes
  split_ifs with h h' h''
  · rw [getLsbD_lowByte w h]
  · rw [getLsbD_byte w 8 (m := 8) (by decide) (by omega), Nat.add_sub_cancel' (by omega)]
  · rw [getLsbD_byte w 16 (m := 16) (by decide) (by omega), Nat.add_sub_cancel' (by omega)]
  · rw [getLsbD_byte w 24 (m := 24) (by decide) (by omega), Nat.add_sub_cancel' (by omega)]

/-- Four bytes are those of the word that they spell. -/
theorem bytes_ofBytes (a b c d : UInt8) : (Word.ofBytes a b c d).bytes = [a, b, c, d] := by
  have hbyte (x y : UInt8) (h : ∀ i < 8, x.toBitVec.getLsbD i = y.toBitVec.getLsbD i) : x = y :=
    UInt8.toBitVec_inj.1 (BitVec.eq_of_getLsbD_eq h)
  have h0 : (Word.ofBytes a b c d).toUInt8 = a := hbyte _ _ fun i hi => by
    rw [getLsbD_lowByte _ hi, getLsbD_ofBytes, if_pos hi]
  have h8 : (Word.ofBytes a b c d >>> 8).toUInt8 = b := hbyte _ _ fun i hi => by
    rw [getLsbD_byte _ 8 (m := 8) (by decide) hi, getLsbD_ofBytes, if_neg (by omega),
      if_pos (by omega), Nat.add_sub_cancel_left]
  have h16 : (Word.ofBytes a b c d >>> 16).toUInt8 = c := hbyte _ _ fun i hi => by
    rw [getLsbD_byte _ 16 (m := 16) (by decide) hi, getLsbD_ofBytes, if_neg (by omega),
      if_neg (by omega), if_pos (by omega), Nat.add_sub_cancel_left]
  have h24 : (Word.ofBytes a b c d >>> 24).toUInt8 = d := hbyte _ _ fun i hi => by
    rw [getLsbD_byte _ 24 (m := 24) (by decide) hi, getLsbD_ofBytes, if_neg (by omega),
      if_neg (by omega), if_neg (by omega), Nat.add_sub_cancel_left]
  rw [Word.bytes, h0, h8, h16, h24]

end Word

/-- Words are spelled by their bytes. -/
theorem bytesWords?_wordBytes (words : List Word) : bytesWords? (wordBytes words) = some words := by
  induction words with
  | nil => rfl
  | cons w words ih =>
    change (bytesWords? (wordBytes words)).map (Word.ofBytes _ _ _ _ :: ·) = _
    rw [ih, Word.ofBytes_bytes, Option.map_some]

/-- Bytes spell words exactly if they are the bytes of these words. -/
theorem bytesWords?_eq_some_iff {bytes : List UInt8} {words : List Word} :
    bytesWords? bytes = some words ↔ bytes = wordBytes words := by
  constructor
  · intro h
    fun_induction bytesWords? bytes generalizing words with
    | case1 =>
      cases h
      rfl
    | case2 a b c d rest ih =>
      obtain ⟨behind, hbehind, rfl⟩ := Option.map_eq_some_iff.1 h
      rw [wordBytes, List.flatMap_cons, Word.bytes_ofBytes, ← wordBytes, ← ih hbehind]
      rfl
    | case3 => cases h
  · rintro rfl
    exact bytesWords?_wordBytes words

end ShaderLowering
