/-!
# Words and bytes

A token program and a SPIR-V module are both streams of 32-bit words, stored least significant byte
first. This module holds the two views that everything else is built from:

* **fields**: a run of bits of a word, read as a number;
* **bytes**: the little-endian bytes of a word, and of a list of words.

Words are `UInt32`, so what is computed on them wraps at `2 ^ 32`. Fields and positions are natural
numbers.
-/

namespace ShaderLowering

/-- One 32-bit word. -/
abbrev Word := UInt32

namespace Word

/-! ## Fields -/

/-- The `width` bits of a word from bit `low` upwards, moved down to bit 0. -/
def field (w : Word) (low width : Nat) : Nat :=
  (w.toNat >>> low) % (1 <<< width)

/-- A single bit of a word. -/
def flag (w : Word) (index : Nat) : Bool :=
  w.toNat.testBit index

/-- A field does not reach the bit above its width. -/
theorem field_lt (w : Word) (low width : Nat) : w.field low width < 1 <<< width := by
  refine Nat.mod_lt _ ?_
  rw [Nat.one_shiftLeft]
  exact Nat.two_pow_pos width

/-! ## Bytes -/

/-- The four bytes of a word, least significant first. -/
def bytes (w : Word) : List UInt8 :=
  [w.toUInt8, (w >>> 8).toUInt8, (w >>> 16).toUInt8, (w >>> 24).toUInt8]

/-- The word that four bytes spell, least significant first. -/
def ofBytes (a b c d : UInt8) : Word :=
  a.toUInt32 ||| (b.toUInt32 <<< 8) ||| (c.toUInt32 <<< 16) ||| (d.toUInt32 <<< 24)

@[simp] theorem length_bytes (w : Word) : w.bytes.length = 4 := rfl

end Word

/-- The bytes of a list of words. -/
def wordBytes (words : List Word) : List UInt8 :=
  words.flatMap Word.bytes

/-- The words that a list of bytes spells, `none` unless the bytes come in fours. -/
def bytesWords? : List UInt8 → Option (List Word)
  | [] => some []
  | a :: b :: c :: d :: rest => (bytesWords? rest).map (Word.ofBytes a b c d :: ·)
  | _ => none

theorem length_wordBytes (words : List Word) : (wordBytes words).length = 4 * words.length := by
  induction words with
  | nil => rfl
  | cons w ws ih =>
    simp only [wordBytes, List.flatMap_cons, List.length_append] at ih ⊢
    simp [ih]
    omega

end ShaderLowering
