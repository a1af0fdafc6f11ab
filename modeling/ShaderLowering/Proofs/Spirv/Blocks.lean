import Mathlib.Algebra.GroupWithZero.Nat
import ShaderLowering.Spirv.Code

/-!
# How code is cut

A block `IsFramed` if it tells its own length. Cutting yields framed blocks, and framed blocks are
cut as they are, whatever else they hold (`Code.splitBlocks_flatten_append`).

Two loops walk over code by the lengths that its instructions tell: `splitBlocks` cuts it into
instructions, `malformedAt?` looks for the first length that makes no sense. Both stop at the same
word (`Code.malformedAt?_eq`).
-/

namespace ShaderLowering.Spirv.Code

/-! ## Framed blocks -/

/-- Whether words are an instruction that tells its own length. -/
def IsFramed (block : List Word) : Prop :=
  block ≠ [] ∧ wordCount (block.headD 0) = block.length

theorem IsFramed.length_pos {block : List Word} (h : IsFramed block) : 0 < block.length :=
  List.length_pos_iff.2 h.1

/-- Words that start with a framed block are cut behind it. -/
theorem splitBlocks_append {block : List Word} (h : IsFramed block) (rest : List Word) :
    splitBlocks (block ++ rest) = (block :: (splitBlocks rest).1, (splitBlocks rest).2) := by
  obtain ⟨hne, hcount⟩ := h
  obtain ⟨head, words, rfl⟩ := List.exists_cons_of_ne_nil hne
  rw [List.headD_cons, List.length_cons] at hcount
  rw [List.cons_append, splitBlocks]
  simp only [hcount]
  rw [if_neg (by simp), Nat.add_sub_cancel, List.drop_left, List.take_left]

/-- Words that start with framed blocks are cut behind each of them. -/
theorem splitBlocks_flatten_append {blocks : List (List Word)} (h : ∀ b ∈ blocks, IsFramed b)
    (rest : List Word) :
    splitBlocks (blocks.flatten ++ rest) = (blocks ++ (splitBlocks rest).1, (splitBlocks rest).2) := by
  induction blocks with
  | nil => rfl
  | cons block blocks ih =>
    rw [List.flatten_cons, List.append_assoc, splitBlocks_append (h block (List.mem_cons_self ..)),
      ih fun b hb => h b (List.mem_cons_of_mem _ hb), List.cons_append]

/-- The first word, in words that start with a length that makes sense, tells how much is cut off. -/
theorem isFramed_cons_take {head : Word} {rest : List Word}
    (h : ¬(wordCount head = 0 ∨ rest.length + 1 < wordCount head)) :
    IsFramed (head :: rest.take (wordCount head - 1)) := by
  refine ⟨List.cons_ne_nil _ _, ?_⟩
  rw [List.headD_cons, List.length_cons, List.length_take]
  omega

/-- Cutting yields framed blocks. -/
theorem isFramed_of_mem_splitBlocks (words : List Word) :
    ∀ b ∈ (splitBlocks words).1, IsFramed b := by
  fun_induction splitBlocks words with
  | case1 | case2 => exact fun b hb => absurd hb List.not_mem_nil
  | case3 head rest count h behind ih =>
    rintro b (_ | ⟨_, hb⟩)
    · exact isFramed_cons_take h
    · exact ih b hb

/-- What is left is cut no further. -/
theorem splitBlocks_tail (words : List Word) :
    splitBlocks (splitBlocks words).2 = ([], (splitBlocks words).2) := by
  fun_induction splitBlocks words with
  | case1 => rw [splitBlocks]
  | case2 head rest count h => rw [splitBlocks, if_pos h]
  | case3 head rest count h behind ih => exact ih

/-! ## Where cutting ends -/

/-- A malformed instruction is found where cutting ends before the words do. -/
theorem malformedAt?_eq (offset : Nat) (words : List Word) :
    malformedAt? offset words =
      if (splitBlocks words).2 = [] then none
      else some (offset + (splitBlocks words).1.flatten.length) := by
  fun_induction malformedAt? offset words with
  | case1 => rw [splitBlocks, if_pos rfl]
  | case2 offset head rest count h =>
    rw [splitBlocks, if_pos h, if_neg (List.cons_ne_nil _ _)]
    rfl
  | case3 offset head rest count h ih =>
    have hlength : (head :: rest.take (count - 1)).length = count :=
      (isFramed_cons_take h).2.symm
    rw [splitBlocks, if_neg h, ih, List.flatten_cons, List.length_append, hlength, Nat.add_assoc]

/-! ## Instructions with their positions -/

theorem map_words_locate (offset : Nat) (blocks : List (List Word)) :
    (locate offset blocks).map (·.words) = blocks := by
  induction blocks generalizing offset with
  | nil => rfl
  | cons block blocks ih => rw [locate, List.map_cons, ih]

theorem map_words_instructions (c : Code) : c.instructions.map (·.words) = c.blocks :=
  map_words_locate _ _

/-- How many words the instructions of code have. -/
def reach (c : Code) : Nat := (c.instructions.map (·.words.length)).sum

theorem reach_eq (c : Code) : c.reach = c.blocks.flatten.length := by
  rw [reach, List.length_flatten, ← map_words_instructions, List.map_map]
  rfl

/-- Instructions stand one behind the other, from one position to another, and each of them is the
words that stand there. -/
def Tile (words : List Word) : Nat → List Located → Nat → Prop
  | start, [], stop => start = stop
  | start, i :: insts, stop => i.offset = start ∧ 0 < i.words.length ∧
      i.words = (words.drop start).take i.words.length ∧
      Tile words (start + i.words.length) insts stop

namespace Tile

variable {words : List Word} {start stop : Nat} {insts : List Located}

/-- An instruction is made of the words at its position. -/
theorem words_eq (h : Tile words start insts stop) :
    ∀ i ∈ insts, i.words = (words.drop i.offset).take i.words.length := by
  induction insts generalizing start with
  | nil => exact nofun
  | cons i insts ih =>
    obtain ⟨rfl, -, hwords, hrest⟩ := h
    exact List.forall_mem_cons.2 ⟨hwords, ih hrest⟩

/-- Instructions stand behind each other. -/
theorem pairwise (h : Tile words start insts stop) :
    (∀ i ∈ insts, start ≤ i.offset) ∧ insts.Pairwise fun i j => i.offset < j.offset := by
  induction insts generalizing start with
  | nil => exact ⟨nofun, .nil⟩
  | cons i insts ih =>
    obtain ⟨rfl, hpos, -, hrest⟩ := h
    obtain ⟨hle, hpairwise⟩ := ih hrest
    have hlt : ∀ j ∈ insts, i.offset < j.offset := fun j hj => by
      have := hle j hj
      omega
    exact ⟨List.forall_mem_cons.2 ⟨Nat.le_refl _, fun j hj => Nat.le_of_lt (hlt j hj)⟩,
      List.pairwise_cons.2 ⟨hlt, hpairwise⟩⟩

end Tile

/-- Framed blocks tile the words that they are cut from. -/
theorem tile_locate {words behind : List Word} {blocks : List (List Word)} {start : Nat}
    (hb : ∀ b ∈ blocks, IsFramed b) (hwords : words.drop start = blocks.flatten ++ behind) :
    Tile words start (locate start blocks) (start + blocks.flatten.length) := by
  induction blocks generalizing start with
  | nil => rfl
  | cons block blocks ih =>
    rw [List.flatten_cons, List.append_assoc] at hwords
    refine ⟨rfl, (hb block (List.mem_cons_self ..)).length_pos, ?_, ?_⟩
    · rw [hwords, List.take_left]
    · have hrest : words.drop (start + block.length) = blocks.flatten ++ behind := by
        rw [← List.drop_drop, hwords, List.drop_left]
      rw [List.flatten_cons, List.length_append, ← Nat.add_assoc]
      exact ih (fun b hb' => hb b (List.mem_cons_of_mem _ hb')) hrest

theorem isFramed_of_mem_blocks (c : Code) : ∀ b ∈ c.blocks, IsFramed b :=
  isFramed_of_mem_splitBlocks _

/-- Where there are instructions, there is a whole header in front of them, or none. -/
theorem length_header {c : Code} (h : c.words.drop c.firstInstruction ≠ []) :
    c.header.length = c.firstInstruction := by
  rw [header, List.length_take, Nat.min_eq_left]
  exact Nat.le_of_not_le fun hle => h (List.drop_eq_nil_of_le hle)

/-- The instructions of code tile it from its first one on, as far as they reach. -/
theorem tile_instructions (c : Code) :
    Tile c.words c.firstInstruction c.instructions (c.firstInstruction + c.reach) := by
  rw [reach_eq]
  exact tile_locate c.isFramed_of_mem_blocks (flatten_splitBlocks _).symm

/-- A word of code is in the header, in an instruction or in the tail. -/
theorem length_words (c : Code) :
    c.header.length + (c.reach + c.tail.length) = c.words.length := by
  rw [reach_eq, ← List.length_append, ← List.length_append, header_blocks_tail]

end ShaderLowering.Spirv.Code
