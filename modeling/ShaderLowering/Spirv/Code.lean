import ShaderLowering.Spirv.Enumerant
import ShaderLowering.Spirv.Op

/-!
# Module code

The words of a module, or of a part of one. A whole module starts with five header words, of which
the first is the magic number; behind the header, each instruction tells its own length in the upper
half of its first word. `Code.blocks` follows these lengths as far as they make sense, and what it
does not reach is `Code.tail`: header, blocks and tail together are the words again.

Binding decorations are the only thing that is ever changed in finished code: `Code.bindings` lists
their numbers, and `Code.mapBindings` replaces each of them.
-/

namespace ShaderLowering.Spirv

/-- The first word of every module. -/
def magicNumber : Word := 0x07230203

/-- How many words the header of a module has. -/
def headerWords : Nat := 5

/-- The words of a module or of a part of one. -/
structure Code where
  /-- The words. -/
  words : List Word
  deriving DecidableEq

/-- Why bytes are no module. -/
inductive CodeError where
  /-- The bytes do not come in fours. -/
  | misaligned (length : Nat)
  /-- There is no room for the header. -/
  | missingHeader (words : Nat)
  /-- The first word is not the magic number. -/
  | badMagic (found : Word)
  /-- The instruction at a position has no length or reaches past the end. -/
  | malformed (offset : Nat)

namespace CodeError

/-- Eight hexadecimal digits. -/
def hex8 (w : Word) : String :=
  let digits := Nat.toDigits 16 w.toNat
  String.ofList (List.replicate (8 - digits.length) '0' ++ digits)

/-- The error in words. -/
def message : CodeError → String
  | misaligned length => s!"SPIR-V byte length {length} is not a multiple of 4"
  | missingHeader words => s!"SPIR-V module too short for a header ({words} words)"
  | badMagic found => "bad SPIR-V magic number 0x" ++ hex8 found
  | malformed offset => s!"malformed SPIR-V instruction at word {offset}"

end CodeError

namespace Code

/-! ## Framing -/

/-- The length that the first word of an instruction tells. -/
def wordCount (head : Word) : Nat := head.field 16 16

/-- How many words stand before the first instruction: those of the header, if there is one. -/
def firstInstruction (c : Code) : Nat :=
  if c.words.head? = some magicNumber then headerWords else 0

/-- Cuts words into instructions as long as their lengths make sense. -/
def splitBlocks : List Word → List (List Word) × List Word
  | [] => ([], [])
  | head :: rest =>
    let count := wordCount head
    if count = 0 ∨ rest.length + 1 < count then ([], head :: rest)
    else
      let behind := splitBlocks (rest.drop (count - 1))
      ((head :: rest.take (count - 1)) :: behind.1, behind.2)
termination_by words => words.length
decreasing_by simp only [List.length_drop, List.length_cons]; omega

/-- The header words. -/
def header (c : Code) : List Word := c.words.take c.firstInstruction

/-- The instructions, each as its words. -/
def blocks (c : Code) : List (List Word) := (splitBlocks (c.words.drop c.firstInstruction)).1

/-- The words behind the last instruction that makes sense. -/
def tail (c : Code) : List Word := (splitBlocks (c.words.drop c.firstInstruction)).2

theorem flatten_splitBlocks (words : List Word) :
    (splitBlocks words).1.flatten ++ (splitBlocks words).2 = words := by
  fun_induction splitBlocks words with
  | case1 => rfl
  | case2 => rfl
  | case3 head rest count _ behind ih => simp [behind, ih]

/-- Header, instructions and tail are the whole code. -/
theorem header_blocks_tail (c : Code) : c.header ++ (c.blocks.flatten ++ c.tail) = c.words := by
  rw [blocks, tail, flatten_splitBlocks, header, List.take_append_drop]

/-- An instruction of the code with the position of its first word. -/
structure Located where
  /-- The position. -/
  offset : Nat
  /-- The words. -/
  words : List Word

/-- Instructions that follow each other from a position on. -/
def locate : Nat → List (List Word) → List Located
  | _, [] => []
  | offset, block :: blocks => ⟨offset, block⟩ :: locate (offset + block.length) blocks

/-- The instructions with their positions. -/
def instructions (c : Code) : List Located := locate c.firstInstruction c.blocks

/-- A word of an instruction; words that it lacks read as zero. -/
def Located.arg (i : Located) (index : Nat) : Word := i.words.getD index 0

/-- The opcode of an instruction. -/
def Located.opcode (i : Located) : Nat := (i.arg 0).field 0 16

/-- The position of the first instruction whose length makes no sense, in words that start at
`offset`. -/
def malformedAt? (offset : Nat) : List Word → Option Nat
  | [] => none
  | head :: rest =>
    let count := wordCount head
    if count = 0 ∨ rest.length + 1 < count then some offset
    else malformedAt? (offset + count) (rest.drop (count - 1))
termination_by words => words.length
decreasing_by simp only [List.length_drop, List.length_cons]; omega

/-- Reads a whole module. -/
def ofBytes (bytes : List UInt8) : Except CodeError Code :=
  match bytesWords? bytes with
  | none => .error (.misaligned bytes.length)
  | some words =>
    if words.length < headerWords then .error (.missingHeader words.length)
    else if words.head? ≠ some magicNumber then .error (.badMagic (words.headD 0))
    else
      match malformedAt? headerWords (words.drop headerWords) with
      | some offset => .error (.malformed offset)
      | none => .ok ⟨words⟩

/-- The words as bytes. -/
def toBytes (c : Code) : List UInt8 := wordBytes c.words

/-! ## Growing and changing -/

/-- The first word of an instruction of `count` words at the end. -/
def pushHead (c : Code) (opcode count : Nat) : Code := ⟨c.words ++ [headWord opcode count]⟩

/-- A whole instruction at the end. -/
def pushInstruction (c : Code) (opcode : Nat) (operands : List Word) : Code :=
  ⟨c.words ++ headWord opcode (operands.length + 1) :: operands⟩

/-- Other code at the end. -/
def append (c d : Code) : Code := ⟨c.words ++ d.words⟩

/-- Replaces a word of the instruction at a position; `none` if the code has no such word. -/
def setArg? (c : Code) (offset index : Nat) (value : Word) : Option Code :=
  if offset + index < c.words.length then some ⟨c.words.set (offset + index) value⟩ else none

/-! ## Binding decorations -/

/-- The number of a binding decoration, if an instruction is one. -/
def binding? : List Word → Option Word
  | head :: _ :: decoration :: number :: _ =>
    if head.field 0 16 = Op.decorate.code ∧ decoration = Decoration.binding.number then some number
    else none
  | _ => none

/-- The numbers of the binding decorations. -/
def bindings (c : Code) : List Word := c.blocks.filterMap binding?

/-- Replaces the number of a binding decoration and leaves any other instruction as it is. -/
def mapBinding (f : Word → Word) (block : List Word) : List Word :=
  match binding? block with
  | some number => block.set 3 (f number)
  | none => block

/-- Replaces the number of every binding decoration. -/
def mapBindings (f : Word → Word) (c : Code) : Code :=
  ⟨c.header ++ ((c.blocks.map (mapBinding f)).flatten ++ c.tail)⟩

end Code

end ShaderLowering.Spirv
