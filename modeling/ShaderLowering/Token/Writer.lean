import ShaderLowering.Token.Program

/-!
# Writing operands, instructions and programs

The other direction of the decoders: an `OperandDraft` and an `InstructionDraft` describe an operand
and an instruction by their parts, and `words` packs the parts into words. Drafts are not checked,
so they can also describe words that no decoder accepts. A part that is too large for its place
reaches into the bits above it.
-/

namespace ShaderLowering

/-- A number moved up to bit `low` of a word; what lies above the word is lost. -/
def Word.place (n low : Nat) : Word := UInt32.ofNat (n <<< low)

/-- The bit of a token that announces an extended token behind it. -/
def Word.extendedBit : Word := Word.place 1 31

/-! ## Operands -/

/-- An index of an operand to be written; a register is given by its words. -/
inductive IndexDraft where
  /-- A 32-bit number. -/
  | imm32 (value : Word)
  /-- The value of a register. -/
  | relative (register : List Word)
  /-- A 32-bit number plus the value of a register. -/
  | imm32Relative (value : Word) (register : List Word)

namespace IndexDraft

/-- How the index is encoded. -/
def representation : IndexDraft → IndexRepresentation
  | imm32 _ => .imm32
  | relative _ => .relative
  | imm32Relative _ _ => .imm32Relative

/-- The words of the index. -/
def words : IndexDraft → List Word
  | imm32 v => [v]
  | relative register => register
  | imm32Relative v register => v :: register

end IndexDraft

/-- An operand to be written. -/
structure OperandDraft where
  /-- The operand type. -/
  type : OperandType
  /-- The field of the component count. -/
  count : Word
  /-- The field of the selection mode. -/
  mode : Word
  /-- The field of the selected components. -/
  components : Word
  /-- The indices. -/
  indices : List IndexDraft
  /-- The source modifiers. -/
  modifiers : OperandModifiers
  /-- The immediate words. -/
  immediates : List Word

namespace OperandDraft

/-- Four components, all of them in the mask, no indices. -/
def ofType (type : OperandType) : OperandDraft where
  type
  count := 2
  mode := 0
  components := 15
  indices := []
  modifiers := .none
  immediates := []

/-- One component. -/
def scalar (o : OperandDraft) : OperandDraft := { o with count := 1, mode := 0, components := 0 }

/-- No component. -/
def noComponents (o : OperandDraft) : OperandDraft :=
  { o with count := 0, mode := 0, components := 0 }

/-- Four components with a mask. -/
def mask (o : OperandDraft) (m : ComponentMask) : OperandDraft :=
  { o with count := 2, mode := 0, components := UInt32.ofNat m.bits }

/-- Four components with a swizzle. -/
def swizzle (o : OperandDraft) (s : Swizzle) : OperandDraft :=
  { o with count := 2, mode := 1, components := UInt32.ofNat s.packed }

/-- Four components of which one is selected. -/
def single (o : OperandDraft) (component : Nat) : OperandDraft :=
  { o with count := 2, mode := 2, components := UInt32.ofNat (component % 4) }

/-- The given fields, whether they have a meaning or not. -/
def rawSelection (o : OperandDraft) (count mode components : Word) : OperandDraft :=
  { o with count, mode, components }

/-- One more index. -/
def addIndex (o : OperandDraft) (index : IndexDraft) : OperandDraft :=
  { o with indices := o.indices ++ [index] }

/-- One more index that is a number. -/
def index (o : OperandDraft) (value : Word) : OperandDraft := o.addIndex (.imm32 value)

/-- The given source modifiers. -/
def withModifiers (o : OperandDraft) (modifiers : OperandModifiers) : OperandDraft :=
  { o with modifiers }

/-- The given immediate words. -/
def withImmediates (o : OperandDraft) (immediates : List Word) : OperandDraft :=
  { o with immediates }

/-- The representations of the indices in their places. -/
def representationBits (o : OperandDraft) : List Word :=
  o.indices.mapIdx fun n index => index.representation.raw.toUInt32 <<< (22 + 3 * n).toUInt32

/-- The operand token. -/
def token (o : OperandDraft) : Word :=
  let fields := o.count ||| (o.mode <<< 2) ||| (o.components <<< 4) ||| Word.place o.type.raw 12
    ||| Word.place o.indices.length 20
  let extended := if o.modifiers.isNone then 0 else Word.extendedBit
  o.representationBits.foldl (· ||| ·) fields ||| extended

/-- The modifier token, if one is needed. -/
def modifierTokens (o : OperandDraft) : List Word :=
  if o.modifiers.isNone then [] else [1 ||| Word.place o.modifiers.bits 6]

/-- The words of the operand. -/
def words (o : OperandDraft) : List Word :=
  o.token :: (o.modifierTokens ++ o.indices.flatMap IndexDraft.words ++ o.immediates)

end OperandDraft

/-! ## Usual operands -/

/-- A temporary register that is written through a mask. -/
def tempTarget (register : Word) (m : ComponentMask) : List Word :=
  ((OperandDraft.ofType .temp).mask m |>.index register).words

/-- A temporary register that is read through a swizzle. -/
def tempSource (register : Word) (s : Swizzle) : List Word :=
  ((OperandDraft.ofType .temp).swizzle s |>.index register).words

/-- One component of a temporary register. -/
def tempComponent (register : Word) (component : Nat) : List Word :=
  ((OperandDraft.ofType .temp).single component |>.index register).words

/-- An element of a constant buffer that is read through a swizzle. -/
def constantBufferSource (buffer element : Word) (s : Swizzle) : List Word :=
  ((OperandDraft.ofType .constantBuffer).swizzle s |>.index buffer |>.index element).words

/-- An immediate with one component. -/
def immediateScalar (bits : Word) : List Word :=
  ((OperandDraft.ofType .imm32).scalar.withImmediates [bits]).words

/-- An immediate with four components. -/
def immediateVector (bits : List Word) : List Word :=
  ((OperandDraft.ofType .imm32).withImmediates bits).words

/-! ## Instructions -/

/-- An instruction to be written. -/
structure InstructionDraft where
  /-- The number of the opcode. -/
  opcodeRaw : Word
  /-- Bits of the opcode token, at their places. -/
  control : Word
  /-- The extended tokens; bit 31 is set when they are written. -/
  extensions : List Word
  /-- The argument words. -/
  args : List Word

namespace InstructionDraft

/-- An instruction without control bits and arguments. -/
def ofOpcode (op : Opcode) : InstructionDraft := ⟨op.raw.toUInt32, 0, [], []⟩

/-- More control bits, given at their places in the token. -/
def withControl (i : InstructionDraft) (bits : Word) : InstructionDraft :=
  { i with control := i.control ||| bits }

/-- The result is clamped to the unit interval. -/
def saturate (i : InstructionDraft) : InstructionDraft := i.withControl (Word.place 1 13)

/-- One more extended token. -/
def extension (i : InstructionDraft) (token : Word) : InstructionDraft :=
  { i with extensions := i.extensions ++ [token &&& ~~~Word.extendedBit] }

/-- A sample-controls token with texel offsets, of which four bits are kept. -/
def texelOffsets (i : InstructionDraft) (u v w : Int) : InstructionDraft :=
  let part (offset : Int) (low : Nat) : Word := Word.place (offset % 16).toNat low
  i.extension (1 ||| part u 9 ||| part v 13 ||| part w 17)

/-- More argument words. -/
def operand (i : InstructionDraft) (words : List Word) : InstructionDraft :=
  { i with args := i.args ++ words }

/-- One more argument word. -/
def arg (i : InstructionDraft) (w : Word) : InstructionDraft := i.operand [w]

/-- How many words the instruction has. -/
def length (i : InstructionDraft) : Nat := 1 + i.extensions.length + i.args.length

/-- Extended tokens, each but the last one announcing the next. -/
def chained : List Word → List Word
  | [] => []
  | [w] => [w]
  | w :: ws => (w ||| Word.extendedBit) :: chained ws

/-- The opcode token, which keeps seven bits of the length. -/
def token (i : InstructionDraft) : Word :=
  let fields := i.opcodeRaw ||| i.control ||| Word.place (i.length % 128) 24
  if i.extensions.isEmpty then fields else fields ||| Word.extendedBit

/-- The words of the instruction. -/
def words (i : InstructionDraft) : List Word :=
  i.token :: (chained i.extensions ++ i.args)

end InstructionDraft

/-! ## Usual instructions -/

/-- Declares how many temporary registers there are. -/
def declareTemps (count : Word) : List Word :=
  ((InstructionDraft.ofOpcode .dclTemps).arg count).words

/-- Declares global flags. -/
def declareGlobalFlags (flags : Word) : List Word :=
  ((InstructionDraft.ofOpcode .dclGlobalflags).withControl (flags <<< 11)).words

/-- Declares a constant buffer of `size` elements. -/
def declareConstantBuffer (buffer size : Word) : List Word :=
  ((InstructionDraft.ofOpcode .dclConstantbuffer).operand
    ((OperandDraft.ofType .constantBuffer).swizzle .xyzw |>.index buffer |>.index size).words).words

/-- The word with the return types of the four components of a resource. -/
def returnTypeWord (types : List ResourceReturnType) : Word :=
  UInt32.ofNat (types.foldr (fun type behind => (behind <<< 4) + type.raw) 0)

/-- Declares a resource. -/
def declareResource (register : Word) (dim : ResourceDim) (types : List ResourceReturnType) :
    List Word :=
  ((InstructionDraft.ofOpcode .dclResource).withControl (Word.place dim.raw 11)
    |>.operand ((OperandDraft.ofType .resource).noComponents.index register).words
    |>.arg (returnTypeWord types)).words

/-- Declares a sampler. -/
def declareSampler (register : Word) (mode : SamplerMode) : List Word :=
  ((InstructionDraft.ofOpcode .dclSampler).withControl (Word.place mode.raw 11)
    |>.operand ((OperandDraft.ofType .sampler).noComponents.index register).words).words

/-- Declares an input or output register, with a system value and an interpolation mode if they are
given. -/
def declareInterface (op : Opcode) (type : OperandType) (register : Word) (m : ComponentMask)
    (systemValue : Option SystemValue) (interpolation : Option InterpolationMode) : List Word :=
  ((InstructionDraft.ofOpcode op)
    |>.operand ((OperandDraft.ofType type).mask m |>.index register).words
    |>.withControl (match interpolation with | some mode => Word.place mode.raw 11 | none => 0)
    |>.operand (match systemValue with | some v => [v.raw.toUInt32] | none => [])).words

/-- Declares the size of a thread group. -/
def declareThreadGroup (x y z : Word) : List Word :=
  ((InstructionDraft.ofOpcode .dclThreadGroup).operand [x, y, z]).words

/-- Returns from the program. -/
def returnInstruction : List Word := (InstructionDraft.ofOpcode .ret).words

/-! ## Programs -/

/-- The version token of a stage and a shader model. -/
def versionToken (stage : ShaderStage) (major minor : Nat) : Word :=
  Word.place stage.programType 16 ||| Word.place major 4 ||| UInt32.ofNat minor

/-- A program of shader model 5.0 with the given instructions. -/
def programWords (stage : ShaderStage) (body : List (List Word)) : List Word :=
  versionToken stage 5 0 :: UInt32.ofNat (2 + body.flatten.length) :: body.flatten

end ShaderLowering
