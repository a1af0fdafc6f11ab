import ShaderLowering.Lowering.Diagnostic

/-!
# Why a shader cannot be lowered

A fault of an instruction ends the lowering. It is reported with the position and the opcode of the
instruction; a word that is no instruction is reported with its own position and without an opcode.
-/

namespace ShaderLowering

/-- What an operand is used for. -/
inductive OperandRole where
  | constantBufferDeclaration | resourceDeclaration | samplerDeclaration | interfaceDeclaration
  | tempRegister | interfaceRegister | constantBuffer | sampledTexture | usedSampler | immediate
  | source | destination | register
  deriving DecidableEq

namespace OperandRole

/-- The role in words. -/
def text : OperandRole → String
  | constantBufferDeclaration => "dcl_constantbuffer"
  | resourceDeclaration => "dcl_resource"
  | samplerDeclaration => "dcl_sampler"
  | interfaceDeclaration => "interface declaration"
  | tempRegister => "temp register"
  | interfaceRegister => "interface register"
  | constantBuffer => "constant buffer"
  | sampledTexture => "sample texture"
  | usedSampler => "sample sampler"
  | immediate => "immediate operand"
  | source => "source operand"
  | destination => "destination operand"
  | register => "register operand"

end OperandRole

/-- The name of a component count. -/
def ComponentCount.label : ComponentCount → String
  | .zero => "Zero"
  | .one => "One"
  | .four => "Four"
  | .other => "N"

/-- The name of a selection mode. -/
def SelectionMode.label : SelectionMode → String
  | .mask => "Mask"
  | .swizzle => "Swizzle"
  | .single => "Select1"
  | .reserved => "Reserved"

/-- The most temporary registers that a shader can have. -/
def maxTemps : Nat := 4096

/-- What is wrong with an instruction or a program. -/
inductive CompileFault where
  /-- Words that are no instruction or no operand. -/
  | decode (error : DecodeError)
  /-- A wrong use of the generator. -/
  | generator (fault : GeneratorFault)
  /-- An operand has another number of indices than its role asks for. -/
  | indexDimension (role : OperandRole) (found : Nat)
  /-- An index is no plain 32-bit number. -/
  | indexRepresentation (role : OperandRole) (index : Nat) (found : IndexRepresentation)
  /-- An operand has a number of components that its role has no use for. -/
  | componentCount (role : OperandRole) (found : ComponentCount)
  /-- An operand names components in a way that its role has no use for. -/
  | selectionMode (role : OperandRole) (found : SelectionMode)
  /-- More temporary registers are declared than there can be. -/
  | tooManyTemps (count : Nat)
  /-- An operand of this type cannot be used here. -/
  | operandType (role : OperandRole) (found : OperandType)
  /-- A gap, where no gap is allowed. -/
  | coverageGap (diagnostic : Diagnostic)
  /-- Shaders of a stage cannot be lowered at all. -/
  | unsupportedStage (stage : ShaderStage)
  deriving DecidableEq

namespace CompileFault

/-- The fault in words. -/
def message : CompileFault → String
  | decode e => e.message
  | generator f => f.message
  | indexDimension role found => s!"{role.text}: unsupported index dimension {found}"
  | indexRepresentation role index found =>
    s!"{role.text}: index {index} must be an immediate, found {found.label}"
  | componentCount role found => s!"{role.text}: invalid component count {found.label}"
  | selectionMode role found => s!"{role.text}: invalid selection mode {found.label}"
  | tooManyTemps count => s!"dcl_temps declares {count} registers, the limit is {maxTemps}"
  | operandType role found => s!"{role.text}: unexpected operand type {found.label}"
  | coverageGap d => "coverage gap: " ++ d.text
  | unsupportedStage s => s!"{s.shortName} shaders cannot be translated"

/-- The message of the error that a fault stems from. -/
def cause? : CompileFault → Option String
  | decode e => some e.message
  | generator f => some f.message
  | _ => none

end CompileFault

/-- A fault with its place in the program. -/
structure CompileError where
  /-- The position of the instruction, or of a word that is none. -/
  position : Nat
  /-- The opcode of the instruction. -/
  opcode? : Option Opcode
  /-- What is wrong. -/
  fault : CompileFault
  deriving DecidableEq

namespace CompileError

/-- A word that cannot be decoded outside of any instruction. -/
def ofDecode (e : DecodeError) : CompileError := ⟨e.position, none, .decode e⟩

/-- The error in words. -/
def message (e : CompileError) : String :=
  match e.opcode? with
  | some op => s!"{op.label} at dword {e.position}: {e.fault.message}"
  | none => s!"at dword {e.position}: {e.fault.message}"

end CompileError

end ShaderLowering
