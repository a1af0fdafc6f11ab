import ShaderLowering.Binding.Slot
import ShaderLowering.Generator.Value
import ShaderLowering.Token.Component

/-!
# Why an operation of the generator fails

An operation can ask for something that the generator does not support, a `MissingFeature`, or it
can be used wrongly, a `GeneratorFault`. The two are told apart because a missing feature is only a
gap in the coverage of the instruction set, while a fault means that the shader makes no sense.
-/

namespace ShaderLowering

/-- Something that cannot be lowered yet. -/
inductive MissingFeature where
  /-- Shaders of a stage. -/
  | stage (stage : ShaderStage)
  /-- Resources with a return type. -/
  | returnType (type : ResourceReturnType)
  /-- Resources of a dimension. -/
  | resource (dim : ResourceDim)
  /-- Sampling resources of a dimension. -/
  | sampling (dim : ResourceDim)
  /-- Interface registers with two indices. -/
  | twoDimensional (type : OperandType) (region register : Word)
  /-- Interface registers that are neither inputs nor outputs. -/
  | interfaceType (type : OperandType)
  /-- A thread group in a shader of another stage. -/
  | threadGroup
  /-- Dot products of integers. -/
  | integerDot
  /-- A declaration of something that is no interface register. -/
  | declarationOf (opcode : Opcode) (operand : String)
  /-- An interface register that is indexed by a vertex. -/
  | vertexIndexed (operand : String)
  deriving DecidableEq

namespace MissingFeature

/-- What is missing, in words. -/
def text : MissingFeature → String
  | stage s => s!"{s.shortName} shaders"
  | returnType t => s!"{t.label} resource return type"
  | resource d => s!"{d.label} resources"
  | sampling d => s!"sampling {d.label} resources"
  | twoDimensional t region register =>
    s!"two-dimensional interface register {t.label}[{region.toNat}][{register.toNat}]"
  | interfaceType t => s!"interface register type {t.label}"
  | threadGroup => "thread group size outside compute shaders"
  | integerDot => "integer dot product"
  | declarationOf op operand => s!"{op.label} of {operand}"
  | vertexIndexed operand => s!"vertex-indexed interface register {operand}"

/-- The message about a missing feature. -/
def message (f : MissingFeature) : String := "not implemented: " ++ f.text

end MissingFeature

/-- A wrong use of the generator. -/
inductive GeneratorFault where
  /-- A register was used before its declaration. -/
  | undeclared (letters : String) (register : Word)
  /-- A store through a pointer to something that cannot change. -/
  | readOnly (storage : Storage)
  /-- The stage has no slot for a register. -/
  | slotOutOfRange (kind : ResourceClass) (register : Word)
  /-- A value has another type than the operation needs. -/
  | typeMismatch (expected found : ValueType)
  /-- A mask names components that a value does not have, or none. -/
  | invalidMask (mask : ComponentMask) (count : Nat)
  deriving DecidableEq

namespace GeneratorFault

/-- The fault in words. -/
def message : GeneratorFault → String
  | undeclared letters register => s!"{letters}{register.toNat} used before it was declared"
  | readOnly storage => s!"cannot store through a {storage.label} pointer"
  | slotOutOfRange kind register =>
    s!"register {kind.letters}{register.toNat} is outside the per-stage slot range"
  | typeMismatch expected found =>
    s!"type mismatch: expected {expected.text}, found {found.text}"
  | invalidMask mask count =>
    s!"component mask .{mask.text} does not fit a {count}-component value"

end GeneratorFault

/-- Why an operation of the generator has no result. -/
inductive GeneratorError where
  /-- Something is not supported. -/
  | missing (feature : MissingFeature)
  /-- The operation was used wrongly. -/
  | fault (fault : GeneratorFault)
  deriving DecidableEq

namespace GeneratorError

/-- The error in words. -/
def message : GeneratorError → String
  | missing f => f.message
  | fault f => f.message

end GeneratorError

end ShaderLowering
