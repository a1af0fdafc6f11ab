import ShaderLowering.Spirv.Enumerant

/-!
# Values and pointers

What the operations of the generator work on. A value is the id of a result together with its type:
a scalar type and a number of components. A pointer is the id of something in memory, with the type
of the value there and the storage that it lies in.
-/

namespace ShaderLowering

/-- The type of a component. -/
inductive ScalarType where
  | uint32 | sint32 | float32
  deriving DecidableEq

namespace ScalarType

/-- The name of a type. -/
def label : ScalarType → String
  | uint32 => "Uint32"
  | sint32 => "Sint32"
  | float32 => "Float32"

/-- Whether the type is one of the integers. -/
def isInteger : ScalarType → Bool
  | uint32 | sint32 => true
  | float32 => false

end ScalarType

/-- The type of a value. -/
structure ValueType where
  /-- The type of the components. -/
  scalar : ScalarType
  /-- How many components there are. -/
  count : Nat
  deriving DecidableEq

namespace ValueType

/-- Four floating-point components: the type of every register. -/
def floatVector : ValueType := ⟨.float32, 4⟩

/-- The same number of components of another type. -/
def withScalar (t : ValueType) (scalar : ScalarType) : ValueType := ⟨scalar, t.count⟩

/-- The text of a type in messages. -/
def text (t : ValueType) : String :=
  "ValueType \x7b scalar: " ++ t.scalar.label ++ ", count: " ++ toString t.count ++ " \x7d"

end ValueType

/-- The result of an operation. -/
structure Value where
  /-- The id of the result. -/
  id : Word
  /-- The type of the result. -/
  type : ValueType
  deriving DecidableEq

/-- Where a pointer points. -/
inductive Storage where
  /-- Temporary registers. -/
  | temporary
  /-- Input registers. -/
  | input
  /-- Output registers. -/
  | output
  /-- The contents of constant buffers. -/
  | uniform
  /-- Textures and samplers. -/
  | uniformConstant
  deriving DecidableEq

namespace Storage

/-- The name of a storage. -/
def label : Storage → String
  | temporary => "Private"
  | input => "Input"
  | output => "Output"
  | uniform => "Uniform"
  | uniformConstant => "UniformConstant"

/-- Whether it can be stored to. -/
def isWritable : Storage → Bool
  | temporary | output => true
  | input | uniform | uniformConstant => false

/-- The SPIR-V storage class. -/
def spirvClass : Storage → Spirv.StorageClass
  | temporary => .privateClass
  | input => .input
  | output => .output
  | uniform => .uniform
  | uniformConstant => .uniformConstant

end Storage

/-- Something in memory. -/
structure Pointer where
  /-- The id of the pointer. -/
  id : Word
  /-- The type of the value there. -/
  value : ValueType
  /-- Where it lies. -/
  storage : Storage
  deriving DecidableEq

end ShaderLowering
