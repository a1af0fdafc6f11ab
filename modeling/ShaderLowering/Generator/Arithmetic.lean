import ShaderLowering.Generator.Register

/-!
# Arithmetic

Operations on values, component by component, and the dot product. Two operands have the same type.
Integers wrap; negation of an unsigned integer is negation of the signed one with the same bits.
-/

namespace ShaderLowering

open Spirv (Build GlslOp)

namespace Generate

/-- Fails unless two values have one type. -/
def expectSameType (a b : Value) : Generate Unit := do
  if a.type ≠ b.type then fault (.typeMismatch a.type b.type)

/-- Fails unless the components of a value are floating-point numbers. -/
def expectFloat (v : Value) : Generate Unit := do
  if v.type.scalar ≠ .float32 then fault (.typeMismatch (v.type.withScalar .float32) v.type)

/-- Emits an extended instruction with a result of a type. -/
def emitExtended (op : GlslOp) (type : ValueType) (args : List Word) : Generate Value := do
  let typeId ← build type.build
  let id ← body (Build.emitGlsl typeId op args)
  return ⟨id, type⟩

/-- Emits one of two operations, the first for floating-point numbers. -/
def binary (float integer : Spirv.Op) (a b : Value) : Generate Value := do
  expectSameType a b
  emit (if a.type.scalar = .float32 then float else integer) a.type [a.id, b.id]

/-- The sum. -/
def add (a b : Value) : Generate Value := binary .fAdd .iAdd a b

/-- The product. -/
def mul (a b : Value) : Generate Value := binary .fMul .iMul a b

/-- The sum of the products of the components. -/
def dot (a b : Value) : Generate Value := do
  expectSameType a b
  if a.type.scalar ≠ .float32 then missing .integerDot
  if a.type.count = 1 then mul a b else emit .dot ⟨.float32, 1⟩ [a.id, b.id]

/-- One over the square root. -/
def inverseSqrt (v : Value) : Generate Value := do
  expectFloat v
  emitExtended .inverseSqrt v.type [v.id]

/-- The absolute value; that of an unsigned integer is the integer itself. -/
def abs (v : Value) : Generate Value :=
  match v.type.scalar with
  | .float32 => emitExtended .fAbs v.type [v.id]
  | .sint32 => emitExtended .sAbs v.type [v.id]
  | .uint32 => do
    let _ ← build v.type.build
    return v

/-- The negation. -/
def neg (v : Value) : Generate Value :=
  match v.type.scalar with
  | .float32 => emit .fNegate v.type [v.id]
  | .sint32 | .uint32 => emit .sNegate v.type [v.id]

/-- A floating-point constant in each of `count` components. -/
def splat (bits : Word) (count : Nat) : Build Word := do
  let scalar ← Build.constantF32 bits
  if count = 1 then return scalar
  Build.constantComposite (← (ValueType.mk .float32 count).build) (List.replicate count scalar)

/-- The value clamped to the unit interval. -/
def saturate (v : Value) : Generate Value := do
  expectFloat v
  let typeId ← build v.type.build
  let zero ← build (splat 0 v.type.count)
  let one ← build (splat 0x3f800000 v.type.count)
  let id ← body (Build.emitGlsl typeId .fClamp [v.id, zero, one])
  return ⟨id, v.type⟩

end Generate

end ShaderLowering
