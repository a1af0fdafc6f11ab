import ShaderLowering.Generator.Declare

/-!
# Registers

Pointers to registers, loads and stores through them, and the rearrangement of components.

A store has a mask. A value that is as wide as the pointer's writes each masked component from the
same place; a value with as many components as the mask writes the masked components in their order.
All other components keep what they held.
-/

namespace ShaderLowering

open Spirv (Build)

namespace Generate

/-! ## Constants -/

/-- A constant with one component. -/
def constantScalar (scalar : ScalarType) (bits : Word) : Generate Value := do
  let id ← build do Build.constant (← scalar.build) bits
  return ⟨id, scalar, 1⟩

/-- A constant with several components. -/
def constantVector (scalar : ScalarType) (bits : List Word) : Generate Value := do
  let type : ValueType := ⟨scalar, bits.length⟩
  let id ← build do
    let scalarType ← scalar.build
    let parts ← bits.mapM (Build.constant scalarType)
    Build.constantComposite (← type.build) parts
  return ⟨id, type⟩

/-! ## Pointers -/

/-- A pointer to a temporary register. -/
def tempPointer (register : Word) : Generate Pointer := do
  match (← get).temps[register.toNat]? with
  | some id => return ⟨id, .floatVector, .temporary⟩
  | none => fault (.undeclared OperandType.temp.label register)

/-- A pointer to an input or output register. -/
def interfacePointer (type : OperandType) (register : Word) : Generate Pointer := do
  let g ← get
  match (InterfaceClass.ofOperandType? type).bind fun kind => g.interface? kind register with
  | some v => return ⟨v.variableId, .floatVector, v.kind.storage⟩
  | none => fault (.undeclared type.label register)

/-- A pointer to an element of a constant buffer. -/
def constantBufferPointer (register : Word) (element : Value) : Generate Pointer := do
  let some buffer := (← get).resource? .constantBuffer register
    | fault (.undeclared ResourceClass.constantBuffer.letters register)
  unless element.type.scalar.isInteger && element.type.count == 1 do
    fault (.typeMismatch ⟨.uint32, 1⟩ element.type)
  let pointerType ← build (ValueType.floatVector.buildPointer .uniform)
  let member ← build (Build.constantU32 0)
  let id ← body (Build.emitValue .accessChain pointerType [buffer.variableId, member, element.id])
  return ⟨id, .floatVector, .uniform⟩

/-! ## Components -/

/-- Emits a value of a type. -/
def emit (op : Spirv.Op) (type : ValueType) (operands : List Word) : Generate Value := do
  let typeId ← build type.build
  let id ← body (Build.emitValue op typeId operands)
  return ⟨id, type⟩

/-- The given components of a value side by side; each of them must be one of the value's. -/
def selectLanes (v : Value) (lanes : List Nat) : Generate Value :=
  let type : ValueType := ⟨v.type.scalar, lanes.length⟩
  if v.type.count = 1 ∧ lanes.length = 1 then return v
  else if v.type.count = 1 then emit .compositeConstruct type (lanes.map fun _ => v.id)
  else if lanes.length = 1 then emit .compositeExtract type (v.id :: lanes.map UInt32.ofNat)
  else emit .vectorShuffle type (v.id :: v.id :: lanes.map UInt32.ofNat)

/-- The same bits as components of another type. -/
def cast (v : Value) (scalar : ScalarType) : Generate Value :=
  if v.type.scalar = scalar then return v
  else emit .bitcast (v.type.withScalar scalar) [v.id]

/-- Whether a mask names at least one component, and only components of a value with `count`. -/
def maskFits (mask : ComponentMask) (count : Nat) : Bool :=
  !mask.isEmpty && mask.components.all (· < count)

/-- The masked components of a value side by side. -/
def extract (v : Value) (mask : ComponentMask) : Generate Value := do
  unless maskFits mask v.type.count do fault (.invalidMask mask v.type.count)
  if mask = .firstN v.type.count then return v else selectLanes v mask.components

/-- For each masked component, the component of a value that feeds it, side by side. -/
def swizzle (v : Value) (s : Swizzle) (mask : ComponentMask) : Generate Value := do
  if mask.isEmpty then fault (.invalidMask mask v.type.count)
  let lanes := mask.components.map s.get
  if let some lane := lanes.find? (v.type.count ≤ ·) then
    fault (.invalidMask (.single lane) v.type.count)
  if lanes.length = v.type.count ∧ lanes = List.range lanes.length then return v
  else selectLanes v lanes

/-- A value with one component, repeated `count` times. -/
def replicate (v : Value) (count : Nat) : Generate Value := do
  if v.type.count ≠ 1 then fault (.typeMismatch ⟨v.type.scalar, 1⟩ v.type)
  if count = 1 then return v else selectLanes v (List.replicate count 0)

/-! ## Loads and stores -/

/-- The value that a pointer points to. -/
def load (p : Pointer) : Generate Value := emit .load p.value [p.id]

/-- What each component of a register becomes by a store: a number below `count` is a component of
the old value, and one from `count` upwards a component of the stored value. The number of a
component is a byte, so a mask repeats every 256 components. -/
def mergeLanes (count : Nat) (mask : ComponentMask) (positional : Bool) : List Nat :=
  let storedBelow (i : Nat) : Nat :=
    i / 256 * mask.count + (mask.components.filter (· < i % 256)).length
  (List.range count).map fun i =>
    if mask.contains (i % 256) then count + if positional then i else storedBelow i
    else i

/-- The old value of a register with the masked components replaced. -/
def merge (p : Pointer) (old v : Value) (mask : ComponentMask) : Generate Value :=
  if v.type.count = 1 then
    emit .compositeInsert p.value [v.id, old.id, UInt32.ofNat (mask.first?.getD 0)]
  else
    let positional := v.type.count == p.value.count
    emit .vectorShuffle p.value
      (old.id :: v.id :: (mergeLanes p.value.count mask positional).map UInt32.ofNat)

/-- Stores the masked components of a register. -/
def store (p : Pointer) (v : Value) (mask : ComponentMask) : Generate Unit := do
  let target := p.value
  unless p.storage.isWritable do fault (.readOnly p.storage)
  if v.type.scalar ≠ target.scalar then
    fault (.typeMismatch (v.type.withScalar target.scalar) v.type)
  unless maskFits mask target.count do fault (.invalidMask mask target.count)
  if v.type.count ≠ target.count ∧ v.type.count ≠ mask.count then
    fault (.invalidMask mask v.type.count)
  if v.type.count = target.count ∧ mask = .firstN target.count then
    body (Build.emitStore p.id v.id)
  else
    let old ← load p
    let merged ← merge p old v mask
    body (Build.emitStore p.id merged.id)

end Generate

end ShaderLowering
