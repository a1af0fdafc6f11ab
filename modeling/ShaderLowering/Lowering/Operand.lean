import ShaderLowering.Generator.Entry
import ShaderLowering.Lowering.Error
import ShaderLowering.Token.Assembly

/-!
# Operands as values

How the operands of an instruction are read and written. A source operand is loaded, its components
are selected, its modifiers are applied, and a single component is repeated as often as the
destination's mask asks for. A destination operand is a mask and a place to store to.

An element of a constant buffer can be indexed by the value of another operand, so loading an
operand can load others first: `Lower.load` follows the nesting of operands.

Handlers run in `Lower`, which adds the gaps met so far to the state of the generator. A handler
that fails for want of a feature is told apart from one that meets a fault.
-/

namespace ShaderLowering

/-! ## Handlers -/

/-- Why a handler stops. -/
inductive Interruption where
  /-- For want of a feature. -/
  | missing (feature : MissingFeature)
  /-- Because of a fault. -/
  | fault (fault : CompileFault)

/-- What the handlers of instructions work on. -/
structure LowerState where
  /-- The shader under construction. -/
  generator : Generator
  /-- The gaps of this instruction, in the order in which they were met. -/
  gaps : List Gap

/-- A step in the handling of an instruction. -/
abbrev Lower := ExceptT Interruption (StateM LowerState)

namespace Lower

/-- Stops for want of a feature. -/
def missing {α : Type} (feature : MissingFeature) : Lower α := throw (.missing feature)

/-- Stops because of a fault. -/
def fault {α : Type} (fault : CompileFault) : Lower α := throw (.fault fault)

/-- Goes on with what was decoded. -/
def decoded {α : Type} : Except DecodeError α → Lower α
  | .ok a => return a
  | .error e => fault (.decode e)

/-- Records a gap and goes on. -/
def gap (g : Gap) : Lower Unit := modify fun s => { s with gaps := s.gaps ++ [g] }

/-- The reason for which an operation of the generator stops a handler. -/
def interruption : GeneratorError → Interruption
  | .missing feature => .missing feature
  | .fault f => .fault (.generator f)

/-- Runs an operation of the generator. -/
def generate {α : Type} (op : Generate α) : Lower α := fun s =>
  let (result, generator) := op.run s.generator
  (result.mapError interruption, { s with generator })

/-! ## Shapes of operands -/

/-- Fails unless an operand has a type. -/
def expectType (o : Operand) (type : OperandType) (role : OperandRole) : Lower Unit := do
  if o.type ≠ type then fault (.operandType role o.type)

/-- Fails unless an operand has a number of indices. -/
def expectDimension (o : Operand) (dimension : Nat) (role : OperandRole) : Lower Unit := do
  if o.dimension ≠ dimension then fault (.indexDimension role o.dimension)

/-- An index that must be a plain 32-bit number. -/
def plainIndex (o : Operand) (n : Nat) (role : OperandRole) : Lower Word := do
  match ← decoded (o.index n) with
  | .imm32 v => return v
  | index => fault (.indexRepresentation role n index.representation)

/-- The mask of a destination operand. -/
def targetMask (o : Operand) : Lower ComponentMask :=
  match o.token.componentCount, o.selection? with
  | .one, _ => return .single 0
  | .four, some (.mask m) => return m
  | .four, some (.single c) => return .single c
  | .four, _ => fault (.selectionMode .destination o.token.selectionMode)
  | count, _ => fault (.componentCount .destination count)

/-! ## Components and modifiers -/

/-- The components that an operand names of a value, as far as a mask asks for them. -/
def select (o : Operand) (v : Value) (mask : ComponentMask) : Lower Value :=
  match o.selection? with
  | some (.swizzle s) => generate (Generate.swizzle v s mask)
  | some (.single c) => generate (Generate.extract v (.single c))
  | some (.mask own) => generate (Generate.extract v own)
  | none => fault (.selectionMode .source o.token.selectionMode)

/-- A value with the modifiers of an operand: the absolute value is taken before the negation. -/
def applyModifiers (m : OperandModifiers) (v : Value) : Lower Value := do
  let v ← if m.abs then generate (Generate.abs v) else pure v
  if m.neg then generate (Generate.neg v) else pure v

/-- A single component repeated as often as a mask has components; any other value as it is. -/
def broadcast (v : Value) (mask : ComponentMask) : Lower Value :=
  if v.type.count = 1 ∧ 1 < mask.count then generate (Generate.replicate v mask.count) else pure v

/-! ## Loading -/

/-- The value of an immediate operand. -/
def loadImmediate (o : Operand) (mask : ComponentMask) (scalar : ScalarType) : Lower Value :=
  match o.token.componentCount with
  | .one => do generate (Generate.constantScalar scalar (← decoded (o.immediate 0)))
  | .four => do
    let bits ← [0, 1, 2, 3].mapM fun n => decoded (o.immediate n)
    let v ← generate (Generate.constantVector scalar bits)
    generate (Generate.extract v mask)
  | count => fault (.componentCount .immediate count)

/-- A pointer to the register that an operand names. `elements` are the values of its indices, which
only an index into a constant buffer needs. -/
def pointer (o : Operand) (elements : List (Lower Value)) : Lower Pointer := do
  match o.type with
  | .temp =>
    expectDimension o 1 .tempRegister
    generate (Generate.tempPointer (← plainIndex o 0 .tempRegister))
  | .input | .output =>
    match o.dimension with
    | 1 => generate (Generate.interfacePointer o.type (← plainIndex o 0 .interfaceRegister))
    | 2 => missing (.vertexIndexed o.text)
    | found => fault (.indexDimension .interfaceRegister found)
  | .constantBuffer =>
    expectDimension o 2 .constantBuffer
    let register ← plainIndex o 0 .constantBuffer
    let element ← elements.getD 1 (fault (.indexDimension .constantBuffer o.dimension))
    generate (Generate.constantBufferPointer register element)
  | type => fault (.operandType .register type)

/-- The value of a register operand, given a pointer to the register. -/
def loadRegister (o : Operand) (pointer : Lower Pointer) (mask : ComponentMask)
    (scalar : ScalarType) : Lower Value := do
  let v ← generate (Generate.load (← pointer))
  let v ← generate (Generate.cast v scalar)
  let v ← match o.token.componentCount with
    | .four => select o v mask
    | .one => generate (Generate.extract v (.single 0))
    | count => fault (.componentCount .source count)
  applyModifiers o.modifiers v

/-- A constant index. -/
def constantIndex (bits : Word) : Lower Value := generate (Generate.constantScalar .uint32 bits)

mutual

/-- The value of a source operand as components of a type, as many as a mask has. -/
def load (o : Operand) (mask : ComponentMask) (scalar : ScalarType) : Lower Value :=
  match o with
  | ⟨position, token, type, extensions, indices, immediates⟩ => do
    let o : Operand := ⟨position, token, type, extensions, indices, immediates⟩
    let v ← if type = .imm32 then loadImmediate o mask scalar
      else loadRegister o (pointer o (indexValues indices)) mask scalar
    broadcast v mask

/-- The values of indices. -/
def indexValues : List (IndexOf Operand) → List (Lower Value)
  | [] => []
  | index :: indices => indexValue index :: indexValues indices

/-- The value of an index: its number, the value of its register, or their sum. Of a number, the
lower 32 bits are used. -/
def indexValue : IndexOf Operand → Lower Value
  | .imm32 v => constantIndex v
  | .imm64 _ low => constantIndex low
  | .relative r => load r (.single 0) .uint32
  | .imm32Relative v r => do
    let number ← constantIndex v
    let register ← load r (.single 0) .uint32
    generate (Generate.add register number)
  | .imm64Relative _ low r => do
    let number ← constantIndex low
    let register ← load r (.single 0) .uint32
    generate (Generate.add register number)

end

/-! ## Storing -/

/-- Stores a value to the masked components of a destination operand. -/
def store (o : Operand) (v : Value) (mask : ComponentMask) : Lower Unit := do
  let p ← pointer o (indexValues o.indices)
  let v ← broadcast v mask
  let v ← generate (Generate.cast v p.value.scalar)
  generate (Generate.store p v mask)

end Lower

end ShaderLowering
