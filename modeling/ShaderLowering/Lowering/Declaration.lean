import ShaderLowering.Lowering.Operand

/-!
# Declarations

The handlers of declarations read what an instruction declares and hand it to the generator. Words
behind the operand of a declaration are numbers: the return types of a resource, or a system value.
-/

namespace ShaderLowering.Lower

/-- Declares a constant buffer. -/
def declareConstantBuffer (i : Instruction) : Lower Unit := do
  let o ← decoded (i.operand 0)
  expectType o .constantBuffer .constantBufferDeclaration
  expectDimension o 2 .constantBufferDeclaration
  let register ← plainIndex o 0 .constantBufferDeclaration
  let size ← plainIndex o 1 .constantBufferDeclaration
  generate (Generate.declareConstantBuffer register size)

/-- The return types of four components in fields of four bits; `position` is that of the word. -/
def returnTypes (w : Word) (position : Nat) : Except DecodeError (List ResourceReturnType) :=
  [0, 4, 8, 12].mapM fun low => Numbered.decode (w.field low 4) position

/-- Declares a texture or buffer by the return type of its first component. -/
def declareResource (i : Instruction) : Lower Unit := do
  let o ← decoded (i.operand 0)
  expectType o .resource .resourceDeclaration
  expectDimension o 1 .resourceDeclaration
  let register ← plainIndex o 0 .resourceDeclaration
  let dim ← decoded i.resourceDim
  let w ← decoded (i.arg o.length)
  let types ← decoded (returnTypes w (i.argsPosition + o.length))
  let type := types.headD .float
  if types.any (· ≠ type) then gap (.mixedReturnTypes register types)
  generate (Generate.declareResource register dim type)

/-- Declares a sampler. -/
def declareSampler (i : Instruction) : Lower Unit := do
  let o ← decoded (i.operand 0)
  expectType o .sampler .samplerDeclaration
  expectDimension o 1 .samplerDeclaration
  let register ← plainIndex o 0 .samplerDeclaration
  let mode ← decoded i.samplerMode
  generate (Generate.declareSampler register mode)

/-- Whether the declarations of an opcode have a system value. -/
def hasSystemValue : Opcode → Bool
  | .dclInputSgv | .dclInputSiv | .dclInputPsSgv | .dclInputPsSiv | .dclOutputSgv
  | .dclOutputSiv => true
  | _ => false

/-- Whether the declarations of an opcode have an interpolation mode. -/
def hasInterpolation : Opcode → Bool
  | .dclInputPs | .dclInputPsSiv => true
  | _ => false

/-- The region, if there are two indices, and the register of an interface declaration. -/
def interfaceIndices (o : Operand) : Lower (Option Word × Word) :=
  match o.dimension with
  | 1 => do return (none, ← plainIndex o 0 .interfaceDeclaration)
  | 2 => do
    let region ← plainIndex o 0 .interfaceDeclaration
    let register ← plainIndex o 1 .interfaceDeclaration
    return (some region, register)
  | found => fault (.indexDimension .interfaceDeclaration found)

/-- The system value of an interface declaration. -/
def systemValue (i : Instruction) (o : Operand) : Lower SystemValue := do
  if hasSystemValue i.opcode then
    let w ← decoded (i.arg o.length)
    decoded (Numbered.decode w.toNat (i.argsPosition + o.length))
  else return .undefined

/-- Declares an input or output register; a system value that cannot be expressed is left out. -/
def declareInterface (i : Instruction) : Lower Unit := do
  let o ← decoded (i.operand 0)
  if (InterfaceClass.ofOperandType? o.type).isNone then missing (.declarationOf i.opcode o.text)
  let (region?, register) ← interfaceIndices o
  let mask ← targetMask o
  let wanted ← systemValue i o
  let supported := (← get).generator.supports o.type wanted
  unless supported do gap (.unsupportedSystemValue o.type register wanted)
  let interpolation ← if hasInterpolation i.opcode then decoded i.interpolationMode
    else pure .undefined
  generate (Generate.declareInterface
    { type := o.type, register, region?, mask, interpolation,
      systemValue := if supported then wanted else .undefined })

/-- Declares temporary registers. -/
def declareTemps (i : Instruction) : Lower Unit := do
  let count ← decoded (i.arg 0)
  if maxTemps < count.toNat then fault (.tooManyTemps count.toNat)
  generate (Generate.declareTemps count.toNat)

/-- Declares the size of a thread group. -/
def declareThreadGroup (i : Instruction) : Lower Unit := do
  let x ← decoded (i.arg 0)
  let y ← decoded (i.arg 1)
  let z ← decoded (i.arg 2)
  generate (Generate.declareThreadGroup x y z)

end ShaderLowering.Lower
