import ShaderLowering.Lowering.Operand

/-!
# Computations

The handlers of instructions that compute a value: they decode all operands, load the sources,
compute, and store the result through the mask of the destination, clamped to the unit interval
where the instruction says so.
-/

namespace ShaderLowering.Lower

/-- Decodes the first operands of an instruction, the destination first. -/
def operands {α : Type} (i : Instruction) (d : Decoder α) : Lower α :=
  match d i.cursor with
  | .ok (a, _) => return a
  | .error e => fault (.decode e)

/-- Stores the result of an instruction. -/
def storeResult (i : Instruction) (target : Operand) (v : Value) (mask : ComponentMask) :
    Lower Unit := do
  let v ← if i.control.saturate then generate (Generate.saturate v) else pure v
  store target v mask

/-- Computes from one source, as wide as the mask of the destination. -/
def unary (i : Instruction) (op : Value → Generate Value) : Lower Unit := do
  let (target, source) ← operands i do
    let target ← Operand.decode
    let source ← Operand.decode
    return (target, source)
  let mask ← targetMask target
  let v ← load source mask .float32
  storeResult i target (← generate (op v)) mask

/-- Decodes a destination and two sources. -/
def binaryOperands (i : Instruction) : Lower (Operand × Operand × Operand) :=
  operands i do
    let target ← Operand.decode
    let a ← Operand.decode
    let b ← Operand.decode
    return (target, a, b)

/-- Computes from two sources, as wide as the mask of the destination. -/
def binary (i : Instruction) (op : Value → Value → Generate Value) : Lower Unit := do
  let (target, sourceA, sourceB) ← binaryOperands i
  let mask ← targetMask target
  let a ← load sourceA mask .float32
  let b ← load sourceB mask .float32
  storeResult i target (← generate (op a b)) mask

/-- Multiplies two sources and adds a third. -/
def multiplyAdd (i : Instruction) : Lower Unit := do
  let (target, sourceA, sourceB, sourceC) ← operands i do
    let target ← Operand.decode
    let a ← Operand.decode
    let b ← Operand.decode
    let c ← Operand.decode
    return (target, a, b, c)
  let mask ← targetMask target
  let a ← load sourceA mask .float32
  let b ← load sourceB mask .float32
  let c ← load sourceC mask .float32
  let product ← generate (Generate.mul a b)
  storeResult i target (← generate (Generate.add product c)) mask

/-- The dot product of the first `n` components of two sources, whatever the mask of the destination
is. -/
def dot (i : Instruction) (n : Nat) : Lower Unit := do
  let (target, sourceA, sourceB) ← binaryOperands i
  let mask ← targetMask target
  let a ← load sourceA (.firstN n) .float32
  let b ← load sourceB (.firstN n) .float32
  storeResult i target (← generate (Generate.dot a b)) mask

/-- Samples a texture. The components of the result are selected by the operand that names the
texture; texel offsets are left out. -/
def sample (i : Instruction) : Lower Unit := do
  let (target, coordinate, texture, sampler) ← operands i do
    let target ← Operand.decode
    let coordinate ← Operand.decode
    let texture ← Operand.decode
    let sampler ← Operand.decode
    return (target, coordinate, texture, sampler)
  expectType texture .resource .sampledTexture
  expectDimension texture 1 .sampledTexture
  expectType sampler .sampler .usedSampler
  expectDimension sampler 1 .usedSampler
  let textureRegister ← plainIndex texture 0 .sampledTexture
  let samplerRegister ← plainIndex sampler 0 .usedSampler
  if i.sampleOffsets.any (· ≠ 0) then gap (.ignoredOffsets i.sampleOffsets)
  let mask ← targetMask target
  let coordinate ← load coordinate .xyzw .float32
  let v ← generate (Generate.sample textureRegister samplerRegister coordinate)
  let v ← select texture v mask
  storeResult i target v mask

end ShaderLowering.Lower
