import ShaderLowering.Proofs.Semantics.Sources

/-!
# Running token programs

An instruction computes with floating-point numbers from the components that its source operands
show, one by one, and its result replaces the components that the destination names. Instructions
that compute nothing leave the registers as they are.
-/

namespace ShaderLowering

namespace Instruction

variable {P : Platform}

/-- The operands of an instruction, the destination first. -/
def operandList (i : Instruction) : List Operand := i.cursor.operands.operands

/-- What an instruction computes for the components of its destination. -/
def compute? (E : Environment P) (R : Registers) (i : Instruction) : Option (Nat → Word) :=
  let product (n : Nat) (a b : Operand) : Word :=
    P.dot ((List.range n).map (a.read E R)) ((List.range n).map (b.read E R))
  match i.opcode, i.operandList with
  | .mov, _ :: a :: _ => some (a.read E R)
  | .rsq, _ :: a :: _ => some fun i => P.inverseSqrt (a.read E R i)
  | .add, _ :: a :: b :: _ => some fun i => P.add (a.read E R i) (b.read E R i)
  | .mul, _ :: a :: b :: _ => some fun i => P.mul (a.read E R i) (b.read E R i)
  | .mad, _ :: a :: b :: c :: _ =>
    some fun i => P.add (P.mul (a.read E R i) (b.read E R i)) (c.read E R i)
  | .dp2, _ :: a :: b :: _ => some fun _ => product 2 a b
  | .dp3, _ :: a :: b :: _ => some fun _ => product 3 a b
  | .dp4, _ :: a :: b :: _ => some fun _ => product 4 a b
  | .sample, _ :: coordinate :: texture :: sampler :: _ => do
    let t ← texture.index32? 0
    let s ← sampler.index32? 0
    let count ← (E.dim t).components?
    let texel := P.sample (E.texture t) (E.sampler s) E.stage.level?
      ((List.range count).map (coordinate.read E R))
    return fun i => texel (texture.lane i)
  | _, _ => none

/-- The clamping of results to the unit interval, where an instruction asks for it. -/
def clamp (P : Platform) (i : Instruction) (w : Word) : Word :=
  if i.control.saturate then P.clamp w 0 0x3f800000 else w

/-- The registers behind an instruction. -/
def step (E : Environment P) (R : Registers) (i : Instruction) : Registers :=
  match i.operandList.head?.bind Operand.register?, i.operandList.head?.map Operand.writeMask,
    i.compute? E R with
  | some r, some mask, some value => R.write r mask fun n => i.clamp P (value n)
  | _, _, _ => R

end Instruction

/-- The registers where the instructions of a program return, or behind the last one. -/
def runRegisters {P : Platform} (E : Environment P) : Registers → List Instruction → Registers
  | R, [] => R
  | R, i :: instructions =>
    if i.opcode = .ret then R else runRegisters E (i.step E R) instructions

end ShaderLowering
