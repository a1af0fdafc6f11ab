import ShaderLowering.Lowering.Program
import ShaderLowering.Proofs.Semantics.Platform

/-!
# Registers

A token program works on registers of four components. It reads them and the elements of constant
buffers, and writes to the components of registers that its destinations name, and to no others.
-/

namespace ShaderLowering

/-! ## Registers -/

/-- A register that instructions can read. -/
inductive Register where
  | temp (number : Word)
  | interface (kind : InterfaceClass) (number : Word)
  deriving DecidableEq

/-- What the registers hold, component by component. -/
abbrev Registers := Register → Nat → Word

/-- A register with the masked components replaced. -/
def merged (mask : ComponentMask) (old new : Nat → Word) (i : Nat) : Word :=
  if mask.contains i then new i else old i

/-- What a store feeds to a masked component: four components are stored each from the same place,
and any other number of them one after the other. -/
def stored (mask : ComponentMask) (xs : List Word) (i : Nat) : Word :=
  xs.getD (if xs.length = 4 then i else mask.components.idxOf i) 0

/-- The registers behind a write to the masked components of one of them. -/
def Registers.write (R : Registers) (r : Register) (mask : ComponentMask) (value : Nat → Word) :
    Registers :=
  fun x => if x = r then merged mask (R r) value else R x

theorem Registers.write_self (R : Registers) (r : Register) (mask : ComponentMask)
    (value : Nat → Word) : R.write r mask value r = merged mask (R r) value := if_pos rfl

theorem Registers.write_of_ne (R : Registers) {r x : Register} (mask : ComponentMask)
    (value : Nat → Word) (h : x ≠ r) : R.write r mask value x = R x := if_neg h

/-- What a program runs with. -/
structure Environment (P : Platform) where
  /-- The stage that it runs in. -/
  stage : EntryStage
  /-- The elements of constant buffers, component by component. -/
  buffer : Word → Word → Nat → Word
  /-- The textures, with their dimensions. -/
  texture : Word → P.Texture
  dim : Word → ResourceDim
  sampler : Word → P.Sampler

/-- The level of detail that a stage samples at, where the neighbours of a pixel do not determine
it. -/
def EntryStage.level? : EntryStage → Option Word
  | pixel => none
  | vertex | compute => some 0

/-- How many components of a coordinate a texture takes, with the layer of an array. -/
def ResourceDim.components? (dim : ResourceDim) : Option Nat :=
  dim.coordinates?.map (· + if dim.isArray then 1 else 0)

/-- What can be read. -/
inductive Place where
  | register (r : Register)
  /-- An element of a constant buffer. -/
  | element (buffer index : Word)

/-- The components at a place. -/
def Place.read {P : Platform} (E : Environment P) (R : Registers) : Place → Nat → Word
  | register r => R r
  | element buffer index => E.buffer buffer index

/-! ## Operands -/

namespace Operand

/-- The register that an operand names. -/
def register? (o : Operand) : Option Register :=
  if o.dimension = 1 then
    match o.type, o.index32? 0 with
    | .temp, some n => some (.temp n)
    | .input, some n => some (.interface .input n)
    | .output, some n => some (.interface .output n)
    | _, _ => none
  else none

/-- The components that a destination operand names. -/
def writeMask (o : Operand) : ComponentMask :=
  match o.token.componentCount, o.selection? with
  | .one, _ => .single 0
  | .four, some (.mask m) => m
  | .four, some (.single c) => .single c
  | _, _ => .empty

end Operand

end ShaderLowering
