import ShaderLowering.Token.Program

/-!
# Resource slots

A shader names the resources it uses by registers: constant buffers `cb#`, textures and buffers
`t#`, samplers `s#` and unordered-access views `u#`. Each register of each stage has a *slot*, a
number that no other register of any stage has: every stage owns a range of slots, and every class
of registers owns a part of that range. Slots are sparse; a `SlotMapping` makes them dense.
-/

namespace ShaderLowering

/-- A class of registers that name resources. -/
inductive ResourceClass where
  | constantBuffer | shaderResource | sampler | unorderedAccess
  deriving DecidableEq

namespace ResourceClass

/-- How many registers of the class a stage has. -/
def registers : ResourceClass → Nat
  | constantBuffer => 14
  | shaderResource => 128
  | sampler => 16
  | unorderedAccess => 8

/-- Where the class starts in the range of a stage. -/
def base : ResourceClass → Nat
  | constantBuffer => 0
  | shaderResource => 32
  | sampler => 160
  | unorderedAccess => 176

/-- What the names of the registers start with. -/
def letters : ResourceClass → String
  | constantBuffer => "cb"
  | shaderResource => "t"
  | sampler => "s"
  | unorderedAccess => "u"

end ResourceClass

/-- How many slots a stage has. -/
def slotsPerStage : Nat := 184

/-- The position of a stage among the ranges of slots. -/
def ShaderStage.index? : ShaderStage → Option Nat
  | .vertex => some 0
  | .pixel => some 1
  | .compute => some 2
  | .geometry => some 3
  | .hull => some 4
  | .domain => some 5
  | .unknown _ => none

/-- The slot of a register: `none` for a register that the class does not have, and for a stage that
is none. -/
def slotOf? (stage : ShaderStage) (kind : ResourceClass) (register : Word) : Option Word :=
  if kind.registers ≤ register.toNat then none
  else stage.index?.map fun index =>
    UInt32.ofNat (index * slotsPerStage + kind.base + register.toNat)

/-- The registers of a class stay inside the part of the range that the class owns, and classes do
not overlap. -/
theorem ResourceClass.eq_of_base_add {k l : ResourceClass} {r s : Nat} (hr : r < k.registers)
    (hs : s < l.registers) (h : k.base + r = l.base + s) : k = l ∧ r = s := by
  cases k <;> cases l <;> simp_all [base, registers] <;> omega

/-- Every class ends inside the range of its stage. -/
theorem ResourceClass.base_add_lt {k : ResourceClass} {r : Nat} (hr : r < k.registers) :
    k.base + r < slotsPerStage := by
  cases k <;> simp [base, registers, slotsPerStage] at hr ⊢ <;> omega

end ShaderLowering
