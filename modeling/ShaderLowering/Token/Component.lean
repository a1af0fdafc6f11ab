/-!
# Components

A register has four components, `x`, `y`, `z` and `w`, numbered from 0. An operand names some of
them in one of three ways: a *mask* is a set of components, a *swizzle* gives every component the
component that feeds it, and a *select-1* picks a single one. Registers of another width name none.
-/

namespace ShaderLowering

/-- The names of the components, by number. -/
def componentNames : List Char := ['x', 'y', 'z', 'w']

/-- The name of a component. -/
def componentText (index : Nat) : String :=
  String.ofList (componentNames[index]?).toList

/-! ## Masks -/

/-- A set of components. -/
structure ComponentMask where
  /-- Component 0. -/
  x : Bool
  /-- Component 1. -/
  y : Bool
  /-- Component 2. -/
  z : Bool
  /-- Component 3. -/
  w : Bool
  deriving DecidableEq

namespace ComponentMask

/-- No component. -/
def empty : ComponentMask := ⟨false, false, false, false⟩

/-- All four components. -/
def xyzw : ComponentMask := ⟨true, true, true, true⟩

instance : Inhabited ComponentMask := ⟨empty⟩

/-- The components whose numbers satisfy a test. -/
def ofTest (test : Nat → Bool) : ComponentMask := ⟨test 0, test 1, test 2, test 3⟩

/-- The mask in the low four bits of a number. -/
def ofBits (n : Nat) : ComponentMask := ofTest n.testBit

/-- The first `n` components. -/
def firstN (n : Nat) : ComponentMask := ofTest (· < n)

/-- One component, the number taken modulo four. -/
def single (index : Nat) : ComponentMask := ofTest (· == index % 4)

/-- Whether a component is in the mask; nothing from 4 upwards is. -/
def contains (m : ComponentMask) : Nat → Bool
  | 0 => m.x
  | 1 => m.y
  | 2 => m.z
  | 3 => m.w
  | _ => false

/-- The components of the mask in ascending order. -/
def components (m : ComponentMask) : List Nat :=
  [0, 1, 2, 3].filter m.contains

/-- The number whose low four bits are the mask. -/
def bits (m : ComponentMask) : Nat :=
  m.x.toNat + 2 * m.y.toNat + 4 * m.z.toNat + 8 * m.w.toNat

/-- How many components the mask has. -/
def count (m : ComponentMask) : Nat := m.components.length

/-- Whether the mask has no component. -/
def isEmpty (m : ComponentMask) : Bool := m.components.isEmpty

/-- The lowest component. -/
def first? (m : ComponentMask) : Option Nat := m.components.head?

/-- The names of the components in ascending order. -/
def text (m : ComponentMask) : String :=
  String.join (m.components.map componentText)

/-- The bits of a mask give the mask back. -/
theorem ofBits_bits (m : ComponentMask) : ofBits m.bits = m := by
  cases m with
  | mk x y z w => cases x <;> cases y <;> cases z <;> cases w <;> decide

/-- A component is listed exactly when the mask contains it. -/
theorem mem_components {m : ComponentMask} {i : Nat} : i ∈ m.components ↔ m.contains i := by
  match i with
  | 0 | 1 | 2 | 3 => simp [components]
  | n + 4 => simp [components, contains]

end ComponentMask

/-! ## Swizzles -/

/-- For each of the four components, the number of the component that feeds it. -/
structure Swizzle where
  /-- What feeds component 0. -/
  x : Nat
  /-- What feeds component 1. -/
  y : Nat
  /-- What feeds component 2. -/
  z : Nat
  /-- What feeds component 3. -/
  w : Nat
  deriving DecidableEq

namespace Swizzle

/-- Every component feeds itself. -/
def xyzw : Swizzle := ⟨0, 1, 2, 3⟩

instance : Inhabited Swizzle := ⟨xyzw⟩

/-- The swizzle packed into two bits per component. -/
def ofPacked (n : Nat) : Swizzle := ⟨n % 4, n / 4 % 4, n / 16 % 4, n / 64 % 4⟩

/-- Two bits per component; a number from 4 upwards is taken modulo four. -/
def packed (s : Swizzle) : Nat :=
  s.x % 4 + 4 * (s.y % 4) + 16 * (s.z % 4) + 64 * (s.w % 4)

/-- What feeds a component, whose number is taken modulo four. -/
def get (s : Swizzle) (index : Nat) : Nat :=
  match index % 4 with
  | 0 => s.x
  | 1 => s.y
  | 2 => s.z
  | _ => s.w

/-- What feeds the components, in their order. -/
def lanes (s : Swizzle) : List Nat := [s.x, s.y, s.z, s.w]

/-- Whether every component feeds itself. -/
def isIdentity (s : Swizzle) : Bool := s == xyzw

/-- The names of the feeding components. -/
def text (s : Swizzle) : String :=
  String.join (s.lanes.map componentText)

end Swizzle

/-! ## Selections -/

/-- How many components an operand has. -/
inductive ComponentCount where
  | zero
  | one
  | four
  /-- Any other number; no program uses it. -/
  | other
  deriving DecidableEq

namespace ComponentCount

/-- The count in a two-bit field. -/
def ofBits (n : Nat) : ComponentCount :=
  match n % 4 with
  | 0 => .zero
  | 1 => .one
  | 2 => .four
  | _ => .other

/-- The number of components where it is fixed. -/
def number? : ComponentCount → Option Nat
  | .zero => some 0
  | .one => some 1
  | .four => some 4
  | .other => none

end ComponentCount

/-- How an operand with four components names some of them. -/
inductive SelectionMode where
  | mask
  | swizzle
  | single
  /-- The token format gives this value no meaning. -/
  | reserved
  deriving DecidableEq

namespace SelectionMode

/-- The mode in a two-bit field. -/
def ofBits (n : Nat) : SelectionMode :=
  match n % 4 with
  | 0 => .mask
  | 1 => .swizzle
  | 2 => .single
  | _ => .reserved

end SelectionMode

/-- The components that an operand with four components names. -/
inductive ComponentSelection where
  | mask (m : ComponentMask)
  | swizzle (s : Swizzle)
  | single (component : Nat)
  deriving DecidableEq

end ShaderLowering
