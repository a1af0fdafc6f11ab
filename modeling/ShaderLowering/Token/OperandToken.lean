import ShaderLowering.Token.Component
import ShaderLowering.Token.OpcodeToken

/-!
# Operand tokens

The first word of an operand holds, from bit 0 upwards, the component count (2 bits), the selection
mode (2 bits), the selected components (8 bits), the operand type (8 bits), the number of indices
(2 bits) and the representation of each of up to three indices (3 bits each). Bit 31 announces
extended tokens, which carry source modifiers.
-/

namespace ShaderLowering

/-- The first word of an operand. -/
structure OperandToken where
  /-- The whole word. -/
  word : Word
  deriving DecidableEq

namespace OperandToken

/-- How many components the operand has. -/
def componentCount (t : OperandToken) : ComponentCount := .ofBits (t.word.field 0 2)

/-- How the operand names components. -/
def selectionMode (t : OperandToken) : SelectionMode := .ofBits (t.word.field 2 2)

/-- The components read as a mask. -/
def mask (t : OperandToken) : ComponentMask := .ofBits (t.word.field 4 4)

/-- The components read as a swizzle. -/
def swizzle (t : OperandToken) : Swizzle := .ofPacked (t.word.field 4 8)

/-- The components read as a single one. -/
def single (t : OperandToken) : Nat := t.word.field 4 2

/-- The number of the operand type. -/
def typeRaw (t : OperandToken) : Nat := t.word.field 12 8

/-- How many indices the operand has. -/
def dimension (t : OperandToken) : Nat := t.word.field 20 2

/-- The number of the representation of an index. -/
def representationRaw (t : OperandToken) (index : Nat) : Nat := t.word.field (22 + 3 * index) 3

/-- The components that the operand names: `none` unless it has four components and a selection mode
with a meaning. -/
def selection? (t : OperandToken) : Option ComponentSelection :=
  match t.componentCount, t.selectionMode with
  | .four, .mask => some (.mask t.mask)
  | .four, .swizzle => some (.swizzle t.swizzle)
  | .four, .single => some (.single t.single)
  | _, _ => none

/-- The representation numbers of the indices, in their order. -/
def representations (t : OperandToken) : List Nat :=
  (List.range t.dimension).map t.representationRaw

/-- How many immediate words an operand of a type holds: one or two for each of one or four
components. -/
def immediateCount (t : OperandToken) (type : OperandType) : Nat :=
  let perComponent := match type with
    | .imm32 => 1
    | .imm64 => 2
    | _ => 0
  match t.componentCount with
  | .one => perComponent
  | .four => 4 * perComponent
  | _ => 0

end OperandToken

/-! ## Extended operand tokens -/

/-- What an extended operand token holds. -/
inductive OperandExtKind where
  | empty | modifier
  deriving DecidableEq

namespace OperandExtKind

/-- The number of a kind. -/
def raw : OperandExtKind → Nat
  | .empty => 0 | .modifier => 1

/-- The name of a kind. -/
def label : OperandExtKind → String
  | .empty => "empty" | .modifier => "modifier"

/-- Every kind, in the order of the numbers. -/
def all : List OperandExtKind :=
  [.empty, .modifier]

instance : Numbered OperandExtKind where
  what := "extended operand type"
  all := all
  raw := raw
  label := label

end OperandExtKind

/-- What is done to the value of a source operand: first `abs`, then `neg`. -/
structure OperandModifiers where
  /-- The value is negated. -/
  neg : Bool
  /-- The absolute value is taken. -/
  abs : Bool
  deriving DecidableEq

namespace OperandModifiers

/-- The value is taken as it is. -/
def none : OperandModifiers := ⟨false, false⟩

/-- The modifiers in the low two bits of a number. -/
def ofBits (n : Nat) : OperandModifiers := ⟨n.testBit 0, n.testBit 1⟩

/-- The number whose low two bits are the modifiers. -/
def bits (m : OperandModifiers) : Nat :=
  (if m.neg then 1 else 0) + (if m.abs then 2 else 0)

/-- Whether the value is taken as it is. -/
def isNone (m : OperandModifiers) : Bool := m == none

end OperandModifiers

/-- A word that extends an operand token. -/
structure OperandExt where
  /-- The whole word. -/
  word : Word
  deriving DecidableEq

namespace OperandExt

/-- The number of the kind. -/
def kindRaw (e : OperandExt) : Nat := e.word.field 0 6

/-- The kind, if one has the number. -/
def kind? (e : OperandExt) : Option OperandExtKind := Numbered.ofRaw? e.kindRaw

/-- The modifiers of a modifier token; the bits above them mean nothing. -/
def modifiers (e : OperandExt) : OperandModifiers := .ofBits (e.word.field 6 8)

end OperandExt

end ShaderLowering
