import ShaderLowering.Proofs.Semantics.Registers
import ShaderLowering.Proofs.Semantics.Scalars
import ShaderLowering.Proofs.Token.WholeOperands

/-!
# What source operands show

A source operand of any shape shows components one after the other: a swizzle says of each where it
comes from, a single component is shown everywhere, and a mask shows the components that it names in
their order, or everywhere the one if there is only one. So a mask of several components shows as
many as it has, whoever looks, and everything else as many as are asked for (`Operand.places`).

Nothing is asked of an operand. The elements of constant buffers can be numbered by other operands,
so reading an operand can read others first, as deep as they are nested; a register that numbers an
element can have modifiers, which then work on an integer, and a number can have 64 bits.
-/

namespace ShaderLowering

variable {P : Platform}

/-- The modifiers of an operand at work on a component of a type: the absolute value is taken before
the negation. -/
def OperandModifiers.apply (P : Platform) (scalar : ScalarType) (m : OperandModifiers)
    (w : Word) : Word :=
  let magnitude := if m.abs then scalar.abs P w else w
  if m.neg then scalar.neg P magnitude else magnitude

/-- A single component as often as it is asked for; any others as they are. -/
def spread {α : Type} (n : Nat) : List α → List α
  | [x] => List.replicate n x
  | xs => xs

theorem spread_of_length {α : Type} {n : Nat} {xs : List α} (h : xs.length = 1 → n = 1) :
    spread n xs = xs := by
  match xs with
  | [] | _ :: _ :: _ => rfl
  | [x] => rw [spread, h rfl, List.replicate_one]

namespace Operand

/-! ## Components and places -/

/-- The component of an immediate operand that is shown in a place. -/
def immediateLane (o : Operand) (i : Nat) : Nat :=
  match o.token.componentCount with
  | .four => i
  | _ => 0

/-- The component of a register or element that is shown in a place. -/
def lane (o : Operand) (i : Nat) : Nat :=
  match o.selection? with
  | some (.swizzle s) => s.get i
  | some (.single c) => c
  | some (.mask own) => own.components.getD (if own.count = 1 then 0 else i) 0
  | none => 0

/-- The component that is shown in a place. -/
def shownLane (o : Operand) (i : Nat) : Nat :=
  if o.type = .imm32 then o.immediateLane i else o.lane i

/-- How many components are shown whatever is asked for. -/
def ownWidth? (o : Operand) : Option Nat :=
  if o.type = .imm32 then none
  else
    match o.selection? with
    | some (.mask own) => if own.count = 1 then none else some own.count
    | _ => none

/-- The places in which components are shown if those of a mask are asked for. -/
def places (o : Operand) (mask : ComponentMask) : List Nat :=
  match o.ownWidth? with
  | some n => List.range n
  | none => mask.components

/-- The components that are picked before a single one is repeated. -/
def chosen (o : Operand) (mask : ComponentMask) : List Nat :=
  if o.type = .imm32 then
    match o.token.componentCount with
    | .one => [0]
    | .four => mask.components
    | _ => []
  else
    match o.token.componentCount, o.selection? with
    | .one, _ => [0]
    | .four, some (.swizzle s) => mask.components.map s.get
    | .four, some (.single c) => [c]
    | .four, some (.mask own) => own.components
    | _, _ => []

section

variable {o : Operand} {mask : ComponentMask} (f : Nat → Word)

/-- A single component is shown in all places. -/
theorem spread_single {lane : Nat → Nat} {c : Nat} (h : ∀ i, lane i = c) :
    spread mask.count ([c].map f) = mask.components.map fun i => f (lane i) := by
  simp only [h, List.map_const', List.map_cons, List.map_nil, spread]
  rfl

/-- As many components as places are shown one after the other. -/
theorem spread_lanes (lane : Nat → Nat) :
    spread mask.count ((mask.components.map lane).map f) =
      mask.components.map fun i => f (lane i) := by
  rw [List.map_map]
  exact spread_of_length fun h => (List.length_map _).symm.trans h

/-- The components of a mask are shown one after the other, if there are several. -/
theorem spread_components {own : ComponentMask} (h : own.count ≠ 1) (n : Nat) :
    spread n (own.components.map f) =
      (List.range own.count).map fun i => f (own.components.getD i 0) := by
  rw [spread_of_length fun hone => absurd ((List.length_map _).symm.trans hone) h]
  refine List.ext_getElem (by rw [List.length_map, List.length_map, List.length_range]; rfl)
    fun i hi _ => ?_
  rw [List.length_map] at hi
  rw [List.getElem_map, List.getElem_map, List.getElem_range, List.getD_eq_getElem?_getD,
    List.getElem?_eq_getElem hi, Option.getD_some]

/-- What is picked is, repeated where there is only one component, what the places show. -/
theorem spread_chosen (hne : o.chosen mask ≠ []) :
    spread mask.count ((o.chosen mask).map f) = (o.places mask).map fun i => f (o.shownLane i) := by
  simp only [chosen, places, ownWidth?, shownLane, lane] at hne ⊢
  split at hne
  · next himm =>
    simp only [if_pos himm]
    split at hne
    · next hc => exact spread_single f fun i => by rw [immediateLane, hc]
    · next hc =>
      have hlane (i : Nat) : o.immediateLane i = i := by rw [immediateLane, hc]
      simp only [hlane]
      exact spread_of_length fun h => (List.length_map _).symm.trans h
    · exact absurd rfl hne
  · next himm =>
    simp only [if_neg himm]
    split at hne
    · next hc =>
      have hnone : o.selection? = none := by rw [selection?, OperandToken.selection?, hc]
      simp only [hnone]
      exact spread_single f fun _ => rfl
    · next s hc hs =>
      simp only [hs]
      exact spread_lanes f s.get
    · next c hc hs =>
      simp only [hs]
      exact spread_single f fun _ => rfl
    · next own hc hs =>
      simp only [hs]
      by_cases hone : own.count = 1
      · obtain ⟨c, hown⟩ := List.length_eq_one_iff.1 hone
        simp only [if_pos hone, hown]
        exact spread_single f fun _ => rfl
      · simp only [if_neg hone]
        exact spread_components f hone mask.count
    · exact absurd rfl hne

end

/-! ## Values -/

/-- The place that an operand names, given the numbers that its indices stand for. -/
def place? (o : Operand) (numbers : List Word) : Option Place :=
  if o.type = .constantBuffer then
    if o.dimension = 2 then (o.index32? 0).map fun buffer => .element buffer (numbers.getD 1 0)
    else none
  else o.register?.map .register

mutual

/-- A component of the register or element that a source operand names, after its modifiers, or one
of its numbers as it is. -/
def laneValue (E : Environment P) (R : Registers) (scalar : ScalarType) : Operand → Nat → Word
  | ⟨position, token, type, extensions, indices, immediates⟩, lane =>
    let o : Operand := ⟨position, token, type, extensions, indices, immediates⟩
    if type = .imm32 then immediates.getD lane 0
    else o.modifiers.apply P scalar
      (((o.place? (elementNumbers E R indices)).map fun place => place.read E R lane).getD 0)

/-- The numbers that indices stand for. -/
def elementNumbers (E : Environment P) (R : Registers) : List (IndexOf Operand) → List Word
  | [] => []
  | index :: indices => elementNumber E R index :: elementNumbers E R indices

/-- The number that an index stands for: what it says, what its register shows first, or their sum.
Of a number, the lower 32 bits are used. -/
def elementNumber (E : Environment P) (R : Registers) : IndexOf Operand → Word
  | .imm32 v => v
  | .imm64 _ low => low
  | .relative r => laneValue E R .uint32 r (r.shownLane 0)
  | .imm32Relative v r => laneValue E R .uint32 r (r.shownLane 0) + v
  | .imm64Relative _ low r => laneValue E R .uint32 r (r.shownLane 0) + low

end

/-- The component that a source operand shows in a place. -/
def component (E : Environment P) (R : Registers) (scalar : ScalarType) (o : Operand)
    (i : Nat) : Word := o.laneValue E R scalar (o.shownLane i)

/-- The floating-point number that a source operand shows in a place. -/
def read (E : Environment P) (R : Registers) (o : Operand) (i : Nat) : Word :=
  o.component E R .float32 i

theorem laneValue_eq (E : Environment P) (R : Registers) (scalar : ScalarType) (o : Operand)
    (lane : Nat) :
    o.laneValue E R scalar lane =
      if o.type = .imm32 then o.immediates.getD lane 0
      else o.modifiers.apply P scalar
        (((o.place? (elementNumbers E R o.indices)).map fun place => place.read E R lane).getD
          0) := by
  cases o
  rw [laneValue]

theorem elementNumbers_eq (E : Environment P) (R : Registers) (indices : List (IndexOf Operand)) :
    elementNumbers E R indices = indices.map (elementNumber E R) := by
  induction indices with
  | nil => rw [elementNumbers, List.map_nil]
  | cons index indices ih => rw [elementNumbers, ih, List.map_cons]

/-- An immediate operand shows its numbers. -/
theorem component_of_imm32 (E : Environment P) (R : Registers) {o : Operand}
    (htype : o.type = .imm32) (scalar : ScalarType) (i : Nat) :
    o.component E R scalar i = o.immediates.getD (o.immediateLane i) 0 := by
  rw [component, laneValue_eq, if_pos htype, shownLane, if_pos htype]

/-- Any other operand shows what it selects of the place that it names, after its modifiers. -/
theorem component_of_place (E : Environment P) (R : Registers) {o : Operand}
    (htype : o.type ≠ .imm32) {place : Place}
    (hplace : o.place? (elementNumbers E R o.indices) = some place) (scalar : ScalarType)
    (i : Nat) :
    o.component E R scalar i = o.modifiers.apply P scalar (place.read E R (o.lane i)) := by
  rw [component, laneValue_eq, if_neg htype, hplace, shownLane, if_neg htype]
  rfl

end Operand

end ShaderLowering
