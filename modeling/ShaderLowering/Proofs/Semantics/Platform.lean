import ShaderLowering.Word

/-!
# Platforms

A lowered shader computes with the floating-point units and the textures of the platform that it runs
on, and so does the token program that it was made from. What these units compute is no matter of the
lowering, as long as both run on the same ones: a `Platform` is any choice of them. Words are bits, so
each operation is one on bits.
-/

namespace ShaderLowering

/-- The operations that shaders leave to where they run. -/
structure Platform where
  /-- What can be bound to a texture register. -/
  Texture : Type
  /-- What can be bound to a sampler register. -/
  Sampler : Type
  /-- The sum of two floating-point numbers. -/
  add : Word → Word → Word
  /-- The product of two floating-point numbers. -/
  mul : Word → Word → Word
  /-- A floating-point number with the other sign. -/
  neg : Word → Word
  /-- A floating-point number without its sign. -/
  abs : Word → Word
  /-- One over the square root of a floating-point number. -/
  inverseSqrt : Word → Word
  /-- A floating-point number, or the lower or upper bound if it lies outside of them. -/
  clamp : Word → Word → Word → Word
  /-- The dot product of two vectors. -/
  dot : List Word → List Word → Word
  /-- The components of a texture at coordinates, at a level of detail or, where there is none, at one
  that the neighbours of a pixel determine. -/
  sample : Texture → Sampler → Option Word → List Word → Nat → Word

/-- The four components of a register, one after the other. -/
def fourLanes (component : Nat → Word) : List Word := (List.range 4).map component

@[simp] theorem length_fourLanes (component : Nat → Word) : (fourLanes component).length = 4 := rfl

theorem getD_fourLanes (component : Nat → Word) {n : Nat} (h : n < 4) :
    (fourLanes component).getD n 0 = component n := by
  match n, h with
  | 0, _ | 1, _ | 2, _ | 3, _ => rfl

end ShaderLowering
