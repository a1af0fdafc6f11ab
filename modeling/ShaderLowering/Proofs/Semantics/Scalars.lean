import ShaderLowering.Generator.Value
import ShaderLowering.Proofs.Semantics.Execution

/-!
# Arithmetic by type

A component is a word of bits, and its type says which arithmetic is meant: that of the platform for
floating-point numbers, and that modulo `2 ^ 32` for integers.
-/

namespace ShaderLowering.ScalarType

open Spirv

variable (P : Platform)

/-- The sum. -/
def add : ScalarType → Word → Word → Word
  | float32 => P.add
  | uint32 | sint32 => (· + ·)

/-- The product. -/
def mul : ScalarType → Word → Word → Word
  | float32 => P.mul
  | uint32 | sint32 => (· * ·)

/-- The negation. -/
def neg : ScalarType → Word → Word
  | float32 => P.neg
  | uint32 | sint32 => (- ·)

/-- The absolute value; an unsigned integer has no sign. -/
def abs : ScalarType → Word → Word
  | float32 => P.abs
  | sint32 => State.magnitude
  | uint32 => id

end ShaderLowering.ScalarType
