/-!
# Binary floating-point numbers

An IEEE 754 interchange format is two widths: the bits of the fraction and the bits of the exponent.
`BinaryFormat.read` splits a bit pattern into its kind. A finite number is an integer mantissa times
a power of two, so that everything decimal about it can be decided in natural numbers.
-/

namespace ShaderLowering

/-- The widths of an IEEE 754 interchange format. -/
structure BinaryFormat where
  /-- Bits of the fraction, the hidden bit left out. -/
  fractionBits : Nat
  /-- Bits of the biased exponent. -/
  exponentBits : Nat

namespace BinaryFormat

/-- Single precision. -/
def binary32 : BinaryFormat := ⟨23, 8⟩

/-- Double precision. -/
def binary64 : BinaryFormat := ⟨52, 11⟩

end BinaryFormat

/-- What a bit pattern stands for. -/
inductive BinaryNumber where
  /-- Not a number; its sign and payload mean nothing here. -/
  | nan
  /-- An infinity. -/
  | infinite (negative : Bool)
  /-- A zero of either sign. -/
  | zero (negative : Bool)
  /-- `mantissa * 2 ^ exponent`, with a positive mantissa. `narrowBelow` tells that the mantissa is
  the least of its binade, so that the gap to the next smaller number is half the gap above. -/
  | finite (negative : Bool) (mantissa : Nat) (exponent : Int) (narrowBelow : Bool)

namespace BinaryFormat

/-- The least mantissa with the hidden bit. -/
def hiddenBit (f : BinaryFormat) : Nat := 1 <<< f.fractionBits

/-- The power of two that a subnormal mantissa is multiplied by. -/
def leastExponent (f : BinaryFormat) : Int :=
  2 - (1 <<< (f.exponentBits - 1) : Nat) - f.fractionBits

/-- The kind and value of a bit pattern. -/
def read (f : BinaryFormat) (bits : Nat) : BinaryNumber :=
  let fraction := bits % f.hiddenBit
  let biased := bits / f.hiddenBit % (1 <<< f.exponentBits)
  let negative := bits.testBit (f.fractionBits + f.exponentBits)
  if biased = (1 <<< f.exponentBits) - 1 then
    if fraction = 0 then .infinite negative else .nan
  else if biased = 0 then
    if fraction = 0 then .zero negative else .finite negative fraction f.leastExponent false
  else
    .finite negative (f.hiddenBit + fraction) (f.leastExponent + (biased - 1 : Nat)) (fraction = 0)

end BinaryFormat

end ShaderLowering
