import ShaderLowering.Decimal.Shortest

/-!
# Laying out decimal digits

How a number is written once its digits are known: which powers of ten are written positionally,
what stands in for a missing fraction, and how the special values read. A `DecimalLayout` holds
those choices, and `DecimalLayout.text` applies them to a bit pattern.
-/

namespace ShaderLowering

/-- The choices that turn digits into text. -/
structure DecimalLayout where
  /-- The least power of ten of a leading digit that is written positionally. -/
  positionalFrom : Int
  /-- The first power of ten of a leading digit that is written with an exponent again. -/
  positionalBelow : Int
  /-- What follows an integer that is written positionally. -/
  integerTail : String
  /-- What separates the digits from the power of ten. -/
  exponentMark : String
  /-- The text of a number that is none. -/
  nan : String
  /-- The text of positive infinity. -/
  infinity : String

namespace DecimalLayout

/-- The text of a list of digits. -/
def digitText (digits : List Nat) : String :=
  String.ofList (digits.map Nat.digitChar)

/-- Digits around a decimal point: the first digit stands for `10 ^ exponent`. -/
def positional (l : DecimalLayout) (d : DecimalDigits) : String :=
  if d.exponent < 0 then
    "0." ++ digitText (List.replicate ((-d.exponent).toNat - 1) 0 ++ d.digits)
  else
    let whole := d.exponent.toNat + 1
    let padded := d.digits ++ List.replicate (whole - d.digits.length) 0
    match d.digits.drop whole with
    | [] => digitText padded ++ l.integerTail
    | fraction => digitText (padded.take whole) ++ "." ++ digitText fraction

/-- One digit before the point, the others behind it, and the power of ten. -/
def scientific (l : DecimalLayout) (d : DecimalDigits) : String :=
  let fraction := match d.digits.drop 1 with
    | [] => ""
    | rest => "." ++ digitText rest
  digitText (d.digits.take 1) ++ fraction ++ l.exponentMark ++ toString d.exponent

/-- The text of a positive decimal number. -/
def magnitude (l : DecimalLayout) (d : DecimalDigits) : String :=
  if l.positionalFrom ≤ d.exponent ∧ d.exponent < l.positionalBelow then l.positional d
  else l.scientific d

/-- A sign in front of a text. -/
def signed (negative : Bool) (text : String) : String :=
  if negative then "-" ++ text else text

/-- The text of a bit pattern of format `f`. -/
def text (l : DecimalLayout) (f : BinaryFormat) (bits : Nat) : String :=
  match f.read bits with
  | .nan => l.nan
  | .infinite negative => signed negative l.infinity
  | .zero negative => signed negative ("0" ++ l.integerTail)
  | .finite negative mantissa exponent narrowBelow =>
    signed negative (l.magnitude (shortestDigits mantissa exponent narrowBelow))

end DecimalLayout

end ShaderLowering
