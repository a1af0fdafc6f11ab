import ShaderLowering.Decimal.Binary

/-!
# The fewest decimal digits that read back

The reals that round to a positive number `mantissa * 2 ^ exponent` form an interval around it,
which contains its ends exactly when the mantissa is even. A *grid* is the set of multiples of a
power of ten. Going from coarse grids to fine ones, the first grid that has a point in the interval
gives the fewest digits; of two such points the nearer one is taken, and of two equally near ones
the larger.

Only the two grid points around the number itself are tried: if any grid point lies in the interval,
then so does one of these two.
-/

namespace ShaderLowering

/-- A positive decimal number `digits[0].digits[1]digits[2]… * 10 ^ exponent`, whose first and last
digits are not zero. -/
structure DecimalDigits where
  /-- The digits, the most significant one first. -/
  digits : List Nat
  /-- The power of ten that the first digit stands for. -/
  exponent : Int

/-- The digits of a natural number, the most significant one first. -/
def decimalDigits (n : Nat) : List Nat :=
  if n < 10 then [n] else decimalDigits (n / 10) ++ [n % 10]

/-- The interval of reals that round to a number, measured in quarters of its last binary place. -/
structure RoundingInterval where
  /-- The lower end. -/
  low : Nat
  /-- The number itself. -/
  mid : Nat
  /-- The upper end. -/
  high : Nat
  /-- Whether the two ends round to the number as well. -/
  closed : Bool

namespace RoundingInterval

/-- The interval of a mantissa: half a place to either side, or a quarter below the least mantissa
of a binade. -/
def ofMantissa (mantissa : Nat) (narrowBelow : Bool) : RoundingInterval where
  low := 4 * mantissa - if narrowBelow then 1 else 2
  mid := 4 * mantissa
  high := 4 * mantissa + 2
  closed := mantissa % 2 = 0

/-- Whether `point * den` lies between the ends scaled by `num`. -/
def holds (i : RoundingInterval) (num den point : Nat) : Bool :=
  if i.closed then i.low * num ≤ point * den ∧ point * den ≤ i.high * num
  else i.low * num < point * den ∧ point * den < i.high * num

/-- The point of the grid with spacing `den / num` that stands for the number, if the interval has
one. -/
def gridPoint? (i : RoundingInterval) (num den : Nat) : Option Nat :=
  let below := i.mid * num / den
  let above := below + 1
  match i.holds num den below, i.holds num den above with
  | false, false => none
  | true, false => some below
  | false, true => some above
  | true, true =>
    if i.mid * num - below * den < above * den - i.mid * num then some below else some above

/-- The first grid from `10 ^ power` downwards with a point in the interval, tried `count` times;
`exponent` is the power of two of one quarter place. -/
def firstGrid (i : RoundingInterval) (exponent power : Int) : Nat → Option (Nat × Int)
  | 0 => none
  | count + 1 =>
    let num := 2 ^ exponent.toNat * 10 ^ (-power).toNat
    let den := 2 ^ (-exponent).toNat * 10 ^ power.toNat
    match i.gridPoint? num den with
    | some point => some (point, power)
    | none => firstGrid i exponent (power - 1) count

end RoundingInterval

/-- A grid point as digits, without the zeros at its end. -/
def DecimalDigits.ofGridPoint (point : Nat) (power : Int) : DecimalDigits :=
  let digits := decimalDigits point
  { digits := (digits.reverse.dropWhile (· = 0)).reverse
    exponent := power + (digits.length - 1 : Nat) }

/-- The fewest digits that read back as `mantissa * 2 ^ exponent`. The number is below
`10 ^ power` for the first power tried, and it is itself a point of the last grid tried. -/
def shortestDigits (mantissa : Nat) (exponent : Int) (narrowBelow : Bool) : DecimalDigits :=
  let power : Int := (mantissa.log2 + 1 + exponent).toNat
  let count := (power + exponent.natAbs + 3).toNat
  match (RoundingInterval.ofMantissa mantissa narrowBelow).firstGrid (exponent - 2) power count with
  | some (point, power) => .ofGridPoint point power
  | none => ⟨[0], 0⟩

end ShaderLowering
