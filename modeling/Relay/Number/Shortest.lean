import Relay.Number.Binary

/-!
# Shortest decimal text

A finite number is shown with the fewest decimal digits that read back as the same pattern, and
among those with the digits nearest to its exact value. The search is exact: the number and the two
ends of the interval of reals that round to it are fractions over one denominator, and for one,
two, three digits and so on the two neighbours of the number on that decimal grid are tested until
one of them lies in the interval. Of two hits the nearer wins, and of two equally near the larger.

Where the decimal point stands and when an exponent is written is a choice of the output and is
made in `NumberText`.
-/
namespace Relay

/-- What a pattern stands for, its sign apart. A finite number is `mantissa * 2 ^ scale`;
`narrow` marks those whose lower neighbour is only half as far away as the upper one. -/
inductive Magnitude where
  | nan
  | infinite
  | finite (mantissa : Nat) (scale : Int) (narrow : Bool)
deriving DecidableEq, Repr

namespace BinaryFormat

/-- The scale of the numbers whose exponent field is `1`, which the subnormal numbers share. -/
def leastScale (f : BinaryFormat) : Int :=
  1 - (Nat.pow 2 (f.exponentBits - 1) - 1 : Nat) - f.fractionBits

/-- Reads a pattern. -/
def magnitude (f : BinaryFormat) (bits : Nat) : Magnitude :=
  let fraction := f.fraction bits
  let exponent := f.exponent bits
  if exponent = Nat.pow 2 f.exponentBits - 1 then
    if fraction = 0 then .infinite else .nan
  else if exponent = 0 then
    .finite fraction f.leastScale false
  else
    .finite (Nat.pow 2 f.fractionBits + fraction) (f.leastScale + exponent - 1)
      (fraction = 0 && 1 < exponent)

end BinaryFormat

/-- The digits and the power of ten of a decimal number. -/
structure Decimal where
  digits : Nat
  power : Int
deriving DecidableEq, Repr

namespace Shortest

/-- A number and the ends of the interval of reals that round to it, over one denominator. -/
structure Interval where
  low : Nat
  value : Nat
  high : Nat
  denominator : Nat
  /-- The ends themselves belong to the interval. -/
  closed : Bool

/-- The interval of `mantissa * 2 ^ scale`, in quarters of the last place. -/
def interval (mantissa : Nat) (scale : Int) (narrow : Bool) : Interval :=
  let up := Nat.pow 2 (scale - 2).toNat
  { low := (4 * mantissa - if narrow then 1 else 2) * up
    value := 4 * mantissa * up
    high := (4 * mantissa + 2) * up
    denominator := Nat.pow 2 (2 - scale).toNat
    closed := mantissa % 2 = 0 }

/-- The least power of ten above a positive fraction, searched below `1` among the first `bound`. -/
def position (value denominator bound : Nat) : Int :=
  if denominator ≤ value then
    (Nat.toDigits 10 (value / denominator)).length
  else
    1 - (((List.range bound).find? fun j => denominator ≤ value * Nat.pow 10 j).getD bound : Nat)

def Interval.contains (i : Interval) (digits : Nat) (power : Int) : Bool :=
  let x := digits * Nat.pow 10 power.toNat * i.denominator
  let unit := Nat.pow 10 (-power).toNat
  if i.closed then i.low * unit ≤ x && x ≤ i.high * unit
  else i.low * unit < x && x < i.high * unit

/-- One digit less for a number that ends in zero. Only a number just below a power of ten is met
in this form, and then on the first grid. -/
def dropZero (digits : Nat) (power : Int) : Decimal :=
  if digits % 10 = 0 then ⟨digits / 10, power + 1⟩ else ⟨digits, power⟩

/-- The neighbour of the number on the grid of `10 ^ power` that reads back, if one does. -/
def onGrid (i : Interval) (power : Int) : Option Decimal :=
  let numerator := i.value * Nat.pow 10 (-power).toNat
  let unit := i.denominator * Nat.pow 10 power.toNat
  let below := numerator / unit
  let pastMiddle := unit ≤ 2 * (numerator % unit)
  match i.contains below power, i.contains (below + 1) power with
  | true, true => some (dropZero (if pastMiddle then below + 1 else below) power)
  | true, false => some (dropZero below power)
  | false, true => some (dropZero (below + 1) power)
  | false, false => none

/-- The first grid with a hit, counting digits up from `count`. -/
def search (i : Interval) (top : Int) : Nat → Nat → Decimal
  | 0, count =>
    ⟨i.value * Nat.pow 10 (count - top).toNat / (i.denominator * Nat.pow 10 (top - count).toNat),
      top - count⟩
  | more + 1, count => (onGrid i (top - count)).getD (search i top more (count + 1))

/-- Seventeen digits tell any two numbers of either format apart. -/
def digitsBound : Nat := 17

/-- The exponents of both formats stay above this power of ten. -/
def powersBound : Nat := 400

end Shortest

/-- The shortest decimal number that reads back as the positive number `mantissa * 2 ^ scale`. -/
def Decimal.shortest (mantissa : Nat) (scale : Int) (narrow : Bool) : Decimal :=
  let i := Shortest.interval mantissa scale narrow
  Shortest.search i (Shortest.position i.value i.denominator Shortest.powersBound)
    Shortest.digitsBound 1

end Relay
