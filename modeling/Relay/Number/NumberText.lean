import Relay.Number.Shortest

/-!
# Text of floating-point numbers

Numbers from `0.0001` up to but excluding `10^16` are written in positional notation with at least
one digit after the point; all others but zero take an exponent. Zero keeps its sign, infinity is
`inf` and a NaN, whatever its sign and payload, is `NaN`.
-/
namespace Relay

namespace Decimal

/-- Where the decimal point stands, counted from the left end of the digits. -/
def point (d : Decimal) : Int := (Nat.toDigits 10 d.digits).length + d.power

/-- Digits with the decimal point written out. -/
def positional (d : Decimal) : String :=
  let digits := Nat.toDigits 10 d.digits
  let point := d.point
  if point ≤ 0 then
    String.ofList ('0' :: '.' :: List.replicate (-point).toNat '0' ++ digits)
  else if digits.length ≤ point.toNat then
    String.ofList (digits ++ List.replicate (point.toNat - digits.length) '0' ++ ['.', '0'])
  else
    String.ofList (digits.take point.toNat ++ '.' :: digits.drop point.toNat)

/-- One digit before the point, no point when it is the only digit, and the power of ten. -/
def scientific (d : Decimal) : String :=
  let mantissa := match Nat.toDigits 10 d.digits with
    | first :: [] => [first]
    | first :: rest => first :: '.' :: rest
    | [] => []
  String.ofList mantissa ++ "e" ++ toString (d.point - 1)

end Decimal

def BinaryFormat.text (f : BinaryFormat) (bits : Nat) : String :=
  let sign := if f.negative bits then "-" else ""
  match f.magnitude bits with
  | .nan => "NaN"
  | .infinite => sign ++ "inf"
  | .finite 0 _ _ => sign ++ "0.0"
  | .finite mantissa scale narrow =>
    let d := Decimal.shortest mantissa scale narrow
    sign ++ if -3 ≤ d.point && d.point ≤ 16 then d.positional else d.scientific

def Binary32.text (x : Binary32) : String := BinaryFormat.single.text x.bits.toNat

def Binary64.text (x : Binary64) : String := BinaryFormat.double.text x.bits.toNat

end Relay
