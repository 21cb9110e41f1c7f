/-!
# Binary floating-point patterns

A floating-point number is kept as its interchange pattern. Nothing here computes with the value: a
number is carried, compared and shown, and carrying it must keep every bit, the payload of a NaN
and the sign of a zero included. So equality of patterns is `=`, and the numerical comparison, for
which a NaN equals nothing and the two zeros are equal, is a function of its own (`sameValue`).
-/
namespace Relay

/-- The widths of the two varying fields of an interchange format. -/
structure BinaryFormat where
  fractionBits : Nat
  exponentBits : Nat
deriving DecidableEq, Repr

namespace BinaryFormat

def single : BinaryFormat := ⟨23, 8⟩

def double : BinaryFormat := ⟨52, 11⟩

variable (f : BinaryFormat)

/-- The fraction field of a pattern. -/
def fraction (bits : Nat) : Nat := bits % Nat.pow 2 f.fractionBits

/-- The exponent field of a pattern. -/
def exponent (bits : Nat) : Nat := bits / Nat.pow 2 f.fractionBits % Nat.pow 2 f.exponentBits

/-- Whether the sign field of a pattern is set. -/
def negative (bits : Nat) : Bool :=
  bits / Nat.pow 2 (f.fractionBits + f.exponentBits) % 2 == 1

/-- A pattern is a NaN when its exponent field is all ones and its fraction is not zero. -/
def isNaN (bits : Nat) : Bool :=
  f.exponent bits == Nat.pow 2 f.exponentBits - 1 && f.fraction bits != 0

/-- A pattern is a zero, of either sign, when both fields are zero. -/
def isZero (bits : Nat) : Bool := f.exponent bits == 0 && f.fraction bits == 0

/-- Numerical equality: false for a NaN, true for two zeros, otherwise equality of patterns. -/
def sameValue (x y : Nat) : Bool :=
  !f.isNaN x && !f.isNaN y && (x == y || (f.isZero x && f.isZero y))

/-- A pattern equals itself numerically exactly when it is not a NaN. -/
theorem sameValue_self (x : Nat) : f.sameValue x x = !f.isNaN x := by
  simp [sameValue]

end BinaryFormat

/-- A single-precision number, as its pattern. -/
structure Binary32 where
  bits : UInt32
deriving DecidableEq, Repr

/-- A double-precision number, as its pattern. -/
structure Binary64 where
  bits : UInt64
deriving DecidableEq, Repr

namespace Binary32

def isNaN (x : Binary32) : Bool := BinaryFormat.single.isNaN x.bits.toNat

/-- Numerical equality. -/
def sameValue (x y : Binary32) : Bool := BinaryFormat.single.sameValue x.bits.toNat y.bits.toNat

theorem sameValue_self (x : Binary32) : x.sameValue x = !x.isNaN :=
  BinaryFormat.single.sameValue_self _

end Binary32

namespace Binary64

def isNaN (x : Binary64) : Bool := BinaryFormat.double.isNaN x.bits.toNat

/-- Numerical equality. -/
def sameValue (x y : Binary64) : Bool := BinaryFormat.double.sameValue x.bits.toNat y.bits.toNat

theorem sameValue_self (x : Binary64) : x.sameValue x = !x.isNaN :=
  BinaryFormat.double.sameValue_self _

end Binary64

end Relay
