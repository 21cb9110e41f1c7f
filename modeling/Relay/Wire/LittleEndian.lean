import Relay.Value.Payload

/-!
# Little-endian numbers

Numbers of a fixed number of bytes, the lowest byte first, and the byte form of each scalar kind.
-/
namespace Relay

namespace LittleEndian

/-- The lowest `width` bytes of a number, the lowest first. -/
def bytes : (width : Nat) → Nat → List UInt8
  | 0, _ => []
  | width + 1, n => n.toUInt8 :: bytes width (n / 256)

/-- The number that bytes spell, the lowest first. -/
def value : List UInt8 → Nat
  | [] => 0
  | b :: rest => b.toNat + 256 * value rest

theorem length_bytes (width n : Nat) : (bytes width n).length = width := by
  induction width generalizing n with
  | zero => rfl
  | succ width ih => simp [bytes, ih]

theorem value_bytes (width n : Nat) : value (bytes width n) = n % Nat.pow 256 width := by
  induction width generalizing n with
  | zero => exact (Nat.mod_one n).symm
  | succ width ih =>
    simp only [bytes, value, ih, UInt8.toNat_ofNat', Nat.toUInt8]
    change n % 256 + 256 * (n / 256 % Nat.pow 256 width) = n % (Nat.pow 256 width * 256)
    rw [Nat.mul_comm (Nat.pow 256 width) 256, Nat.mod_mul]

theorem bytes_value (bs : List UInt8) : bytes bs.length (value bs) = bs := by
  induction bs with
  | nil => rfl
  | cons b rest ih =>
    have hb := b.toNat_lt
    have hdiv : (b.toNat + 256 * value rest) / 256 = value rest := by omega
    have hlow : (b.toNat + 256 * value rest).toUInt8 = b := by
      apply UInt8.toNat.inj
      simp only [Nat.toUInt8, UInt8.toNat_ofNat']
      omega
    simp only [List.length_cons, bytes, value, hdiv, hlow, ih]

end LittleEndian

namespace ScalarKind

/-- The number of bytes of a scalar. -/
def width : ScalarKind → Nat
  | byte | bool => 1
  | short => 2
  | int | float | char => 4
  | long | double => 8

/-- The number whose bytes stand for a scalar. -/
def toWord : (kind : ScalarKind) → kind.Carrier → Nat
  | byte, v => v.toUInt8.toNat
  | short, v => v.toUInt16.toNat
  | int, v => v.toUInt32.toNat
  | long, v => v.toUInt64.toNat
  | float, v => v.bits.toNat
  | double, v => v.bits.toNat
  | char, v => v.toNat
  | bool, v => v.toNat

end ScalarKind

end Relay
