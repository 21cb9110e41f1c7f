import Relay.Wire.Tag

/-!
# Errors of the byte format
-/
namespace Relay

/-- Why bytes are not a frame, or why an envelope has no byte form. -/
inductive WireError where
  /-- The byte is no tag. -/
  | invalidTag (byte : UInt8)
  /-- A tag where it is not allowed. -/
  | unexpectedTag (tag : Tag)
  /-- The bytes ran out in the middle of an item. -/
  | unexpectedEnd
  /-- Bytes are left over after the envelope. -/
  | trailingBytes (count : Nat)
  /-- A text is not valid UTF-8. -/
  | invalidUtf8
  /-- A code point is not a character. -/
  | invalidChar (point : UInt32)
  /-- The byte of a truth value is neither zero nor one. -/
  | invalidBool (byte : UInt8)
  /-- A length does not fit into four bytes. -/
  | blobTooLarge (length : Nat)
  /-- Records nest too deep. -/
  | recursionLimitExceeded
  /-- The envelope carries live arguments, which have no byte form. -/
  | liveArguments
deriving DecidableEq, Repr

namespace WireError

/-- A number in lowercase hexadecimal, of at least `width` digits, after `0x`. -/
def hex (width n : Nat) : String :=
  let digits := Nat.toDigits 16 n
  "0x" ++ String.ofList (List.replicate (width - digits.length) '0' ++ digits)

def message : WireError → String
  | invalidTag b => "Invalid Tag byte: " ++ hex 2 b.toNat
  | unexpectedTag tag => "Unexpected tag " ++ tag.name
  | unexpectedEnd => "UnexpectedEnd"
  | trailingBytes n => toString n ++ " trailing bytes after envelope"
  | invalidUtf8 => "InvalidUtf8"
  | invalidChar point => "Invalid char code point: " ++ hex 1 point.toNat
  | invalidBool b => "Invalid bool byte: " ++ hex 2 b.toNat
  | blobTooLarge n => "BlobTooLarge(" ++ toString n ++ ")"
  | recursionLimitExceeded => "RecursionLimitExceeded"
  | liveArguments => "Envelope carries live arguments"

end WireError

end Relay
