import Relay.Interface.TypeDesc
import Relay.Value.Slot

/-!
# Types of arguments

An interface declares the types of its parameters. The types that the library brings along are
fixed; the ones a user declares are given by a `Universe`, which names them, says what their values
are and in which protocols they take part. A code for a type (`ArgType`) can be compared, and every
code has its values and, when they can cross a process boundary, its slot.
-/
namespace Relay

/-- The declared types that interfaces may mention. -/
structure Universe where
  /-- Codes of the declared types. -/
  Name : Type
  nameEq : DecidableEq Name
  /-- The values of a declared type. -/
  Val : Name → Type
  /-- How a type describes itself. -/
  desc : Name → TypeDesc
  /-- How values flatten into a bundle, for the types that are records. -/
  record? : (n : Name) → Option (Recordable (Val n))
  /-- The byte form of values, for the types that have one. -/
  serial? : (n : Name) → Option (Serializable (Val n))

instance (U : Universe) : DecidableEq U.Name := U.nameEq

/-- Codes of parameter types over a set of declared types. -/
inductive ArgType (N : Type) where
  | scalar (kind : ScalarKind)
  | text
  | charSeq
  | handle
  | size
  | sizeF
  | array (elem : ArgType N)
  | list (elem : ArgType N)
  | sparse (elem : ArgType N)
  | declared (name : N)
deriving DecidableEq

namespace ArgType

variable (U : Universe)

@[reducible] def Val : ArgType U.Name → Type
  | scalar kind => kind.Carrier
  | text => String
  | charSeq => CharSeq
  | handle => Handle
  | size => Size
  | sizeF => SizeF
  | array elem => List (Val elem)
  | list elem => List (Val elem)
  | sparse elem => SparseMap (Val elem)
  | declared name => U.Val name

def desc : ArgType U.Name → TypeDesc
  | scalar kind => .scalar kind
  | text => .text
  | charSeq => .charSeq
  | handle => .handle
  | size => .size
  | sizeF => .sizeF
  | array elem => .array (desc elem)
  | list elem => .list [desc elem]
  | sparse elem => .sparseMap [desc elem]
  | declared name => U.desc name

/-- The slot that keeps values of a type in a bundle; nothing for a type whose values cannot cross a
process boundary. A type that takes part in both protocols is kept as a record. -/
def slot? : (t : ArgType U.Name) → Option (Slot (Val U t))
  | scalar kind => some (.scalar kind)
  | text => some .text
  | charSeq => some .charSeq
  | handle => some .handle
  | size => some .size
  | sizeF => some .sizeF
  | array (scalar kind) => some (.scalarArray kind)
  | array text => some .textArray
  | array charSeq => some .charSeqArray
  | array (declared name) => (U.record? name).map fun inst => @Slot.recordArray _ inst
  | list (scalar .int) => some .intList
  | list text => some .textList
  | list charSeq => some .charSeqList
  | list (declared name) => (U.record? name).map fun inst => @Slot.recordList _ inst
  | sparse (declared name) => (U.record? name).map fun inst => @Slot.sparseRecords _ inst
  | declared name =>
    match U.record? name with
    | some inst => some (@Slot.record _ inst)
    | none => (U.serial? name).map fun inst => @Slot.serializable _ inst
  | _ => none

end ArgType

/-- Values of a list of types, one of each. -/
@[reducible] def Tuple (U : Universe) : List (ArgType U.Name) → Type
  | [] => Unit
  | t :: rest => ArgType.Val U t × Tuple U rest

end Relay
