import Relay.Interface.TypeDesc

/-!
# Known types

The names for which a declaration vouches. A type that is not built in can be carried only when its
name is listed, either among the records or among the types with a byte form of their own.
-/
namespace Relay

/-- The listed names. A name is a single word, as it is written at the end of a path. -/
structure KnownTypes where
  records : List String
  serializables : List String
deriving DecidableEq, Repr

namespace KnownTypes

def none : KnownTypes := ⟨[], []⟩

/-- One more name among the records. -/
def record (known : KnownTypes) (name : String) : KnownTypes :=
  { known with records := known.records ++ [name] }

/-- One more name among the types with a byte form of their own. -/
def serializable (known : KnownTypes) (name : String) : KnownTypes :=
  { known with serializables := known.serializables ++ [name] }

/-- What the lists say about a name. -/
def conformance (known : KnownTypes) (name : String) : Conformance :=
  ⟨known.records.contains name, known.serializables.contains name⟩

end KnownTypes

end Relay
