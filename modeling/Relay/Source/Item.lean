import Relay.Source.Parser
import Relay.Source.TypeExpr

/-!
# Items

What a declaration says, as far as anything is made of it: of a trait, its members with their
signatures; of any other item, its kind and its name.
-/
namespace Relay

/-- Who may see an item. -/
inductive Visibility where
  | inherited
  | everyone
  /-- As in `pub(crate)`, or `pub(in a::b)`. -/
  | restricted (isPath : Bool) (path : PathExpr)

def Visibility.tokens : Visibility → List Token
  | inherited => []
  | everyone => [.word "pub" none]
  | restricted isPath path =>
    .word "pub" none :: Token.paren ((if isPath then [.word "in" none] else []) ++ path.tokens)

namespace Source

/-- How a method takes the object that it is called on. -/
structure Receiver where
  isReference : Bool
  isMut : Bool
deriving DecidableEq, Repr

/-- A parameter: the name, if its pattern is one, and its type. -/
structure Param where
  name : Option String
  type : TypeExpr
  position : Option Position

/-- The head of a function. -/
structure Signature where
  name : Parser.Placed
  isAsync : Bool
  isUnsafe : Bool
  isGeneric : Bool
  receiver : Option Receiver
  params : List Param
  output : Option TypeExpr

/-- A member of a trait. -/
inductive Member where
  | method (signature : Signature)
  | type (name : Parser.Placed)
  | const (name : Parser.Placed) (hasDefault : Bool)
  /-- A macro call, or a form that only some compilers accept. -/
  | other (position : Option Position)

structure Trait where
  name : Parser.Placed
  visibility : Visibility
  isGeneric : Bool
  members : List Member

/-- The kinds of items other than traits that are told apart. -/
inductive ItemKind where
  | struct | enum | union | function | implementation | module | typeAlias | other
deriving DecidableEq, Repr

/-- What an item is. -/
inductive Content where
  | trait (t : Trait)
  | other (kind : ItemKind) (name : String)

/-- An item and where its first token is. -/
structure Item where
  content : Content
  position : Option Position

end Source

end Relay
