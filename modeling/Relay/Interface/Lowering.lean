import Relay.Interface.Declaration
import Relay.Interface.Description
import Relay.Interface.Ownership
import Relay.Source.Identifier

/-!
# Lowering

From an item of source text to a declaration. Names of traits, methods and parameters lose their
`r#`. A parameter whose pattern is no name is named after its place among the parameters.
-/
namespace Relay

/-- Why calls of a method cannot be sent. -/
inductive MethodProblem where
  | isAsync | isUnsafe | isGeneric
  /-- It is called on no object. -/
  | isFree
  /-- It takes the object itself, or something that is made of it. -/
  | isConsuming
  /-- It needs the object for itself. -/
  | isExclusive
deriving DecidableEq, Repr

def MethodProblem.message : MethodProblem → String
  | isAsync => "async methods cannot be proxied"
  | isUnsafe => "unsafe methods cannot be proxied"
  | isGeneric => "generic methods cannot be proxied"
  | isFree => "methods without a `&self` receiver cannot be proxied"
  | isConsuming => "the receiver must be `&self`"
  | isExclusive => "`&mut self` receivers cannot be proxied"

namespace Source

/-- The first reason why calls of a method cannot be sent. -/
def Signature.problem? (s : Signature) : Option MethodProblem :=
  if s.isAsync then some .isAsync
  else if s.isUnsafe then some .isUnsafe
  else if s.isGeneric then some .isGeneric
  else
    match s.receiver with
    | none => some .isFree
    | some r =>
      if !r.isReference then some .isConsuming
      else if r.isMut then some .isExclusive
      else none

/-- The name that stands in for a pattern. -/
def placeholder (index : Nat) : String := "__arg" ++ toString index

/-- The name of a parameter, given its place among the parameters. -/
def Param.loweredName (p : Param) (index : Nat) : String :=
  match p.name with
  | some name => plainName name
  | none => placeholder index

/-- The declared form of a parameter, given its place among the parameters. -/
def Param.lower (known : KnownTypes) (p : Param) (index : Nat) : Declared.Param where
  name := p.loweredName index
  desc := p.type.describe known
  type := some p.type
  unsupported := p.type.ownershipProblem?.map OwnershipProblem.message
  position := p.position

def isUnit : TypeExpr → Bool
  | .tuple [] _ => true
  | _ => false

/-- The text of what a method returns, if it returns anything. -/
def Signature.result? (s : Signature) : Option String :=
  match s.output with
  | some t => if isUnit t then none else some t.text
  | none => none

def Signature.lower (known : KnownTypes) (s : Signature) : Declared.Method where
  name := plainName s.name.word
  params := s.params.mapIdx fun index p => p.lower known index
  result := s.result?
  unsupported := s.problem?.map MethodProblem.message
  position := s.name.position

def Member.method? (known : KnownTypes) : Member → Option Declared.Method
  | .method s => some (s.lower known)
  | _ => none

/-- What a member of a trait is that is no method. A constant with a value needs nothing. -/
def Member.otherItem? : Member → Option (String × Option Position)
  | .method _ => none
  | .type name => some ("associated type `" ++ name.word ++ "`", name.position)
  | .const _ true => none
  | .const name false => some ("associated constant `" ++ name.word ++ "`", name.position)
  | .other position => some ("macro or verbatim trait item", position)

def Trait.lower (known : KnownTypes) (t : Trait) : Declared.Interface where
  name := plainName t.name.word
  visibility := t.visibility
  methods := t.members.filterMap (Member.method? known)
  isGeneric := t.isGeneric
  otherItems := t.members.filterMap Member.otherItem?
  position := t.name.position

def ItemKind.words : ItemKind → String
  | struct => "struct"
  | enum => "enum"
  | union => "union"
  | function => "function"
  | implementation => "impl block"
  | module => "module"
  | typeAlias => "type alias"
  | other => "item"

def Item.lower (known : KnownTypes) (transport : Transport) (item : Item) : Declaration :=
  match item.content with
  | .trait t => .ofInterface (t.lower known) transport
  | .other kind name => .ofOther name kind.words transport item.position

end Source

end Relay
