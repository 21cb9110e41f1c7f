import Relay.Interface.TypeDesc
import Relay.Source.Item

/-!
# Declarations

What the generator is asked to work on: an interface, or some other item by mistake, together with
the transport that its calls are to take. An interface says of its methods and parameters whatever
can make it impossible to generate anything; only the generator decides what follows from that.
-/
namespace Relay

/-- The way that calls take. -/
inductive Transport where
  /-- Arguments move to a receiver in the same process. -/
  | sameProcess
  /-- Arguments are written into a bundle and sent as bytes. -/
  | crossProcess
deriving DecidableEq, Repr

namespace Declared

/-- A declared parameter. Its name is the key of its value in a bundle. -/
structure Param where
  name : String
  desc : TypeDesc
  /-- The type as written, if the parameter was written. -/
  type : Option TypeExpr
  /-- Why its values cannot wait in a queue, if they cannot. -/
  unsupported : Option String
  position : Option Position

/-- A declared method. -/
structure Method where
  name : String
  params : List Param
  /-- The text of the type that it returns, if it returns anything. -/
  result : Option String
  /-- Why calls of it cannot be sent, if they cannot. -/
  unsupported : Option String
  position : Option Position

/-- A declared interface. -/
structure Interface where
  name : String
  visibility : Visibility
  methods : List Method
  isGeneric : Bool
  /-- Members that are no methods and need something from whatever has the interface. -/
  otherItems : List (String × Option Position)
  position : Option Position

/-- The parameter as read in messages. -/
def Param.signature (p : Param) : String := p.name ++ ": " ++ p.desc.display

/-- The method as read in messages. -/
def Method.signature (m : Method) : String :=
  m.name ++ "(" ++ ", ".intercalate (m.params.map Param.signature) ++ ")" ++
    match m.result with
    | some result => " -> " ++ result
    | none => ""

/-- What was declared. -/
inductive Content where
  | interface (i : Interface)
  /-- Something else, given the words for what it is. -/
  | other (kind : String)

end Declared

/-- A declaration with the choices made for it. -/
structure Declaration where
  name : String
  content : Declared.Content
  transport : Transport
  /-- The name of the proxy, if it is not to be the default. -/
  outputName : Option String
  position : Option Position

namespace Declaration

def ofInterface (i : Declared.Interface) (transport : Transport) : Declaration :=
  ⟨i.name, .interface i, transport, none, i.position⟩

/-- The declaration of something else. -/
def ofOther (name kind : String) (transport : Transport) (position : Option Position) :
    Declaration :=
  ⟨name, .other kind, transport, none, position⟩

end Declaration

end Relay
