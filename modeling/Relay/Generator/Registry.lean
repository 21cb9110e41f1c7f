import Relay.Delivery.Interface
import Relay.Generator.Diagnostic

/-!
# Registry

The numbers of the methods of an interface. They run from one in the order of declaration, and both
halves of the emitted code take them from here. What is wrong with an interface apart from its
parameters is listed here too, all of it and in a fixed order.
-/
namespace Relay

/-- A method with its number. -/
structure Registered where
  id : UInt32
  method : Declared.Method

/-- The methods of an interface, numbered. -/
structure Registry where
  interface : String
  methods : List Registered

namespace Registry

def number (first : UInt32) : List Declared.Method → List Registered
  | [] => []
  | m :: rest => ⟨first, m⟩ :: number (first + 1) rest

def ofInterface (i : Declared.Interface) : Registry := ⟨i.name, number 1 i.methods⟩

def size (r : Registry) : Nat := r.methods.length

/-- The highest number in use, and zero when there is none. -/
def lastId (r : Registry) : UInt32 :=
  match r.methods.getLast? with
  | some m => m.id
  | none => 0

def get? (r : Registry) (id : UInt32) : Option Registered := numbered? r.methods id

/-- The number of the first method with a name. -/
def idOf? (r : Registry) (name : String) : Option UInt32 :=
  (r.methods.find? fun m => m.method.name == name).map Registered.id

end Registry

namespace Declared

def Method.violations (interface : String) (m : Method) : List Diagnostic :=
  let at_ (cause : Cause) : Diagnostic := ⟨cause, interface, some m.signature, none, m.position⟩
  (m.result.map fun type => at_ (.returnsValue type)).toList ++
    (m.unsupported.map fun reason => at_ (.unsupportedMethod reason)).toList

/-- What is wrong with an interface, apart from its parameters. -/
def Interface.violations (i : Interface) : List Diagnostic :=
  (if i.isGeneric then [⟨.genericInterface, i.name, none, none, i.position⟩] else []) ++
    (i.otherItems.map fun item =>
      ⟨.otherMember item.1, i.name, none, none, item.2.or i.position⟩) ++
    i.methods.flatMap (Method.violations i.name)

end Declared

end Relay
