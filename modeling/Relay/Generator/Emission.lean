import Relay.Generator.Accessor
import Relay.Generator.Plan
import Relay.Interface.Synthesis
import Relay.Source.Reading

/-!
# What is emitted

The parts of emitted code in their meaning, before they are spelled out: for each method its number,
its name, its parameters, what is written and read for them and how the receiver is called. The
proxy and the dispatcher are both spelled from the same parts.

A declared name may be no name in code. A kept word can be spelled with `r#` in front; what cannot
be spelled at all has no code.
-/
namespace Relay

/-- A declared name as it stands in code. -/
def identifier? (name : String) : Option String :=
  match Source.readName name with
  | .ok word => some word
  | .error _ =>
    if isWord name.toList && !unescapableWords.contains name then some ("r#" ++ name) else none

structure ParamCode where
  /-- The declared name, under which the value travels. -/
  key : String
  word : String
  type : TypeExpr
  desc : TypeDesc
  category : Option Category

structure MethodCode where
  id : UInt32
  name : String
  word : String
  params : List ParamCode
  minLevel : Option Nat

/-- The type of a parameter in code: the type as written, or one made for its descriptor. -/
def Declared.Param.codeType (runtime : PathExpr) (p : Declared.Param) : TypeExpr :=
  p.type.getD (p.desc.typeExpr runtime)

def PlannedParam.code? (runtime : PathExpr) (p : PlannedParam) : Option ParamCode :=
  (identifier? p.param.name).map fun word =>
    ⟨p.param.name, word, p.param.codeType runtime, p.param.desc, p.category⟩

def MethodPlan.code? (runtime : PathExpr) (p : MethodPlan) : Option MethodCode := do
  let word ← identifier? p.name
  let params ← p.params.mapM (PlannedParam.code? runtime)
  return ⟨p.id, p.name, word, params, p.minLevel?⟩

namespace MethodCode

/-- The type of the arguments in a row. -/
def tuple (m : MethodCode) : TypeExpr := .tuple (m.params.map ParamCode.type) true

def words (m : MethodCode) : List String := m.params.map ParamCode.word

/-- A field of the arguments in a row. -/
def field (index : Nat) : List Token := code "args ." ++ codeIndex index

/-- What is written for the arguments: each parameter's field, in order. -/
def writes (m : MethodCode) : List Write :=
  m.params.zipIdx.filterMap fun (p, index) => p.category.map fun c => ⟨c, p.key, field index⟩

/-- What is read for the arguments: each parameter's value, in order. -/
def reads (m : MethodCode) : List Read :=
  m.params.filterMap fun p => p.category.map fun c => ⟨c, p.key⟩

/-- The fields that are passed to the receiver, in order. -/
def passed (m : MethodCode) : List Nat := List.range m.params.length

/-- The descriptors of the arguments in a row, as read in messages. -/
def expected (m : MethodCode) : String := TypeDesc.displayTuple (m.params.map ParamCode.desc)

end MethodCode

/-- Everything that the two halves of the emitted code need. -/
structure Emission where
  runtime : PathExpr
  interface : String
  transport : Transport
  trait : String
  visibility : Visibility
  proxy : String
  lastId : UInt32
  methods : List MethodCode

namespace Emission

def dispatcher (e : Emission) : String := plainName e.proxy ++ "Dispatcher"

/-- The word that emitted code uses for the type of a receiver. -/
def receiverWord : String := "R"

/-- What something of the runtime library is called. -/
def library (e : Emission) (names : List String) : List Token := (e.runtime.within names).tokens

def bounds (e : Emission) : List Token :=
  codeWord receiverWord ++ code ":" ++ codeWord e.trait ++
    code "+ ? Sized + :: std :: marker :: Send + :: std :: marker :: Sync + 'static"

/-- The call of the receiver with the fields of the arguments. -/
def invocation (e : Emission) (m : MethodCode) : List Token :=
  code "<" ++ codeWord receiverWord ++ code "as" ++ codeWord e.trait ++ code "> ::" ++
    codeWord m.word ++
    Token.paren (code "& * receiver" ++
      m.passed.flatMap fun index => code "," ++ MethodCode.field index) ++
    code ";"

end Emission

end Relay
