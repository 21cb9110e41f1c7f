import Relay.Generator.Argument
import Relay.Generator.Generation
import Relay.Interface.Lowering

/-!
# Expansion

What the attribute makes of an item: the item as it is, and behind it the code generated for it or
an error of compilation for everything that is wrong. When its arguments are at fault the attribute
leaves nothing of the item.
-/
namespace Relay

/-- What stands behind an item after a generation. -/
def Generation.code? : Generation → Option (List Token)
  | .accepted output => some output.tokens
  | .rejected diagnostics => some (diagnostics.flatMap Diagnostic.compileError)
  | .unspeakable => none

/-- What an attribute makes of an item. -/
inductive Expansion where
  /-- The arguments are at fault, and an error stands in place of the item. -/
  | refused (fault : ArgumentFault)
  /-- The item stays, with what was generated for it behind it. -/
  | followed (g : Generation)

/-- What is generated for an item on behalf of an attribute. -/
def AttributeArguments.generate (args : AttributeArguments) (t : Transport) (item : Source.Item) :
    Generation :=
  let d := { item.lower args.known t with outputName := args.name }
  d.generate (args.runtime.getD Declaration.defaultRuntime)

/-- Expands an attribute over an item, both given as text. The arguments are read first, and when
they are at fault the item is not looked at beyond its tokens. -/
def expand (t : Transport) (arguments item : String) : Except Source.Fault Expansion := do
  let argumentTokens ← Source.readTokens arguments
  let _ ← Source.readTokens item
  match AttributeArguments.ofTokens argumentTokens with
  | .error fault => return .refused fault
  | .ok args => return .followed (args.generate t (← Source.readItem item))

end Relay
