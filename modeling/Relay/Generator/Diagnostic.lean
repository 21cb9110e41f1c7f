import Relay.Interface.Declaration
import Relay.Text.Quoted

/-!
# Diagnostics

Everything that can be wrong with a declaration. A diagnostic gives the cause and where it was
found; its kind and its text follow from that. In emitted code a diagnostic is an error of
compilation.
-/
namespace Relay

inductive DiagnosticKind where
  | notAnInterface
  | nonVoidMethod
  | unsupportedParameterType
  | unknownGenericArgument
  | unsupportedSignature
deriving DecidableEq, Repr

def DiagnosticKind.words : DiagnosticKind → String
  | notAnInterface => "not an interface"
  | nonVoidMethod => "method returns a value"
  | unsupportedParameterType => "unsupported parameter type"
  | unknownGenericArgument => "unknown generic argument"
  | unsupportedSignature => "unsupported signature"

/-- What is wrong. -/
inductive Cause where
  /-- The item is no trait, but of a kind given in words. -/
  | otherItem (kind : String)
  | genericInterface
  /-- The trait has a member, given in words, that is no method. -/
  | otherMember (member : String)
  | returnsValue (type : String)
  /-- Calls of the method cannot be sent. -/
  | unsupportedMethod (reason : String)
  /-- Values of the parameter cannot wait in a queue. -/
  | unsupportedParam (reason : String)
  | noCategory (type : String)
  /-- The type of the parameter lacks its element type. -/
  | noElementType (wrapper : String)
  /-- A name is to stand in the emitted code, and cannot. -/
  | invalidName (role name : String)
deriving DecidableEq, Repr

namespace Cause

def kind : Cause → DiagnosticKind
  | otherItem _ => .notAnInterface
  | returnsValue _ => .nonVoidMethod
  | noCategory _ => .unsupportedParameterType
  | noElementType _ => .unknownGenericArgument
  | genericInterface | otherMember _ | unsupportedMethod _ | unsupportedParam _ | invalidName _ _ =>
    .unsupportedSignature

def detail : Cause → String
  | otherItem kind => "only traits can be proxied, found " ++ kind
  | genericInterface => "generic interfaces cannot be proxied"
  | otherMember member => member ++ " cannot be implemented by a proxy"
  | returnsValue type => "returns `" ++ type ++ "`; proxied methods cannot return a value"
  | unsupportedMethod reason => reason
  | unsupportedParam reason => reason
  | noCategory type => "`" ++ type ++ "` cannot be marshalled into an envelope"
  | noElementType wrapper => "`" ++ wrapper ++ "` needs an element type"
  | invalidName role name => role ++ " `" ++ name ++ "` is not a valid identifier"

end Cause

/-- What is wrong with a declaration, and where. -/
structure Diagnostic where
  cause : Cause
  interface : String
  /-- The method as read in messages. -/
  method : Option String
  param : Option String
  position : Option Position
deriving DecidableEq, Repr

namespace Diagnostic

/-- The whole text of a diagnostic. -/
def message (d : Diagnostic) : String :=
  d.cause.kind.words ++ ": " ++ d.interface ++
    (match d.method with
      | some method => "::" ++ method
      | none => "") ++
    (match d.param with
      | some param => ", parameter `" ++ param ++ "`"
      | none => "") ++
    ": " ++ d.cause.detail

end Diagnostic

/-- An error of compilation with a text, as emitted code. -/
def compileError (text : String) : List Token :=
  Token.operator "::" ++ [.word "core" none] ++ Token.operator "::" ++
    [.word "compile_error" none] ++ Token.operator "!" ++
    Token.brace [.literal (Text.literal text) none]

/-- The diagnostic as emitted code. -/
def Diagnostic.compileError (d : Diagnostic) : List Token := Relay.compileError d.message

end Relay
