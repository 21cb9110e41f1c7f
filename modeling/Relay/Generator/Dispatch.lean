import Relay.Generator.Emission

/-!
# Dispatchers

The receiving half of the emitted code: a type that holds a receiver and takes envelopes. It looks
for the receiver first, then for the method, then at the arguments, and calls the method; an
envelope for which one of these fails is discarded.
-/
namespace Relay.Emission

variable (e : Emission)

/-- The name of the function that reads the arguments of a method. -/
def unmarshalWord (m : MethodCode) : String := "unmarshal_" ++ toString m.id.toNat

/-- The function that reads the arguments of a method. -/
def unmarshal (m : MethodCode) : List Token :=
  code "fn" ++ codeWord (unmarshalWord m) ++
    Token.paren (code "data : &" ++ e.library ["Bundle"]) ++
    code "-> :: std :: result :: Result <" ++ m.tuple.tokens ++ code "," ++
    e.library ["bundle", "Error"] ++ code ">" ++
    Token.brace (code ":: std :: result :: Result :: Ok" ++
      Token.paren (Token.paren (commaSeparated true (m.reads.map (Read.tokens "data")))))

/-- The members of the dispatcher that read arguments. -/
def dispatcherMembers : List Token :=
  match e.transport with
  | .sameProcess => []
  | .crossProcess => (e.methods.filter fun m => !m.params.isEmpty).flatMap e.unmarshal

/-- The call of the receiver, and the outcome behind it. -/
def delivery (m : MethodCode) : List Token := e.invocation m ++ e.library ["Outcome", "Delivered"]

/-- What the dispatcher does for a method. -/
def receive (m : MethodCode) : List Token :=
  if m.params.isEmpty then Token.brace (e.delivery m)
  else
    match e.transport with
    | .sameProcess =>
      code "match envelope . into_args :: <" ++ m.tuple.tokens ++ code ">" ++ Token.paren [] ++
        Token.brace (
          code ":: std :: option :: Option :: Some" ++ Token.paren (code "args") ++ code "=>" ++
            Token.brace (e.delivery m) ++
          code ":: std :: option :: Option :: None =>" ++ e.library ["Outcome", "malformed"] ++
            Token.paren (codeString e.interface ++ code ", what ," ++
              e.library ["bundle", "Error", "ArgumentMismatch"] ++
              Token.brace (code "expected :" ++ codeString m.expected) ++ code ",") ++
            code ",")
    | .crossProcess =>
      code "match Self ::" ++ codeWord (unmarshalWord m) ++
        Token.paren (code "envelope . payload" ++ Token.paren []) ++
        Token.brace (
          code ":: std :: result :: Result :: Ok" ++ Token.paren (code "args") ++ code "=>" ++
            Token.brace (e.delivery m) ++
          code ":: std :: result :: Result :: Err" ++ Token.paren (code "error") ++ code "=>" ++
            e.library ["Outcome", "malformed"] ++
            Token.paren (codeString e.interface ++ code ", what , error") ++ code ",")

def arm (m : MethodCode) : List Token := codeId m.id ++ code "=>" ++ e.receive m ++ code ","

/-- The generic parameter of the dispatcher. -/
def receiverParam : List Token := code "<" ++ codeWord receiverWord ++ code ": ? Sized >"

def dispatcherType : List Token :=
  codeWord e.dispatcher ++ code "<" ++ codeWord receiverWord ++ code ">"

/-- The type that holds a receiver. -/
def receiverHandle : List Token :=
  e.library ["ReceiverHandle"] ++ code "<" ++ codeWord receiverWord ++ code ">"

/-- The function that takes an envelope. -/
def dispatchFunction : List Token :=
  code "#" ++ Token.bracket (code "allow" ++ Token.paren (code "unused_variables")) ++
    code "fn dispatch" ++ Token.paren (code "& self , envelope :" ++ e.library ["Envelope"]) ++
    code "->" ++ e.library ["Outcome"] ++
    Token.brace (
      code "let what = envelope . what" ++ Token.paren [] ++ code ";" ++
      code "let :: std :: option :: Option :: Some" ++ Token.paren (code "receiver") ++
        code "= self . receiver . resolve" ++ Token.paren [] ++ code "else" ++
        Token.brace (code "return" ++ e.library ["Outcome", "disposed"] ++
          Token.paren (codeString e.interface ++ code ", what") ++ code ";") ++
        code ";" ++
      code "match what" ++
        Token.brace (e.methods.flatMap e.arm ++
          code "_ =>" ++ e.library ["Outcome", "unknown"] ++
          Token.paren (codeString e.interface ++ code ", what") ++ code ","))

def dispatcherCode : List Token :=
  codeDoc ("Delivers envelopes addressed to [`" ++ e.interface ++ "`] to a receiver.") ++
    e.visibility.tokens ++ code "struct" ++ codeWord e.dispatcher ++ receiverParam ++
    Token.brace (code "receiver :" ++ e.receiverHandle ++ code ",") ++
    code "impl" ++ receiverParam ++ e.dispatcherType ++
    Token.brace (
      code "pub fn new" ++ Token.paren (code "receiver :" ++ e.receiverHandle) ++ code "-> Self" ++
        Token.brace (code "Self" ++ Token.brace (code "receiver")) ++
      code "pub fn is_live" ++ Token.paren (code "& self") ++ code "-> bool" ++
        Token.brace (code "self . receiver . is_live" ++ Token.paren []) ++
      e.dispatcherMembers) ++
    code "impl <" ++ codeWord receiverWord ++ code ">" ++ e.library ["Dispatch"] ++ code "for" ++
    e.dispatcherType ++ code "where" ++ e.bounds ++ code "," ++
    Token.brace e.dispatchFunction

end Relay.Emission
