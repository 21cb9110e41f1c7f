import Relay.Generator.Emission

/-!
# Proxies

The calling half of the emitted code: a type that has the interface, whose methods make one envelope
each and send it once. It tells its caller nothing about what becomes of a call.
-/
namespace Relay.Emission

variable (e : Emission)

def proxyType : List Token :=
  match e.transport with
  | .sameProcess =>
    codeDoc ("Same-process proxy for [`" ++ e.interface ++
        "`]. Calls are queued and never block.") ++
      code "#" ++ Token.bracket (code "derive" ++ Token.paren (code "Debug , Clone")) ++
      e.visibility.tokens ++ code "struct" ++ codeWord e.proxy ++
      Token.brace (code "sender :" ++ e.library ["LocalSender"] ++ code ",")
  | .crossProcess =>
    codeDoc ("Cross-process proxy for [`" ++ e.interface ++
        "`]. Arguments are marshalled into a " ++
        "bundle and sent over a link; failed sends are logged and counted, never returned.") ++
      code "#" ++ Token.bracket (code "derive" ++ Token.paren (code "Debug")) ++
      e.visibility.tokens ++ code "struct" ++ codeWord e.proxy ++
      Token.brace (code "sender :" ++ e.library ["RemoteSender"] ++ code ",")

/-! ### Constants -/

def idConstant (m : MethodCode) : List Token :=
  codeDoc ("Envelope id of `" ++ m.name ++ "`.") ++ code "pub const" ++
    codeWord ("METHOD_" ++ toString m.id.toNat) ++ code ": u32 =" ++ codeId m.id ++ code ";"

def constants : List Token :=
  codeNote "Name of the proxied interface, used in log events." ++
    code "pub const INTERFACE : & str =" ++ codeString e.interface ++ code ";" ++
    codeNote "Highest method id; ids run densely from 1." ++
    code "pub const LAST_METHOD_ID : u32 =" ++ codeId e.lastId ++ code ";" ++
    e.methods.flatMap idConstant

/-! ### Making proxies -/

/-- The name of the function that writes the arguments of a method. -/
def marshalWord (m : MethodCode) : String := "marshal_" ++ toString m.id.toNat

/-- The function that writes the arguments of a method. -/
def marshal (m : MethodCode) : List Token :=
  code "fn" ++ codeWord (marshalWord m) ++ Token.paren (code "args :" ++ m.tuple.tokens) ++
    code "-> :: std :: result :: Result <" ++ e.library ["Bundle"] ++ code "," ++
    e.library ["bundle", "Error"] ++ code ">" ++
    Token.brace (
      code "let mut data =" ++ e.library ["Bundle", "new"] ++ Token.paren [] ++ code ";" ++
      m.writes.flatMap (Write.tokens "data") ++
      code ":: std :: result :: Result :: Ok" ++ Token.paren (code "data"))

/-- A public function that takes a receiver of any fitting type. -/
def receiverFunction (name : String) (param result body : List Token) : List Token :=
  code "pub fn" ++ codeWord name ++ code "<" ++ codeWord receiverWord ++ code ">" ++
    Token.paren param ++ code "->" ++ result ++ code "where" ++ e.bounds ++ code "," ++
    Token.brace body

def sharedReceiver : List Token :=
  code ":: std :: sync :: Arc <" ++ codeWord receiverWord ++ code ">"

/-- A new dispatcher for a receiver that is held in some way. -/
def newDispatcher (holding : String) : List Token :=
  code "let dispatcher =" ++ codeWord e.dispatcher ++ code ":: new" ++
    Token.paren (e.library ["ReceiverHandle", holding] ++ Token.paren (code "receiver")) ++ code ";"

def proxyAndMailbox : List Token :=
  Token.paren (code "Self ," ++ e.library ["Mailbox"])

def sameProcessMembers : List Token :=
  codeNotes ["Binds a proxy to `receiver` without keeping it alive.", "",
      "The returned mailbox must be driven for calls to arrive."] ++
    e.receiverFunction "attach" (code "receiver : &" ++ sharedReceiver) e.proxyAndMailbox
      (e.newDispatcher "weak" ++
        code "let" ++ Token.paren (code "sender , mailbox") ++ code "=" ++
        e.library ["Mailbox", "local"] ++ Token.paren (code "Self :: INTERFACE , dispatcher") ++
        code ";" ++
        Token.paren (code "Self" ++ Token.brace (code "sender") ++ code ", mailbox")) ++
    codeNotes ["Like `attach`, with the mailbox spawned onto the tokio runtime.", "",
      "# Panics", "",
      "Panics when called outside a tokio runtime."] ++
    e.receiverFunction "spawn" (code "receiver : &" ++ sharedReceiver) (code "Self")
      (code "let" ++ Token.paren (code "proxy , mailbox") ++ code "= Self :: attach" ++
        Token.paren (code "receiver") ++ code ";" ++
        code ":: std :: mem :: drop" ++
        Token.paren (code "mailbox . spawn" ++ Token.paren []) ++ code "; proxy")

/-- The members of a proxy across processes. -/
def crossProcessMembers : List Token :=
  codeNote "Wraps a raw handle to a remote mailbox." ++
    code "pub fn connect" ++ Token.paren (code "handle :" ++ e.library ["RemoteHandle"]) ++
    code "-> Self" ++
    Token.brace (code "Self" ++ Token.brace (
      code "sender :" ++ e.library ["RemoteSender", "new"] ++
        Token.paren (code "Self :: INTERFACE , handle") ++ code ",")) ++
    codeNotes ["Hosts `receiver` behind a new mailbox and returns a proxy bound to it.", "",
      "The mailbox owns the receiver; drive it to deliver calls."] ++
    e.receiverFunction "host" (code "receiver :" ++ sharedReceiver) e.proxyAndMailbox
      (e.newDispatcher "owned" ++
        code "let" ++ Token.paren (code "handle , mailbox") ++ code "=" ++
        e.library ["Mailbox", "remote"] ++ Token.paren (code "dispatcher") ++ code ";" ++
        Token.paren (code "Self :: connect" ++ Token.paren (code "handle") ++ code ", mailbox")) ++
    codeNote "The raw handle, for passing to another process." ++
    code "pub fn handle" ++ Token.paren (code "& self") ++ code "->" ++
    e.library ["RemoteHandle"] ++
    Token.brace (code "self . sender . handle" ++ Token.paren [] ++ code ". clone" ++
      Token.paren []) ++
    codeNote "Number of calls that could not be delivered." ++
    code "pub fn failed_sends" ++ Token.paren (code "& self") ++ code "-> u64" ++
    Token.brace (code "self . sender . failed_sends" ++ Token.paren []) ++
    (e.methods.filter fun m => !m.params.isEmpty).flatMap e.marshal

/-- The members of the proxy apart from the constants. -/
def proxyMembers : List Token :=
  match e.transport with
  | .sameProcess => e.sameProcessMembers
  | .crossProcess => e.crossProcessMembers

/-! ### Sending -/

/-- The parameters of a method in a row, as a tuple. -/
def argumentRow (m : MethodCode) : List Token :=
  Token.paren (commaSeparated true (m.words.map codeWord))

/-- The body of a method of the proxy: it sends one envelope with the number of the method. -/
def send (m : MethodCode) : List Token :=
  if m.params.isEmpty then
    code "self . sender . send" ++
      Token.paren (e.library ["Envelope", "new"] ++ Token.paren (codeId m.id)) ++ code ";"
  else
    match e.transport with
    | .sameProcess =>
      code "self . sender . send" ++
        Token.paren (e.library ["Envelope", "with_args"] ++
          Token.paren (codeId m.id ++ code "," ++ argumentRow m)) ++
        code ";"
    | .crossProcess =>
      code "match Self ::" ++ codeWord (marshalWord m) ++ Token.paren (argumentRow m) ++
        Token.brace (
          code ":: std :: result :: Result :: Ok" ++ Token.paren (code "data") ++
            code "=> self . sender . send" ++
            Token.paren (e.library ["Envelope", "with_data"] ++
              Token.paren (codeId m.id ++ code ", data")) ++
            code "," ++
          code ":: std :: result :: Result :: Err" ++ Token.paren (code "error") ++
            code "=> self . sender . report" ++ Token.paren (codeId m.id ++ code ", error") ++
            code ",")

def signature (m : MethodCode) : List Token :=
  code "fn" ++ codeWord m.word ++
    Token.paren (code "& self" ++ m.params.flatMap fun p =>
      code "," ++ codeWord p.word ++ code ":" ++ p.type.tokens)

/-- A method of the proxy, with a note of the platform level that it needs. -/
def proxyMethod (m : MethodCode) : List Token :=
  (match m.minLevel with
    | some level => codeDoc ("Requires platform level " ++ toString level ++ ".")
    | none => []) ++
    signature m ++ Token.brace (e.send m)

def proxyCode : List Token :=
  e.proxyType ++
    code "impl" ++ codeWord e.proxy ++ Token.brace (e.constants ++ e.proxyMembers) ++
    code "impl" ++ codeWord e.trait ++ code "for" ++ codeWord e.proxy ++
    Token.brace (e.methods.flatMap e.proxyMethod)

end Relay.Emission
