import Relay.Proofs.Generator.Readback

/-!
# What emitted code does

The functions and arms that are emitted for a method, each with what can be read off from its
tokens: which calls it makes, in which order and with which arguments.
-/

namespace Relay

/-! ## Accessors -/

-- What pieces of code that stand between calls leave for a group behind them.

theorem behind_dot : (code ".").foldl Front.next (.word none "data") = .member "data" := by rfl

theorem behind_question : (code "?").foldl Front.next .other = .other := by rfl

theorem behind_comma : (code ",").foldl Front.next .other = .other := by rfl

theorem behind_semicolon : (code ";").foldl Front.next .other = .other := by rfl

theorem behind_ok :
    (code ":: std :: result :: Result :: Ok").foldl Front.next .other = .word none "Ok" := by rfl

def Write.call (w : Write) : CallCode :=
  ⟨some "data", w.category.writer,
    codeString w.key ++ code "," ++ w.category.passing.argument w.value⟩

def Read.call (r : Read) : CallCode := ⟨some "data", r.category.reader, codeString r.key⟩

theorem callsFrom_write (w : Write) (ts : List Token) :
    callsFrom .other (w.tokens "data" ++ ts) = w.call :: callsFrom .other ts := by
  rw [Write.tokens]
  split
  · simp only [List.append_assoc, callsFrom_code, callsFrom_codeWord, callsFrom_arguments,
      Front.next, behind_dot, behind_question, behind_semicolon, Write.call]
  · simp only [List.append_assoc, List.nil_append, callsFrom_code, callsFrom_codeWord,
      callsFrom_arguments, Front.next, behind_dot, behind_semicolon, Write.call]

theorem callsFrom_writes (ws : List Write) (ts : List Token) :
    callsFrom .other (ws.flatMap (Write.tokens "data") ++ ts) =
      ws.map Write.call ++ callsFrom .other ts := by
  induction ws with
  | nil => rfl
  | cons w rest ih =>
    rw [List.flatMap_cons, List.append_assoc, callsFrom_write, ih, List.map_cons, List.cons_append]

theorem calls_read (r : Read) : calls (r.tokens "data") = [r.call] := by
  have hquestion : callsFrom .other (code "?") = [] := callsFrom_eq_nil (flat_code _) _
  simp only [Read.tokens, calls, List.append_assoc, callsFrom_code, callsFrom_codeWord,
    callsFrom_arguments, Front.next, behind_dot, hquestion, Read.call]

theorem commaSeparated_true (items : List (List Token)) :
    commaSeparated true items = items.flatMap fun item => item ++ code "," := by
  have hcomma : Token.operator "," = code "," := by rfl
  rw [commaSeparated, hcomma]
  induction items with
  | nil => rfl
  | cons item rest ih =>
    rw [List.flatMap_cons, ← ih]
    cases rest with
    | nil => simp [separated]
    | cons item' rest => simp [separated]

namespace Emission

variable (e : Emission) (m : MethodCode)

/-! ## Functions that write and read arguments -/

/-- What stands behind the new bundle in the function that writes arguments. -/
def marshalling : List Token :=
  m.writes.flatMap (Write.tokens "data") ++
    (code ":: std :: result :: Result :: Ok" ++ Token.paren (code "data"))

def marshalFunction : FunctionCode where
  attributes := []
  name := marshalWord m
  params := code "args :" ++ m.tuple.tokens
  result := code "-> :: std :: result :: Result <" ++ e.library ["Bundle"] ++ code "," ++
    e.library ["bundle", "Error"] ++ code ">"
  body := code "let mut data =" ++ e.library ["Bundle", "new"] ++ Token.paren [] ++ code ";" ++
    marshalling m

theorem tokens_marshalFunction : (e.marshalFunction m).tokens = e.marshal m := by
  simp only [FunctionCode.tokens, marshalFunction, marshal, marshalling, List.append_assoc,
    List.nil_append]

theorem calls_marshalling :
    calls (marshalling m) = m.writes.map Write.call ++ [⟨none, "Ok", code "data"⟩] := by
  rw [calls, marshalling, callsFrom_writes, callsFrom_code, behind_ok, callsFrom_last_arguments]

def unmarshalFunction : FunctionCode where
  attributes := []
  name := unmarshalWord m
  params := code "data : &" ++ e.library ["Bundle"]
  result := code "-> :: std :: result :: Result <" ++ m.tuple.tokens ++ code "," ++
    e.library ["bundle", "Error"] ++ code ">"
  body := code ":: std :: result :: Result :: Ok" ++
    Token.paren (Token.paren (commaSeparated true (m.reads.map (Read.tokens "data"))))

theorem tokens_unmarshalFunction : (e.unmarshalFunction m).tokens = e.unmarshal m := by
  simp only [FunctionCode.tokens, unmarshalFunction, unmarshal, List.append_assoc,
    List.nil_append]

/-! ## Methods of the proxy -/

def methodFunction : FunctionCode where
  attributes := match m.minLevel with
    | some level => codeDoc ("Requires platform level " ++ toString level ++ ".")
    | none => []
  name := m.word
  params := code "& self" ++ m.params.flatMap fun p =>
    code "," ++ codeWord p.word ++ code ":" ++ p.type.tokens
  result := []
  body := e.send m

theorem tokens_methodFunction : (e.methodFunction m).tokens = e.proxyMethod m := by
  cases hlevel : m.minLevel <;>
    simp only [FunctionCode.tokens, methodFunction, proxyMethod, signature, hlevel,
      List.append_assoc, List.nil_append]

/-- The calls by which a method with a number and parameters of some names is sent. -/
def sending (runtime : PathExpr) (t : Transport) (id : UInt32) (words : List String) :
    List CallCode :=
  let row := Token.paren (words.flatMap fun word => codeWord word ++ code ",")
  let send (constructor : String) (contents : List Token) : CallCode :=
    ⟨some "sender", "send", (runtime.within ["Envelope", constructor]).tokens ++
      Token.paren (codeId id ++ contents)⟩
  if words.isEmpty then [send "new" []]
  else
    match t with
    | .sameProcess => [send "with_args" (code "," ++ row)]
    | .crossProcess => [
        ⟨none, "marshal_" ++ toString id.toNat, row⟩,
        ⟨none, "Ok", code "data"⟩,
        send "with_data" (code ", data"),
        ⟨none, "Err", code "error"⟩,
        ⟨some "sender", "report", codeId id ++ code ", error"⟩]

theorem calls_send : calls (e.send m) = sending e.runtime e.transport m.id m.words := by
  have hsend : (code "self . sender . send").foldl Front.next .other =
      .word (some "sender") "send" := by rfl
  have hself : (code "match Self ::").foldl Front.next .other = .other := by rfl
  have herr : (code ":: std :: result :: Result :: Err").foldl Front.next .other =
      .word none "Err" := by rfl
  have hsent : (code "=> self . sender . send").foldl Front.next .other =
      .word (some "sender") "send" := by rfl
  have hreport : (code "=> self . sender . report").foldl Front.next .other =
      .word (some "sender") "report" := by rfl
  have hsemicolon : callsFrom .other (code ";") = [] := callsFrom_eq_nil (flat_code _) _
  have hcomma : callsFrom .other (code ",") = [] := callsFrom_eq_nil (flat_code _) _
  have hrow : argumentRow m =
      Token.paren (m.words.flatMap fun word => codeWord word ++ code ",") := by
    rw [argumentRow, commaSeparated_true, List.flatMap_map]
  have hempty : m.words.isEmpty = m.params.isEmpty := List.isEmpty_map
  unfold sending
  rw [send, calls, hempty]
  split
  · simp only [List.append_assoc, List.append_nil, callsFrom_code, callsFrom_arguments, hsend,
      hsemicolon, library]
  · cases e.transport with
    | sameProcess =>
      simp only [List.append_assoc, callsFrom_code, callsFrom_arguments, hsend, hsemicolon, hrow,
        library]
    | crossProcess =>
      simp only [List.append_assoc, callsFrom_code, callsFrom_codeWord, callsFrom_arguments,
        callsFrom_last_brace, calls, Front.next, hself, behind_ok, hsent, behind_comma, herr,
        hreport, hcomma, hrow, library, marshalWord]

/-! ## Arms of the dispatcher -/

def armCode : ArmCode where
  pattern := codeId m.id
  body := e.receive m

theorem tokens_armCode : (e.armCode m).tokens = e.arm m := rfl

theorem handler_armCode : (e.armCode m).handler (!m.params.isEmpty) = e.delivery m := by
  rw [ArmCode.handler, armCode, receive]
  cases m.params.isEmpty with
  | true => rfl
  | false =>
    simp only [Bool.not_false, if_true, Bool.false_eq_true, if_false]
    cases e.transport <;>
      simp only [lastBlock_append_brace, firstBlock, blocks_append, blocks_code, blocks_paren,
        blocks_brace, List.nil_append, List.cons_append, List.head?_cons, Option.getD_some]

/-- The arguments are read by the function that is there for the method. -/
theorem calls_receive (ht : e.transport = .crossProcess) (h : m.params ≠ []) :
    (calls (e.receive m)).head? =
      some ⟨none, unmarshalWord m, code "envelope . payload" ++ Token.paren []⟩ := by
  have hself : (code "match Self ::").foldl Front.next .other = .other := by rfl
  have hcarrying : m.params.isEmpty = false := by simpa using h
  simp only [receive, hcarrying, Bool.false_eq_true, if_false, ht, calls, List.append_assoc,
    callsFrom_code, callsFrom_codeWord, callsFrom_arguments, hself, Front.next, List.head?_cons]

/-- The calls by which a method with a word and so many parameters is passed to the receiver. -/
def passing (word : String) (count : Nat) : List CallCode :=
  [⟨none, word, code "& * receiver" ++
    (List.range count).flatMap fun index => code "," ++ (code "args ." ++ codeIndex index)⟩]

theorem calls_delivery :
    calls (firstStatement (e.delivery m)) = passing m.word m.params.length := by
  have hlt : code "<" = [.punct '<' false none] := by rfl
  have has : code "as" = [.word "as" none] := by rfl
  have hgt : code "> ::" =
      [.punct '>' false none, .punct ':' true none, .punct ':' false none] := by rfl
  rw [delivery, invocation]
  rw [List.append_assoc (_ ++ _) (code ";"), firstStatement_append]
  · rw [hlt, has, hgt]
    rfl
  · rw [hlt, has, hgt]
    simp [codeWord, Token.paren, Token.isSemicolon]

/-! ## Blocks of the whole code -/

/-- The emission as it would be if there were no methods. -/
def withoutMethods : Emission := { e with methods := [] }

/-- The methods with parameters. -/
def carrying : List MethodCode := e.methods.filter fun m => !m.params.isEmpty

theorem blocks_visibility (v : Visibility) : blocks v.tokens = [] := by cases v <;> rfl

theorem blocks_bounds : blocks e.bounds = [] := by
  unfold bounds
  simp only [blocks_append, blocks_code, blocks_codeWord, List.append_nil]

theorem blocks_codeDoc (text : String) : blocks (codeDoc text) = [] := rfl

theorem blocks_proxyType : ∃ fields, blocks e.proxyType = [fields] := by
  rw [proxyType]
  cases e.transport with
  | sameProcess =>
    refine ⟨code "sender :" ++ e.library ["LocalSender"] ++ code ",", ?_⟩
    simp only [blocks_append, blocks_codeDoc, blocks_code, blocks_bracket, blocks_visibility,
      blocks_codeWord, blocks_brace, List.nil_append]
  | crossProcess =>
    refine ⟨code "sender :" ++ e.library ["RemoteSender"] ++ code ",", ?_⟩
    simp only [blocks_append, blocks_codeDoc, blocks_code, blocks_bracket, blocks_visibility,
      blocks_codeWord, blocks_brace, List.nil_append]

theorem blocks_proxyCode : ∃ fields, blocks e.proxyCode =
    [fields, e.constants ++ e.proxyMembers, e.methods.flatMap e.proxyMethod] := by
  obtain ⟨fields, hfields⟩ := e.blocks_proxyType
  refine ⟨fields, ?_⟩
  simp only [proxyCode, blocks_append, hfields, blocks_code, blocks_codeWord, blocks_brace,
    List.append_nil, List.cons_append, List.nil_append]

/-- The functions of the dispatcher that are there for every interface. -/
def dispatcherFunctions : List Token :=
  code "pub fn new" ++ Token.paren (code "receiver :" ++ e.receiverHandle) ++ code "-> Self" ++
    Token.brace (code "Self" ++ Token.brace (code "receiver")) ++
  code "pub fn is_live" ++ Token.paren (code "& self") ++ code "-> bool" ++
    Token.brace (code "self . receiver . is_live" ++ Token.paren [])

theorem blocks_dispatcherCode : ∃ fields path, blocks e.dispatcherCode =
    [fields, e.dispatcherFunctions ++ e.dispatcherMembers] ++ path ++ [e.dispatchFunction] := by
  refine ⟨code "receiver :" ++ e.receiverHandle ++ code ",", blocks (e.library ["Dispatch"]), ?_⟩
  unfold dispatcherCode receiverParam dispatcherType dispatcherFunctions
  simp only [blocks_append, blocks_codeDoc, blocks_visibility, blocks_code, blocks_codeWord,
    blocks_brace, blocks_bounds, List.append_nil, List.cons_append, List.nil_append]

end Emission

end Relay
