import Relay.Generator.Generation

/-!
# Reading emitted code

Emitted code as it looks to somebody who has nothing but its tokens.  A block is what stands in
braces.  A call is a word with arguments in parentheses behind it, be it a function, a method or a
constructor; if the word is a member of another word, the call is one on that.  What is inside the
arguments of a call can be read as code of its own.
-/

namespace Relay

/-! ## Blocks -/

/-- What stands in braces, if the token does. -/
def Token.block? : Token → Option (List Token)
  | .group .brace body _ => some body
  | _ => none

/-- The blocks of a piece of code, those inside of other groups left out. -/
def blocks (ts : List Token) : List (List Token) := ts.filterMap Token.block?

def firstBlock (ts : List Token) : List Token := (blocks ts).head?.getD []

def lastBlock (ts : List Token) : List Token := (blocks ts).getLast?.getD []

def Token.isSemicolon : Token → Bool
  | .punct ';' _ _ => true
  | _ => false

/-- The code in front of the first semicolon. -/
def firstStatement (ts : List Token) : List Token := ts.takeWhile fun t => !t.isSemicolon

/-! ## Calls -/

structure CallCode where
  /-- The word that the callee is a member of. -/
  owner : Option String
  callee : String
  arguments : List Token

/-- What the last tokens say about arguments that may come next. -/
inductive Front where
  /-- They would be no arguments. -/
  | other
  | word (owner : Option String) (callee : String)
  /-- A dot stands behind a word, and the name of a member must come first. -/
  | member (owner : String)

def Front.next : Front → Token → Front
  | .member owner, .word w _ => .word (some owner) w
  | _, .word w _ => .word none w
  | .word _ w, .punct '.' _ _ => .member w
  | _, _ => .other

mutual

/-- The calls in a token. -/
def Token.calls (front : Front) : Token → List CallCode
  | .group .paren body _ =>
    match front with
    | .word owner callee => [⟨owner, callee, body⟩]
    | _ => callsFrom .other body
  | .group _ body _ => callsFrom .other body
  | _ => []

def callsFrom (front : Front) : List Token → List CallCode
  | [] => []
  | t :: rest => t.calls front ++ callsFrom (front.next t) rest

end

/-- The calls in a piece of code, in order.  The arguments of a call are not looked into. -/
def calls (ts : List Token) : List CallCode := callsFrom .other ts

/-! ## Functions and arms -/

/-- A function, with what stands in front of it and between its parameters and its body. -/
structure FunctionCode where
  attributes : List Token
  name : String
  params : List Token
  result : List Token
  body : List Token

def FunctionCode.tokens (f : FunctionCode) : List Token :=
  f.attributes ++ code "fn" ++ codeWord f.name ++ Token.paren f.params ++ f.result ++
    Token.brace f.body

/-- An arm of a match. -/
structure ArmCode where
  pattern : List Token
  body : List Token

def ArmCode.tokens (a : ArmCode) : List Token := a.pattern ++ code "=>" ++ a.body ++ code ","

/-- The block of an arm in which the receiver is called.  It stands by itself if there is nothing to
read, and else it is what is done with arguments that could be read. -/
def ArmCode.handler (a : ArmCode) (isReading : Bool) : List Token :=
  if isReading then firstBlock (lastBlock a.body) else lastBlock a.body

/-! ## Code without groups -/

/-- Nothing in the code is enclosed by anything. -/
def Flat (ts : List Token) : Prop := ∀ t ∈ ts, ∀ delimiter body p, t ≠ .group delimiter body p

theorem flat_operatorChars (cs : List Char) : Flat (Token.operatorChars cs) := by
  induction cs with
  | nil => exact nofun
  | cons c rest ih =>
    cases rest with
    | nil => simp [Flat, Token.operatorChars]
    | cons c' rest =>
      intro t ht
      rcases List.mem_cons.1 ht with rfl | ht
      · exact nofun
      · exact ih t ht

theorem flat_codePiece (cs : List Char) : Flat (codePiece cs) := by
  unfold codePiece
  split
  · exact nofun
  · simp [Flat, Token.lifetime]
  · split
    · simp [Flat]
    · split
      · simp [Flat]
      · exact flat_operatorChars _

theorem flat_code (text : String) : Flat (code text) := by
  intro t ht
  obtain ⟨cs, -, ht⟩ := List.mem_flatMap.1 ht
  exact flat_codePiece cs t ht

theorem blocks_eq_nil {ts : List Token} (h : Flat ts) : blocks ts = [] := by
  refine List.filterMap_eq_nil_iff.2 fun t ht => ?_
  cases t with
  | group delimiter body p => exact (h _ ht _ _ _ rfl).elim
  | _ => rfl

/-! ## Parts of code -/

section Parts

variable (ts us : List Token)

@[simp] theorem blocks_append : blocks (ts ++ us) = blocks ts ++ blocks us :=
  List.filterMap_append

@[simp] theorem blocks_code (text : String) : blocks (code text) = [] :=
  blocks_eq_nil (flat_code text)

@[simp] theorem blocks_codeWord (word : String) : blocks (codeWord word) = [] := rfl

@[simp] theorem blocks_paren : blocks (Token.paren ts) = [] := rfl

@[simp] theorem blocks_bracket : blocks (Token.bracket ts) = [] := rfl

@[simp] theorem blocks_brace : blocks (Token.brace ts) = [ts] := rfl

theorem firstStatement_append {ts : List Token} (h : ∀ t ∈ ts, t.isSemicolon = false) :
    firstStatement (ts ++ (code ";" ++ us)) = ts := by
  have hend : code ";" = [.punct ';' false none] := by rfl
  rw [firstStatement, List.takeWhile_append_of_pos (by simpa using h), hend]
  simp [Token.isSemicolon]

@[simp] theorem lastBlock_append_brace : lastBlock (us ++ Token.brace ts) = ts := by
  simp [lastBlock]

theorem callsFrom_append (front : Front) :
    callsFrom front (ts ++ us) =
      callsFrom front ts ++ callsFrom (ts.foldl Front.next front) us := by
  induction ts generalizing front with
  | nil => rfl
  | cons t rest ih => rw [List.cons_append, callsFrom, callsFrom, ih, List.append_assoc]; rfl

end Parts

theorem callsFrom_eq_nil {ts : List Token} (h : Flat ts) (front : Front) :
    callsFrom front ts = [] := by
  induction ts generalizing front with
  | nil => rfl
  | cons t rest ih =>
    have hrest : Flat rest := fun u hu => h u (List.mem_cons_of_mem t hu)
    rw [callsFrom, ih hrest, List.append_nil]
    cases t with
    | group delimiter body p => exact (h _ List.mem_cons_self _ _ _ rfl).elim
    | _ => rfl

/-! ## Reading on

Each lemma reads one piece of code and goes on with the rest. -/

section Rest

variable (front : Front) (ts us : List Token)

theorem callsFrom_code (text : String) :
    callsFrom front (code text ++ us) = callsFrom ((code text).foldl Front.next front) us := by
  rw [callsFrom_append, callsFrom_eq_nil (flat_code text), List.nil_append]

theorem callsFrom_codeWord (word : String) :
    callsFrom front (codeWord word ++ us) = callsFrom (front.next (.word word none)) us := rfl

/-- Arguments behind the word that they belong to. -/
theorem callsFrom_arguments (owner : Option String) (callee : String) :
    callsFrom (.word owner callee) (Token.paren ts ++ us) =
      ⟨owner, callee, ts⟩ :: callsFrom .other us := rfl

theorem callsFrom_last_arguments (owner : Option String) (callee : String) :
    callsFrom (.word owner callee) (Token.paren ts) = [⟨owner, callee, ts⟩] := rfl

theorem callsFrom_last_brace : callsFrom front (Token.brace ts) = calls ts := by
  cases front <;> exact List.append_nil _

end Rest

end Relay
