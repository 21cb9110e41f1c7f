import Relay.Generator.Diagnostic
import Relay.Interface.KnownTypes
import Relay.Source.Reading

/-!
# Attribute arguments

What may be written between the parentheses of the attribute that asks for a proxy: the name of the
proxy, the names of records and of types with a byte form, and the path of the runtime library. The
arguments come in any order and any number of times; the last name and the last path count, and all
lists together.
-/
namespace Relay

/-- What is wrong with the arguments of an attribute. -/
inductive ArgumentFault where
  /-- There is no such argument. -/
  | unknown
  /-- An argument must follow, and nothing does. -/
  | absent
  | literal
  /-- Something else stands where an argument must start. -/
  | token
  | noMark (mark : String)
  /-- Something else is missing, perhaps because nothing follows at all. -/
  | missing (what : String) (atEnd : Bool)
  /-- A kept word stands where a name must. -/
  | reserved (word : String)
deriving DecidableEq, Repr

namespace ArgumentFault

/-- The text in front of what is missing where nothing follows. -/
def endOfInput : String := "unexpected end of input, "

def message : ArgumentFault → String
  | unknown => "expected `name`, `records`, `serial` or `crate`"
  | absent => endOfInput ++ "expected nested attribute"
  | literal => "unexpected literal in nested attribute, expected ident"
  | token => "unexpected token in nested attribute, expected ident"
  | noMark mark => "expected `" ++ mark ++ "`"
  | missing what atEnd => (if atEnd then endOfInput else "") ++ "expected " ++ what
  | reserved word => "expected identifier, found keyword `" ++ word ++ "`"

end ArgumentFault

inductive AttributeArgument where
  | name (text : String)
  | records (names : List String)
  /-- Names of types with a byte form. -/
  | serializables (names : List String)
  | runtime (path : PathExpr)

/-- What the arguments of an attribute come to. -/
structure AttributeArguments where
  name : Option String
  known : KnownTypes
  runtime : Option PathExpr

namespace AttributeArguments

def empty : AttributeArguments := ⟨none, .none, none⟩

/-- The arguments with one more behind them. -/
def add (args : AttributeArguments) : AttributeArgument → AttributeArguments
  | .name text => { args with name := some text }
  | .records names =>
    { args with known := { args.known with records := args.known.records ++ names } }
  | .serializables names =>
    { args with known := { args.known with serializables := args.known.serializables ++ names } }
  | .runtime path => { args with runtime := some path }

/-- What arguments come to, in order. -/
def ofList (args : List AttributeArgument) : AttributeArguments := args.foldl add empty

end AttributeArguments

/-! ### Reading arguments -/

/-- Reads something from the front of the tokens of an attribute, or tells what is wrong. -/
abbrev ArgumentReader (α : Type) := StateT (List Token) (Except ArgumentFault) α

namespace ArgumentReader

variable {α : Type}

/-- Whether a test holds of what comes next. -/
def sees (test : List Token → Bool) : ArgumentReader Bool := return test (← get)

/-- Tells that something is missing here. -/
def lacks (what : String) : ArgumentReader α := do
  throw (.missing what (← get).isEmpty)

def mark (text : String) : ArgumentReader Unit := do
  match Parser.operator text (← get) with
  | some (_, rest) => set rest
  | none => throw (.noMark text)

/-- Reads any word, kept ones included. -/
def word : ArgumentReader String := do
  match Parser.anyWord (← get) with
  | some (w, rest) =>
    set rest
    return w.word
  | none => lacks "ident"

/-- The words behind the first of a path, as many as there are marks for. -/
def moreWords : (limit : Nat) → ArgumentReader (List String)
  | 0 => return []
  | limit + 1 => do
    if ← sees (Ahead.operator "::") then
      mark "::"
      let w ← word
      return w :: (← moreWords limit)
    else return []

/-- What an argument starts with: a path of any words. -/
structure Heading where
  isRooted : Bool
  first : String
  more : List String

/-- Whether a heading is just a certain word. -/
def Heading.isJust (h : Heading) (text : String) : Bool :=
  !h.isRooted && h.first == text && h.more.isEmpty

def Heading.last (h : Heading) : String := h.more.getLast?.getD h.first

/-- Reads what an argument starts with. -/
def heading : ArgumentReader Heading := do
  let isRooted ← sees (Ahead.operator "::")
  if isRooted then mark "::"
  if ← sees Ahead.anyWord then
    let first ← word
    return ⟨isRooted, first, ← moreWords (← get).length⟩
  else if ← sees Ahead.nothing then throw .absent
  else if ← sees Ahead.literal then throw .literal
  else throw .token

/-- Items between commas, up to the end, at least one. -/
def itemsUpTo (item : ArgumentReader α) : (limit : Nat) → ArgumentReader (List α)
  | 0 => return [← item]
  | limit + 1 => do
    let x ← item
    if ← sees Ahead.nothing then return [x]
    else
      mark ","
      if ← sees Ahead.nothing then return [x] else return x :: (← itemsUpTo item limit)

/-- Items between commas, up to the end, at least one. -/
def items (item : ArgumentReader α) : ArgumentReader (List α) := do
  itemsUpTo item (← get).length

/-- Reads a string literal. -/
def string : ArgumentReader String := do
  match ← get with
  | .literal l _ :: rest =>
    match Literal.stringValue? l with
    | some text =>
      set rest
      return text
    | none => lacks "string literal"
  | _ => lacks "string literal"

/-- Reads the last words of paths in parentheses. -/
def names : ArgumentReader (List String) := do
  match ← get with
  | .group .paren body _ :: rest =>
    match items (return (← heading).last) body with
    | .ok (names, _) =>
      set rest
      return names
    | .error fault => throw fault
  | _ => lacks "parentheses"

/-- Why tokens do not start with a path: what stands where a segment must be. -/
def pathFault : List Token → ArgumentFault
  | [] => .missing "identifier" true
  | .word w _ :: .punct ':' true _ :: .punct ':' _ _ :: rest =>
    if isName w || (Grammar.pathKeywords ++ ["try"]).contains w then pathFault rest else .reserved w
  | .word w _ :: _ =>
    if isName w || (Grammar.pathKeywords ++ ["try"]).contains w then .missing "identifier" false
    else .reserved w
  | _ => .missing "identifier" false

/-- Reads the path of a library. -/
def path : ArgumentReader PathExpr := do
  let ts ← get
  match (Grammar.forTokens ts).path false ts with
  | some (p, rest) =>
    set rest
    return p
  | none =>
    if Ahead.operator "::" ts then throw (pathFault (Ahead.skip (Ahead.skip ts)))
    else throw (pathFault ts)

def argument : ArgumentReader AttributeArgument := do
  let h ← heading
  if h.isJust "name" then
    mark "="
    return .name (← string)
  else if h.isJust "records" then return .records (← names)
  else if h.isJust "serial" then return .serializables (← names)
  else if h.isJust "crate" then
    mark "="
    return .runtime (← path)
  else throw .unknown

end ArgumentReader

def AttributeArguments.ofTokens (ts : List Token) : Except ArgumentFault AttributeArguments :=
  if ts.isEmpty then .ok .empty
  else
    match ArgumentReader.items ArgumentReader.argument ts with
    | .ok (args, _) => .ok (.ofList args)
    | .error fault => .error fault

end Relay
