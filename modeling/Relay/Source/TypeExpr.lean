import Relay.Source.Token

/-!
# Type expressions

Types as they are written in a declaration. Those parts are kept as trees that lowering looks into:
paths with their arguments, references, pointers, tuples, arrays and bounds. Signatures of function
types, lengths of arrays and constants among generic arguments are kept as the tokens that spell
them.

`TypeExpr.tokens` spells a type. Operators of several characters are the only joint punctuation, so
the spelling does not depend on how the source was spaced. Among generic arguments the lifetimes
come first, wherever they were written.
-/
namespace Relay

mutual

inductive TypeExpr where
  | path (p : PathExpr)
  | qualified (self : TypeExpr) (rest : List Segment)
  /-- What a type names by way of a trait, as in `<T as Trait>::Item`. -/
  | projected (self : TypeExpr) (via : PathExpr) (rest : List Segment)
  | reference (lifetime : Option String) (isMut : Bool) (elem : TypeExpr)
  | pointer (isMut : Bool) (elem : TypeExpr)
  | slice (elem : TypeExpr)
  | array (elem : TypeExpr) (length : List Token)
  | tuple (elems : List TypeExpr) (trailing : Bool)
  | paren (elem : TypeExpr)
  /-- An invisible group, which an expansion leaves around a fragment. -/
  | group (elem : TypeExpr)
  | function (spelling : List Token)
  /-- A trait object, marked with `dyn` or in the old bare form. -/
  | object (isMarked : Bool) (bounds : List Bound) (trailing : Bool)
  | implement (bounds : List Bound) (trailing : Bool)
  | never
  | infer
  /-- A macro call. -/
  | invocation (path : PathExpr) (body : Token)
  /-- A form that has no tree of its own. -/
  | verbatim (spelling : List Token)

/-- A path of segments, rooted when it starts with `::`. -/
inductive PathExpr where
  | mk (rooted : Bool) (segments : List Segment)

/-- A segment of a path: a word, with its `r#` if it has one, and its arguments. -/
inductive Segment where
  | mk (name : String) (args : Arguments)

/-- The arguments of a segment. -/
inductive Arguments where
  | none
  /-- In angle brackets, perhaps with `::` in front. -/
  | angle (turbofish : Bool) (args : List Argument) (trailing : Bool)
  /-- The signature of a function trait, as in `Fn(i32) -> bool`. -/
  | signature (spelling : List Token)

/-- A generic argument. -/
inductive Argument where
  | lifetime (name : String)
  | type (t : TypeExpr)
  | const (spelling : List Token)
  | binding (segment : Segment) (t : TypeExpr)
  | constBinding (segment : Segment) (spelling : List Token)
  /-- As in `Item: Clone`. -/
  | constraint (segment : Segment) (bounds : List Bound) (trailing : Bool)

inductive Bound where
  | lifetime (name : String)
  /-- A trait, perhaps in parentheses, with the modifiers and binders in front of its path. -/
  | trait (inParens : Bool) (head : List Token) (path : PathExpr)
  /-- A form that has no tree of its own. -/
  | verbatim (spelling : List Token)

end

/-! ### Arguments as spelled -/

namespace Argument

def isLifetime : Argument → Bool
  | lifetime _ => true
  | _ => false

end Argument

/-- A spelled argument: whether it is a lifetime, its tokens, and whether a comma follows it. -/
structure SpelledArgument where
  isLifetime : Bool
  tokens : List Token
  comma : Bool

namespace SpelledArgument

/-- Spells arguments in turn. An argument that was not the last in the source kept its comma; one
that has none gets a comma when another follows. -/
def join (clear : Bool) : List SpelledArgument → List Token
  | [] => []
  | a :: rest =>
    (if clear then [] else Token.operator ",") ++ a.tokens ++
      (if a.comma then Token.operator "," else []) ++ join a.comma rest

/-- Whether arguments end in a comma or are none. -/
def endsClear (args : List SpelledArgument) : Bool :=
  match args.getLast? with
  | some a => a.comma
  | none => true

def lifetimesFirst (args : List SpelledArgument) : List Token :=
  let lifetimes := args.filter (·.isLifetime)
  lifetimes.flatMap (fun a => a.tokens ++ if a.comma then Token.operator "," else []) ++
    join (endsClear lifetimes) (args.filter (!·.isLifetime))

end SpelledArgument

/-! ### Spelling -/

mutual

def TypeExpr.tokens : TypeExpr → List Token
  | .path p => p.tokens
  | .qualified self rest =>
    Token.operator "<" ++ self.tokens ++ Token.operator ">" ++ Token.operator "::" ++
      separated (Token.operator "::") false (tokensOfSegments rest)
  | .projected self via rest =>
    Token.operator "<" ++ self.tokens ++ [Token.word "as" none] ++ via.tokens ++
      Token.operator ">" ++ Token.operator "::" ++
      separated (Token.operator "::") false (tokensOfSegments rest)
  | .reference lifetime isMut elem =>
    Token.operator "&" ++ (match lifetime with
      | some name => Token.lifetime name
      | none => []) ++ (if isMut then [Token.word "mut" none] else []) ++ elem.tokens
  | .pointer isMut elem =>
    Token.operator "*" ++ [Token.word (if isMut then "mut" else "const") none] ++ elem.tokens
  | .slice elem => Token.bracket elem.tokens
  | .array elem length => Token.bracket (elem.tokens ++ Token.operator ";" ++ length)
  | .tuple elems trailing => Token.paren (commaSeparated trailing (tokensOfTypes elems))
  | .paren elem => Token.paren elem.tokens
  | .group elem => [Token.group .invisible elem.tokens none]
  | .function spelling => spelling
  | .object isMarked bounds trailing =>
    (if isMarked then [Token.word "dyn" none] else []) ++
      separated (Token.operator "+") trailing (tokensOfBounds bounds)
  | .implement bounds trailing =>
    [Token.word "impl" none] ++ separated (Token.operator "+") trailing (tokensOfBounds bounds)
  | .never => Token.operator "!"
  | .infer => [Token.word "_" none]
  | .invocation path body => path.tokens ++ Token.operator "!" ++ [body]
  | .verbatim spelling => spelling

/-- The tokens that spell types, each on its own. -/
def tokensOfTypes : List TypeExpr → List (List Token)
  | [] => []
  | t :: rest => t.tokens :: tokensOfTypes rest

def PathExpr.tokens : PathExpr → List Token
  | .mk rooted segments =>
    (if rooted then Token.operator "::" else []) ++
      separated (Token.operator "::") false (tokensOfSegments segments)

/-- The tokens that spell segments, each on its own. -/
def tokensOfSegments : List Segment → List (List Token)
  | [] => []
  | s :: rest => s.tokens :: tokensOfSegments rest

def Segment.tokens : Segment → List Token
  | .mk name args => Token.word name none :: args.tokens

/-- The tokens that spell the arguments of a segment. -/
def Arguments.tokens : Arguments → List Token
  | .none => []
  | .angle turbofish args trailing =>
    (if turbofish then Token.operator "::" else []) ++ Token.operator "<" ++
      SpelledArgument.lifetimesFirst (spelledArguments trailing args) ++ Token.operator ">"
  | .signature spelling => spelling

def spelledArguments (trailing : Bool) : List Argument → List SpelledArgument
  | [] => []
  | a :: rest =>
    ⟨a.isLifetime, a.tokens, !rest.isEmpty || trailing⟩ :: spelledArguments trailing rest

/-- The tokens that spell a generic argument. -/
def Argument.tokens : Argument → List Token
  | .lifetime name => Token.lifetime name
  | .type t => t.tokens
  | .const spelling => spelling
  | .binding segment t => segment.tokens ++ Token.operator "=" ++ t.tokens
  | .constBinding segment spelling => segment.tokens ++ Token.operator "=" ++ spelling
  | .constraint segment bounds trailing =>
    segment.tokens ++ Token.operator ":" ++
      separated (Token.operator "+") trailing (tokensOfBounds bounds)

def Bound.tokens : Bound → List Token
  | .lifetime name => Token.lifetime name
  | .trait inParens head path =>
    if inParens then Token.paren (head ++ path.tokens) else head ++ path.tokens
  | .verbatim spelling => spelling

/-- The tokens that spell bounds, each on its own. -/
def tokensOfBounds : List Bound → List (List Token)
  | [] => []
  | b :: rest => b.tokens :: tokensOfBounds rest

end

def TypeExpr.text (t : TypeExpr) : String := textOfTokens t.tokens

namespace PathExpr

def isRooted : PathExpr → Bool
  | mk rooted _ => rooted

def segments : PathExpr → List Segment
  | mk _ segments => segments

/-- A path of words without arguments. -/
def ofNames (rooted : Bool) (names : List String) : PathExpr :=
  mk rooted (names.map fun name => .mk name .none)

def snoc (p : PathExpr) (s : Segment) : PathExpr := mk p.isRooted (p.segments ++ [s])

def text (p : PathExpr) : String := textOfTokens p.tokens

end PathExpr

namespace Segment

def name : Segment → String
  | mk name _ => name

def args : Segment → Arguments
  | mk _ args => args

end Segment

end Relay
