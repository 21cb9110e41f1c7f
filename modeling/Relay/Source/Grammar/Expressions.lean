import Relay.Source.Grammar.Patterns

/-!
# The grammar of expressions

An expression is a chain of operands with operators between them. How the operators group is not
recorded, because it shows neither in the spelling nor in what is refused, with two exceptions:
comparisons do not follow one another without parentheses, and a range is no operand of another
range or of an assignment.

Where a block must follow, as behind the condition of an `if`, a structure literal would take that
block for its fields; the readers take a flag that says whether such literals are allowed.
-/
namespace Relay.Grammar

open Relay.Parser

variable (g : Grammar)

/-! ### Operators between operands -/

/-- How an operator between operands behaves in a chain. -/
inductive Link where
  | assignment | range | logic | comparison | arithmetic | cast
deriving DecidableEq, Repr

/-- The operators between operands, each in front of those that it starts with. -/
def links : List (String × Link) := [
  ("<<=", .assignment), (">>=", .assignment), ("+=", .assignment), ("-=", .assignment),
  ("*=", .assignment), ("/=", .assignment), ("%=", .assignment), ("^=", .assignment),
  ("&=", .assignment), ("|=", .assignment), ("&&", .logic), ("||", .logic), ("<<", .arithmetic),
  (">>", .arithmetic), ("==", .comparison), ("<=", .comparison), ("!=", .comparison),
  (">=", .comparison), ("+", .arithmetic), ("-", .arithmetic), ("*", .arithmetic),
  ("/", .arithmetic), ("%", .arithmetic), ("^", .arithmetic), ("&", .arithmetic),
  ("|", .arithmetic), ("<", .comparison), (">", .comparison), ("=", .assignment), ("..=", .range),
  ("..", .range)]

/-- The operator between operands that comes next. -/
def nextLink? (ts : List Token) : Option (String × Link) :=
  if Ahead.operator "=>" ts then none
  else if Ahead.keyword "as" ts then some ("as", .cast)
  else links.find? fun link => Ahead.operator link.1 ts

/-- The end of a range may be missing here. -/
def lacksOperand (structs : Bool) (ts : List Token) : Bool :=
  ts.isEmpty || Ahead.anyOperator [",", ";", "?", "=", "+"] ts || Ahead.keyword "as" ts ||
    (Ahead.operator "." ts && !Ahead.operator ".." ts) ||
    (!structs && Ahead.group .brace ts)

/-- Something that reads the value of a cast follows, which needs parentheses around the cast. -/
def readsCast (ts : List Token) : Bool :=
  (Ahead.operator "." ts && !Ahead.operator ".." ts) || Ahead.operator "?" ts ||
    Ahead.group .bracket ts || Ahead.group .paren ts

/-- The start of an expression comes next. -/
def startsExpression (ts : List Token) : Bool :=
  (Ahead.anyWord ts && !Ahead.keyword "as" ts) || Ahead.literal ts || Ahead.lifetime ts ||
    Ahead.group .paren ts || Ahead.group .bracket ts || Ahead.group .brace ts ||
    Ahead.anyOperator ["..", "::", "#"] ts ||
    (Ahead.operator "!" ts && !Ahead.operator "!=" ts) ||
    (Ahead.operator "-" ts && !Ahead.anyOperator ["-=", "->"] ts) ||
    (Ahead.operator "*" ts && !Ahead.operator "*=" ts) ||
    (Ahead.operator "|" ts && !Ahead.operator "|=" ts) ||
    (Ahead.operator "&" ts && !Ahead.operator "&=" ts) ||
    (Ahead.operator "<" ts && !Ahead.anyOperator ["<=", "<<="] ts)

/-! ### Trailers -/

/-- Something that belongs to the operand in front of it comes next. -/
def startsTrailer (ts : List Token) : Bool :=
  Ahead.group .paren ts || Ahead.group .bracket ts || Ahead.operator "?" ts ||
    (Ahead.operator "." ts && !Ahead.operator ".." ts)

/-- The numbers of nested fields that were read as one literal, as in `x.0.1`. -/
def spellFields (literal : String) : List Token :=
  separated (Token.operator ".") false
    ((literal.splitOn ".").map fun index => [.literal index none])

/-- A call, an index, a field, a method with its generic arguments, or a question mark. -/
def trailer : Speller := do
  if ← sees (Ahead.group .paren) then spellGroup .paren (spellCommas (g.expression true))
  else if ← sees (Ahead.group .bracket) then spellGroup .bracket (g.expression true)
  else if ← sees (Ahead.operator "?") then spellOperator "?"
  else
    let dot ← spellOperator "."
    match ← get with
    | .literal l _ :: rest =>
      if l.toList.all fun c => ('0' ≤ c && c ≤ '9') || c == '.' then
        set rest
        return dot ++ spellFields l
      else refuse
    | _ =>
      if ← sees (Ahead.keyword "await") then return dot ++ (← spellWord)
      else
        let member ← spellName
        if ← sees (Ahead.operator "::") then
          let args ← g.angle
          expect (Ahead.group .paren)
          return dot ++ member ++ args.tokens
        else return dot ++ member

/-- What belongs to the operand in front. -/
def trailers : Speller := return (← repeatWhile startsTrailer g.trailer).flatten

/-! ### Operands -/

/-- A closure comes next. -/
def startsClosure (ts : List Token) : Bool :=
  let rest := Ahead.skip ts
  Ahead.operator "|" ts || Ahead.anyKeyword ["move", "static"] ts ||
    (Ahead.keyword "const" ts && !Ahead.group .brace rest) ||
    (Ahead.keyword "async" ts && (Ahead.operator "|" rest || Ahead.keyword "move" rest)) ||
    (Ahead.keyword "for" ts && Ahead.operator "<" rest)

def closureParam : Speller := do
  let attributes ← g.outerAttributes
  let p ← g.pattern
  if ← operator? ":" then
    return attributes ++ p.spelling ++ Token.operator ":" ++ (← g.type true).tokens
  else return attributes ++ p.spelling

/-- A closure. One that says what it returns has a block for its body. -/
def closure (structs : Bool) : Speller := do
  let bound ← if ← sees (Ahead.keyword "for") then g.binder else pure []
  let marks := (← spellKeyword? "const") ++ (← spellKeyword? "static") ++
    (← spellKeyword? "async") ++ (← spellKeyword? "move")
  let first ← spellOperator "|"
  let row ← rowUntil (Ahead.operator "|") "," g.closureParam
  let second ← spellOperator "|"
  let head := bound ++ marks ++ first ++ spellRow "," row ++ second
  match ← g.returnType true with
  | some t => return head ++ Token.operator "->" ++ t.tokens ++ (← g.block)
  | none => return head ++ (← g.expression structs)

/-- A field of a structure literal. -/
def fieldValue : Speller := do
  let attributes ← g.outerAttributes
  let isIndex ← sees startsIndex
  let field ← fieldName
  if isIndex || (← sees (Ahead.operator ":")) then
    return attributes ++ field ++ (← spellOperator ":") ++ (← g.expression true)
  else return attributes ++ field

/-- The fields of a structure literal, perhaps with a structure to take the rest from. -/
def fieldValues : Speller := do
  let row ← rowUntil (fun ts => ts.isEmpty || Ahead.operator ".." ts) "," g.fieldValue
  if ← sees Ahead.nothing then return spellRow "," row
  else if row.items.isEmpty || row.trailing then
    let dots ← spellOperator ".."
    if ← sees Ahead.nothing then return spellRow "," row ++ dots
    else return spellRow "," row ++ dots ++ (← g.expression true)
  else refuse

/-- A path, a macro call or a structure literal. -/
def pathOperand (structs : Bool) : Speller := do
  let p ← g.typePath true
  let isMacro ← sees fun ts => Ahead.operator "!" ts && !Ahead.operator "!=" ts
  match p, isMacro with
  | .path p, true =>
    if isSimple p then
      operator "!"
      return p.tokens ++ Token.operator "!" ++ [← anyGroup]
    else return p.tokens
  | _, _ =>
    if structs && (← sees (Ahead.group .brace)) then
      return p.tokens ++ (← spellGroup .brace g.fieldValues)
    else return p.tokens

/-- Elements between commas, or an element and a count. -/
def elements : Speller := do
  if ← sees Ahead.nothing then return []
  else
    let first ← g.expression true
    if ← sees (Ahead.operator ";") then
      return first ++ (← spellOperator ";") ++ (← g.expression true)
    else if ← sees Ahead.nothing then return first
    else return first ++ (← spellOperator ",") ++ (← spellCommas (g.expression true))

/-! ### Forms that end in a block -/

/-- A condition and the block that depends on it. -/
def branch : Speller := return (← spellKeyword "if") ++ (← g.expression false) ++ (← g.block)

def conditional : Speller := do
  let first ← g.branch
  let others ← repeatWhile
    (fun ts => Ahead.keyword "else" ts && Ahead.keyword "if" (Ahead.skip ts)) (do
    return (← spellKeyword "else") ++ (← g.branch))
  if ← sees (Ahead.keyword "else") then
    return first ++ others.flatten ++ (← spellKeyword "else") ++ (← g.block)
  else return first ++ others.flatten

/-- An arm of a match. A comma must follow unless the result ends in a block or the arm is last. -/
def arm : Speller := do
  let attributes ← g.outerAttributes
  let p ← g.alternatives
  let guarded ← if ← sees (Ahead.keyword "if") then do
      pure ((← spellKeyword "if") ++ (← g.expression true))
    else pure []
  let arrow ← spellOperator "=>"
  let result ← g.early
  let optional ← sees Ahead.nothing
  let comma ← if result.endsItself || optional then spellOperator? "," else spellOperator ","
  return attributes ++ p.spelling ++ guarded ++ arrow ++ result.spelling ++ comma

def arms : Speller := do
  let inner ← g.innerAttributes
  return inner ++ (← repeatWhile (fun ts => !ts.isEmpty) g.arm).flatten

/-- A form that ends in a block comes next. -/
def startsBlockForm (ts : List Token) : Bool :=
  let rest := Ahead.skip ts
  Ahead.anyKeyword ["if", "while", "loop", "match"] ts || Ahead.group .brace ts ||
    Ahead.lifetime ts || (Ahead.keyword "for" ts && !Ahead.operator "<" rest) ||
    (Ahead.anyKeyword ["unsafe", "try", "const"] ts && Ahead.group .brace rest)

/-- A form that ends in a block. Only loops and plain blocks can be named. -/
def blockForm : Speller := do
  let label ← if ← sees Ahead.lifetime then do
      pure (Token.lifetime (← lifetime) ++ (← spellOperator ":"))
    else pure []
  if ← sees (Ahead.keyword "while") then
    return label ++ (← spellKeyword "while") ++ (← g.expression false) ++ (← g.block)
  else if ← sees (Ahead.keyword "for") then
    let head := (← spellKeyword "for") ++ (← g.alternatives).spelling ++ (← spellKeyword "in")
    return label ++ head ++ (← g.expression false) ++ (← g.block)
  else if ← sees (Ahead.keyword "loop") then return label ++ (← spellKeyword "loop") ++ (← g.block)
  else if ← sees (Ahead.group .brace) then return label ++ (← g.block)
  else if !label.isEmpty then refuse
  else if ← sees (Ahead.keyword "if") then g.conditional
  else if ← sees (Ahead.keyword "match") then
    let head := (← spellKeyword "match") ++ (← g.expression false)
    return head ++ (← spellGroup .brace g.arms)
  else
    expect (Ahead.anyKeyword ["unsafe", "try", "const"])
    return (← spellWord) ++ (← g.block)

/-! ### Operands and chains -/

/-- What leaves a block or function, with a value perhaps. -/
def leave (structs : Bool) : Speller := do
  let word ← spellWord
  let label ← spellLifetime?
  let valued ← sees fun ts => startsExpression ts && (structs || !Ahead.group .brace ts)
  if valued then return word ++ label ++ (← g.expression structs) else return word ++ label

/-- An operand without what belongs to it. -/
def atom (structs : Bool) : Speller := do
  if ← sees startsBlockForm then g.blockForm
  else if ← sees Ahead.literal then spellLiteral
  else if ← sees (fun ts => Ahead.keyword "async" ts && (Ahead.group .brace (Ahead.skip ts) ||
      (Ahead.keyword "move" (Ahead.skip ts) &&
        Ahead.group .brace (Ahead.skip (Ahead.skip ts))))) then
    return (← spellKeyword "async") ++ (← spellKeyword? "move") ++ (← g.block)
  else if ← sees startsClosure then g.closure structs
  else if ← sees (fun ts => startsPath ts || Ahead.keyword "try" ts) then g.pathOperand structs
  else if ← sees (Ahead.group .paren) then spellGroup .paren (spellCommas (g.expression true))
  else if ← sees (Ahead.group .bracket) then spellGroup .bracket g.elements
  else if ← sees (Ahead.keyword "let") then
    let head := (← spellKeyword "let") ++ (← g.alternatives).spelling ++ (← spellOperator "=")
    return head ++ (← g.operand false)
  else if ← sees (Ahead.anyKeyword ["return", "become", "yield"]) then g.leave true
  else if ← sees (Ahead.keyword "break") then g.leave structs
  else if ← sees (Ahead.keyword "continue") then return (← spellWord) ++ (← spellLifetime?)
  else spellKeyword "_"

/-- An operand with the operators in front of it and what belongs to it. -/
def operandForm (structs : Bool) : Speller := do
  let attributes ← g.outerAttributes
  if ← sees (Ahead.operator "&") then
    let head ← spellOperator "&"
    let isRaw ← sees fun ts =>
      Ahead.keyword "raw" ts && Ahead.anyKeyword ["mut", "const"] (Ahead.skip ts)
    let marks ← if isRaw then do pure ((← spellWord) ++ (← spellWord)) else spellKeyword? "mut"
    return attributes ++ head ++ marks ++ (← g.operand structs)
  else if ← sees (Ahead.operator "*") then
    return attributes ++ (← spellOperator "*") ++ (← g.operand structs)
  else if ← sees (Ahead.operator "!") then
    return attributes ++ (← spellOperator "!") ++ (← g.operand structs)
  else if ← sees (fun ts => Ahead.operator "-" ts) then
    return attributes ++ (← spellOperator "-") ++ (← g.operand structs)
  else if ← sees (Ahead.operator "..") then
    let (dots, closed) ← rangeOperator false
    if !closed && (← sees (lacksOperand structs)) then return attributes ++ dots
    else return attributes ++ dots ++ (← g.operand structs)
  else return attributes ++ (← g.atom structs) ++ (← g.trailers)

/-- The operators and operands that go on with a chain, given whether it holds a range and whether
the operand in front ends a comparison. -/
def chainUpTo (structs : Bool) : (limit : Nat) → (ranged compared : Bool) → Speller
  | 0, _, _ => return []
  | limit + 1, ranged, compared => do
    let step (text : String) (ranged compared : Bool) : Speller := do
      let link ← spellOperator text
      let right ← g.operandForm structs
      return link ++ right ++ (← chainUpTo structs limit ranged compared)
    match nextLink? (← get) with
    | none => return []
    | some (text, .assignment) => if ranged then return [] else step text false false
    | some (text, .logic) => step text ranged false
    | some (text, .comparison) => if compared then refuse else step text ranged true
    | some (text, .arithmetic) => step text ranged compared
    | some (_, .range) =>
      if ranged then return []
      else
        let (dots, closed) ← rangeOperator false
        if !closed && (← sees (lacksOperand structs)) then return dots
        else
          let right ← g.operandForm structs
          return dots ++ right ++ (← chainUpTo structs limit true false)
    | some (_, .cast) =>
      let link ← spellKeyword "as"
      let t ← g.type false
      expect fun ts => !readsCast ts
      return link ++ t.tokens ++ (← chainUpTo structs limit ranged compared)

/-- What goes on with a chain behind its first operand. -/
def chain (structs ranged : Bool) : Speller := do
  g.chainUpTo structs (← get).length ranged false

def expressionForm (structs : Bool) : Speller := do
  let ranged ← sees (Ahead.operator "..")
  return (← g.operandForm structs) ++ (← g.chain structs ranged)

/-- An expression at the start of a statement or as the result of a match arm. A form that ends in a
block is complete there, unless something that belongs to it follows. -/
def earlyForm : Parser EarlyPhrase := do
  let attributes ← g.outerAttributes
  if ← sees startsBlockForm then
    let form ← g.blockForm
    let goesOn ← sees fun ts =>
      (Ahead.operator "." ts && !Ahead.operator ".." ts) || Ahead.operator "?" ts
    if goesOn then
      return ⟨attributes ++ form ++ (← g.trailers) ++ (← g.chain true false), false⟩
    else return ⟨attributes ++ form, true⟩
  else return ⟨attributes ++ (← g.expressionForm true), false⟩

end Relay.Grammar
