import Relay.Source.Grammar

/-!
# The grammar of types

Paths with arguments, bounds, and the forms of types.

Arguments in angle brackets may follow a segment of a path directly in a type, and behind `::` in an
expression. A signature in parentheses may follow the last segment of a bound, and of no other path.
-/
namespace Relay.Grammar

open Relay.Parser

variable (g : Grammar)

/-! ### Generic arguments and paths -/

/-- A bound comes next. -/
def startsBound (ts : List Token) : Bool :=
  Ahead.anyWord ts || Ahead.operator "::" ts || Ahead.operator "?" ts || Ahead.lifetime ts ||
    Ahead.group .paren ts

/-- Arguments in angle brackets follow a segment. -/
def startsAngle (inExpression : Bool) (ts : List Token) : Bool :=
  (!inExpression && Ahead.operator "<" ts && !Ahead.anyOperator ["<=", "<<="] ts) ||
    (Ahead.operator "::" ts && Ahead.operator "<" (Ahead.skip (Ahead.skip ts)))

/-- A constant comes next among generic arguments. -/
def startsConst (ts : List Token) : Bool := Ahead.literal ts || Ahead.group .brace ts

/-- A constant among generic arguments: a literal or a block. -/
def constArgument : Speller := do
  if ← sees Ahead.literal then spellLiteral else g.block

/-- Another segment of a path follows. -/
def startsNextSegment (ts : List Token) : Bool :=
  Ahead.operator "::" ts && !Ahead.group .paren (Ahead.skip (Ahead.skip ts))

def segmentWith (angle : Parser Arguments) (inExpression : Bool) : Parser Segment := do
  if ← sees (Ahead.anyKeyword ["super", "self", "crate", "try"]) then
    return .mk (← anyWord).word .none
  else
    let word ← if ← sees (Ahead.keyword "Self") then anyWord else placedName
    if ← sees (startsAngle inExpression) then return .mk word.word (← angle)
    else return .mk word.word .none

def pathWith (angle : Parser Arguments) (inExpression : Bool) : Parser PathExpr := do
  let rooted ← operator? "::"
  let first ← segmentWith angle inExpression
  let rest ← repeatWhile startsNextSegment (do
    operator "::"
    segmentWith angle inExpression)
  return .mk rooted (first :: rest)

/-- The lifetimes and types that a `for` binds, as spelled. -/
def binder : Speller := do
  let head ← spellKeyword "for"
  let open_ ← spellOperator "<"
  let row ← rowUntil (Ahead.operator ">") "," (do
    let attributes ← g.outerAttributes
    if ← sees Ahead.lifetime then
      let name ← lifetime
      let bounds ← if ← sees (Ahead.operator ":") then do
          let colon ← spellOperator ":"
          let row ← rowWhile (fun ts => Ahead.operator "," ts || Ahead.operator ">" ts) "+"
            (return Token.lifetime (← lifetime))
          pure (colon ++ spellRow "+" row)
        else pure []
      return attributes ++ Token.lifetime name ++ bounds
    else return attributes ++ (← spellName))
  return head ++ open_ ++ spellRow "," row ++ (← spellOperator ">")

def returnType (plus : Bool) : Parser (Option TypeExpr) := do
  if ← operator? "->" then return some (← g.type plus) else return none

def spellReturn : Speller := do
  match ← g.returnType false with
  | some t => return Token.operator "->" ++ t.tokens
  | none => return []

/-- The signature of a function trait. -/
def signatureArgs : Speller := do
  let inputs ← spellGroup .paren (spellCommas (return (← g.type true).tokens))
  return inputs ++ (← g.spellReturn)

def traitBoundWith (angle : Parser Arguments) (inParens : Bool) : Parser Bound := do
  let head ← if ← sees (Ahead.keyword "for") then g.binder else spellOperator? "?"
  let p ← pathWith angle false
  match p.segments.getLast? with
  | some (.mk name .none) =>
    let isSignature ← sees fun ts => Ahead.group .paren ts ||
      (Ahead.operator "::" ts && Ahead.group .paren (Ahead.skip (Ahead.skip ts)))
    if isSignature then
      let _ ← operator? "::"
      let args := Arguments.signature (← g.signatureArgs)
      return .trait inParens head (.mk p.isRooted (p.segments.dropLast ++ [.mk name args]))
    else return .trait inParens head p
  | _ => return .trait inParens head p

/-- A bound, given the reader of arguments. A list of captured names is a bound of opaque types
only. -/
def boundWith (angle : Parser Arguments) (captures : Bool) : Parser Bound := do
  if ← sees Ahead.lifetime then return .lifetime (← lifetime)
  else if ← sees (Ahead.keyword "use") then
    if captures then
      let head ← spellKeyword "use"
      let open_ ← spellOperator "<"
      let row ← rowUntil (Ahead.operator ">") "," (do
        if ← sees Ahead.lifetime then return Token.lifetime (← lifetime)
        else if ← sees (Ahead.keyword "Self") then spellWord
        else spellName)
      return .verbatim (head ++ open_ ++ spellRow "," row ++ (← spellOperator ">"))
    else refuse
  else if ← sees (Ahead.group .paren) then inGroup .paren (g.traitBoundWith angle true)
  else g.traitBoundWith angle false

/-- A generic argument, given the reader of arguments. A single segment may turn out to name what is
bound or constrained. -/
def argumentWith (angle : Parser Arguments) : Parser Argument := do
  if ← sees (fun ts => Ahead.lifetime ts && !Ahead.operator "+" (Ahead.skip ts)) then
    return .lifetime (← lifetime)
  else if ← sees startsConst then return .const (← g.constArgument)
  else
    match ← g.type true with
    | .path (.mk false [s]) =>
      if ← operator? "=" then
        if ← sees startsConst then return .constBinding s (← g.constArgument)
        else return .binding s (← g.type true)
      else if ← operator? ":" then
        let row ← rowWhile (fun ts => Ahead.operator "," ts || Ahead.operator ">" ts) "+"
          (g.boundWith angle false)
        return .constraint s row.items row.trailing
      else return .type (.path (.mk false [s]))
    | t => return .type t

/-- Arguments in angle brackets. The arguments of a constraint's bounds stand one level deeper. -/
def angleUpTo : (levels : Nat) → Parser Arguments
  | 0 => refuse
  | levels + 1 => do
    let turbofish ← operator? "::"
    operator "<"
    let row ← rowUntil (Ahead.operator ">") "," (g.argumentWith (angleUpTo levels))
    operator ">"
    return .angle turbofish row.items row.trailing

def angle : Parser Arguments := do angleUpTo g (← get).length

/-- A path, with arguments as they are written in types or in expressions. -/
def path (inExpression : Bool) : Parser PathExpr := pathWith g.angle inExpression

def segment (inExpression : Bool) : Parser Segment := segmentWith g.angle inExpression

def bound (captures : Bool) : Parser Bound := g.boundWith g.angle captures

/-- A path, perhaps starting from a type in angle brackets. -/
def typePath (inExpression : Bool) : Parser TypeExpr := do
  if ← operator? "<" then
    let self ← g.type true
    let via ← if ← keyword? "as" then do pure (some (← g.path false)) else pure none
    operator ">"
    operator "::"
    let first ← g.segment inExpression
    let rest ← repeatWhile (Ahead.operator "::") (do
      operator "::"
      g.segment inExpression)
    match via with
    | some p => return .projected self p (first :: rest)
    | none => return .qualified self (first :: rest)
  else return .path (← g.path inExpression)

/-! ### Bounds of objects and opaque types -/

def isLifetimeBound : Bound → Bool
  | .lifetime _ => true
  | _ => false

/-- One bound, or a row of them where `plus` says so. One must be more than a lifetime. -/
def objectBounds (plus captures : Bool) : Parser (Row Bound) := do
  let row ←
    if plus then rowWhile (fun ts => !startsBound ts) "+" (g.bound captures)
    else do pure ⟨[← g.bound captures], false⟩
  if row.items.all isLifetimeBound then refuse else return row

/-- Further bounds behind a plus sign that has been seen. -/
def moreBounds : Parser (Row Bound) := do
  operator "+"
  rowWhile (fun ts => !startsBound ts) "+" (g.bound false)

/-! ### Forms of types -/

/-- The parameters of a function pointer, as spelled. -/
def pointerParam : Speller := do
  let attributes ← g.outerAttributes
  let named ← sees fun ts =>
    (Ahead.name ts || Ahead.keyword "_" ts || Ahead.keyword "self" ts) &&
      Ahead.operator ":" (Ahead.skip ts) && !Ahead.operator "::" (Ahead.skip ts)
  let head ← if named then do pure ((← spellWord) ++ (← spellOperator ":")) else pure []
  if ← sees (Ahead.operator "...") then return attributes ++ head ++ (← spellOperator "...")
  else return attributes ++ head ++ (← g.type true).tokens

/-- The name of a calling convention, if one is given. -/
def abi : Speller := do
  let head ← spellKeyword? "extern"
  if !head.isEmpty && (← sees Ahead.string) then return head ++ (← spellLiteral) else return head

def functionPointer (binder : List Token) : Parser TypeExpr := do
  let safety ← spellKeyword? "unsafe"
  let convention ← abi
  let head ← spellKeyword "fn"
  let params ← spellGroup .paren (spellCommas g.pointerParam)
  return .function (binder ++ safety ++ convention ++ head ++ params ++ (← g.spellReturn))

/-- What parentheses hold: nothing, a type, a tuple of types, or the first of a row of bounds. -/
inductive InParens where
  | types (row : Row TypeExpr)
  | bound (b : Bound)

/-- The inside of parentheses. -/
def inParens : Parser InParens := do
  if ← sees Ahead.lifetime then
    let row ← g.objectBounds true false
    return .types ⟨[.object false row.items row.trailing], false⟩
  else if ← sees (Ahead.operator "?") then return .bound (← g.traitBoundWith g.angle true)
  else return .types (← commaRow (g.type true))

/-- The bound that a type in parentheses is, where a row of bounds goes on behind it. -/
def boundOf? : TypeExpr → Option Bound
  | .path p => some (.trait true [] p)
  | .object false [.trait _ head p] false => some (.trait true head p)
  | .object false [b] false => some b
  | _ => none

/-- A type that starts with parentheses. -/
def parenType (plus : Bool) : Parser TypeExpr := do
  match ← inGroup .paren g.inParens with
  | .types ⟨[], _⟩ => return .tuple [] false
  | .types ⟨[t], false⟩ =>
    match plus && (← sees (Ahead.operator "+")), boundOf? t with
    | true, some b =>
      let row ← g.moreBounds
      return .object false (b :: row.items) (row.items.isEmpty || row.trailing)
    | _, _ => return .paren t
  | .types row => return .tuple row.items row.trailing
  | .bound b =>
    if ← sees (Ahead.operator "+") then
      let row ← g.moreBounds
      return .object false (b :: row.items) (row.items.isEmpty || row.trailing)
    else return .object false [b] false

/-- Whether a path has no arguments. -/
def isSimple (p : PathExpr) : Bool :=
  p.segments.all fun
    | .mk _ .none => true
    | _ => false

/-- A type that starts with a path: the path, a macro call, or the first of a row of bounds. -/
def pathType (binder : List Token) (plus : Bool) : Parser TypeExpr := do
  match ← g.typePath false with
  | .path p =>
    let isMacro ← sees fun ts => Ahead.operator "!" ts && !Ahead.operator "!=" ts
    if isMacro && isSimple p then
      operator "!"
      return .invocation p (← anyGroup)
    else if plus && (← sees (Ahead.operator "+")) then
      let row ← g.moreBounds
      return .object false (.trait false binder p :: row.items) (row.items.isEmpty || row.trailing)
    else if binder.isEmpty then return .path p
    else return .object false [.trait false binder p] false
  | t => return t

/-- A path comes next. -/
def startsPath (ts : List Token) : Bool :=
  Ahead.name ts || Ahead.anyKeyword pathKeywords ts || Ahead.operator "::" ts ||
    Ahead.operator "<" ts

/-- A function pointer comes next. -/
def startsPointer (ts : List Token) : Bool := Ahead.anyKeyword ["fn", "unsafe", "extern"] ts

def typeForm (plus : Bool) : Parser TypeExpr := do
  if ← sees (Ahead.keyword "for") then
    let bound ← g.binder
    if ← sees startsPointer then g.functionPointer bound
    else if ← sees (fun ts => Ahead.name ts || Ahead.anyKeyword pathKeywords ts) then
      g.pathType bound plus
    else refuse
  else if ← sees (Ahead.group .paren) then g.parenType plus
  else if ← sees startsPointer then g.functionPointer []
  else if ← sees startsPath then g.pathType [] plus
  else if ← keyword? "dyn" then
    let star ← spellOperator? "*"
    let row ← g.objectBounds plus false
    if star.isEmpty then return .object true row.items row.trailing
    else
      return .verbatim ([.word "dyn" none] ++ star ++
        separated (Token.operator "+") row.trailing (tokensOfBounds row.items))
  else if ← sees (Ahead.group .bracket) then
    inGroup .bracket (do
      let elem ← g.type true
      if ← operator? ";" then return .array elem (← g.expression true) else return .slice elem)
  else if ← operator? "*" then
    if ← keyword? "const" then return .pointer false (← g.type false)
    else
      keyword "mut"
      return .pointer true (← g.type false)
  else if ← operator? "&" then
    let name ← lifetime?
    let isMut ← keyword? "mut"
    return .reference name isMut (← g.type false)
  else if ← operator? "!" then return .never
  else if ← keyword? "impl" then
    let row ← g.objectBounds plus true
    return .implement row.items row.trailing
  else if ← keyword? "_" then return .infer
  else if ← sees Ahead.lifetime then
    let row ← g.objectBounds true false
    return .object false row.items row.trailing
  else refuse

end Relay.Grammar
