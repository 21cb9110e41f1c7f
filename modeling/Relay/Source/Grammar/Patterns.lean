import Relay.Source.Grammar.Types

/-!
# The grammar of patterns

A word is a name to bind unless something behind it shows that it is the start of a path. Ranges may
lack an end where the pattern is over, though not as elements of a slice.
-/
namespace Relay.Grammar

open Relay.Parser

variable (g : Grammar)

/-! ### Alternatives and ranges -/

def startsAlternative (ts : List Token) : Bool :=
  Ahead.operator "|" ts && !Ahead.anyOperator ["||", "|="] ts

/-- A pattern with alternatives, perhaps with a bar in front of the first. -/
def alternatives : Parser PatternPhrase := do
  let leading ← spellOperator? "|"
  let first ← g.pattern
  let rest ← repeatWhile startsAlternative (do
    return (← spellOperator "|") ++ (← g.pattern).spelling)
  if leading.isEmpty && rest.isEmpty then return first
  else return .nameless false (leading ++ first.spelling ++ rest.flatten)

/-- The pattern is over, so that a range has no end here. -/
def lacksEnd (ts : List Token) : Bool :=
  ts.isEmpty || Ahead.anyOperator ["|", "=", ",", ";"] ts ||
    (Ahead.operator ":" ts && !Ahead.operator "::" ts) || Ahead.keyword "if" ts

/-- The end of a range, which is a literal, a path or a constant block; nothing where the pattern is
over. -/
def rangeEnd : Speller := do
  if ← sees lacksEnd then return []
  else if ← sees Ahead.literal then spellLiteral
  else if ← sees startsPath then return (← g.typePath true).tokens
  else return (← spellKeyword "const") ++ (← g.block)

/-- The operator of a range, and whether an end must follow it. Three dots are an old spelling that
only patterns allow behind a first end. -/
def rangeOperator (threeDots : Bool) : Parser (List Token × Bool) := do
  if ← operator? "..=" then return (Token.operator "..=", true)
  else if ← sees (Ahead.operator "...") then
    if threeDots then
      operator "..."
      return (Token.operator "..=", true)
    else refuse
  else return (← spellOperator "..", false)

/-- A range behind its first end. -/
def rangeFrom (first : List Token) : Parser PatternPhrase := do
  let (dots, closed) ← rangeOperator true
  let last ← g.rangeEnd
  if closed && last.isEmpty then refuse
  else return .nameless last.isEmpty (first ++ dots ++ last)

/-- A range without a first end, or the two dots that stand for the rest. -/
def rangeTo : Parser PatternPhrase := do
  let (dots, closed) ← rangeOperator false
  let last ← g.rangeEnd
  if closed && last.isEmpty then refuse
  else return .nameless (!last.isEmpty) (dots ++ last)

/-! ### Structures -/

/-- The number of a field comes next. -/
def startsIndex : List Token → Bool
  | .literal l _ :: _ => l.toList.all fun c => ('0' ≤ c && c ≤ '9') || c == '_'
  | _ => false

def fieldName : Speller := do
  if ← sees startsIndex then spellLiteral else spellName

def fieldPattern : Speller := do
  let attributes ← g.outerAttributes
  let marks := (← spellKeyword? "box") ++ (← spellKeyword? "ref") ++ (← spellKeyword? "mut")
  if marks.isEmpty then
    let isIndex ← sees startsIndex
    let field ← fieldName
    if isIndex || (← sees (Ahead.operator ":")) then
      return attributes ++ field ++ (← spellOperator ":") ++ (← g.alternatives).spelling
    else return attributes ++ field
  else return attributes ++ marks ++ (← spellName)

/-- The fields of a structure, perhaps with two dots for the rest. -/
def fieldPatterns : Speller := do
  let row ← rowUntil (fun ts => ts.isEmpty || Ahead.operator ".." ts) "," g.fieldPattern
  if ← sees Ahead.nothing then return spellRow "," row
  else if row.items.isEmpty || row.trailing then return spellRow "," row ++ (← spellOperator "..")
  else refuse

def pathPattern : Parser PatternPhrase := do
  let p ← g.typePath true
  let isMacro ← sees fun ts => Ahead.operator "!" ts && !Ahead.operator "!=" ts
  match p, isMacro with
  | .path p, true =>
    if isSimple p then
      operator "!"
      return .nameless false (p.tokens ++ Token.operator "!" ++ [← anyGroup])
    else refuse
  | _, _ =>
    if ← sees (Ahead.group .brace) then
      return .nameless false (p.tokens ++ (← spellGroup .brace g.fieldPatterns))
    else if ← sees (Ahead.group .paren) then
      let elems := spellCommas (return (← g.alternatives).spelling)
      return .nameless false (p.tokens ++ (← spellGroup .paren elems))
    else if ← sees (Ahead.operator "..") then g.rangeFrom p.tokens
    else return .nameless false p.tokens

/-! ### Forms of patterns -/

/-- A name to bind, perhaps with a pattern that it must also match. -/
def namePattern : Parser PatternPhrase := do
  let marks := (← spellKeyword? "ref") ++ (← spellKeyword? "mut")
  let name ← if ← sees (Ahead.keyword "self") then anyWord else placedName
  let rest ← if ← sees (Ahead.operator "@") then do
      pure ((← spellOperator "@") ++ (← g.pattern).spelling)
    else pure []
  return ⟨some name.word, false, marks ++ .word name.word none :: rest⟩

/-- A pattern that starts with a path comes next. -/
def startsPathPattern (ts : List Token) : Bool :=
  let rest := Ahead.skip ts
  (Ahead.name ts && (Ahead.anyOperator ["::", "!", ".."] rest || Ahead.group .brace rest ||
    Ahead.group .paren rest)) ||
  (Ahead.keyword "self" ts && Ahead.operator "::" rest) ||
  Ahead.anyOperator ["::", "<"] ts || Ahead.anyKeyword ["Self", "super", "crate"] ts

def slicePart : Speller := do
  let p ← g.alternatives
  if p.isOpenRange then refuse else return p.spelling

/-- A pattern without alternatives. -/
def patternForm : Parser PatternPhrase := do
  if ← sees startsPathPattern then g.pathPattern
  else if ← sees (Ahead.keyword "_") then return .nameless false (← spellWord)
  else if ← sees (Ahead.keyword "box") then
    return .nameless false ((← spellKeyword "box") ++ (← g.pattern).spelling)
  else if ← sees (fun ts =>
      Ahead.literal ts || Ahead.operator "-" ts || Ahead.keyword "const" ts) then
    let first ← g.rangeEnd
    if ← sees (Ahead.operator "..") then g.rangeFrom first else return .nameless false first
  else if ← sees (fun ts => Ahead.name ts || Ahead.anyKeyword ["ref", "mut", "self"] ts) then
    g.namePattern
  else if ← sees (Ahead.operator "&") then
    let head := (← spellOperator "&") ++ (← spellKeyword? "mut")
    return .nameless false (head ++ (← g.pattern).spelling)
  else if ← sees (Ahead.group .paren) then
    return .nameless false (← spellGroup .paren (spellCommas (return (← g.alternatives).spelling)))
  else if ← sees (Ahead.group .bracket) then
    return .nameless false (← spellGroup .bracket (spellCommas g.slicePart))
  else g.rangeTo

end Relay.Grammar
