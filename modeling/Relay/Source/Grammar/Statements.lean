import Relay.Source.Grammar.Expressions

/-!
# The grammar of statements

Statements need no semicolon where they end in a block, where they are items, or where they are
last.
-/
namespace Relay.Grammar

open Relay.Parser

variable (g : Grammar)

/-! ### What kind of statement comes next -/

/-- The sequence behind the attributes in front of it. -/
def behindAttributes : List Token → List Token
  | .punct '#' _ _ :: .group .bracket _ _ :: rest => behindAttributes rest
  | ts => ts

/-- A macro call comes next that is complete with its braces. -/
def startsBraceCall (ts : List Token) : Bool :=
  match macroCall ts with
  | some ((_, body), rest) =>
    isBrace body &&
      !((Ahead.operator "." rest && !Ahead.operator ".." rest) || Ahead.operator "?" rest)
  | none => false

/-- A macro call with a name behind its exclamation mark comes next, which declares something. -/
def startsNamedCall (ts : List Token) : Bool :=
  match simplePath ts with
  | some (_, rest) =>
    Ahead.operator "!" rest &&
      (Ahead.name (Ahead.skip rest) || Ahead.keyword "try" (Ahead.skip rest))
  | none => false

/-- An item comes next. -/
def startsItem (ts : List Token) : Bool :=
  let rest := Ahead.skip ts
  let more := Ahead.skip rest
  Ahead.anyKeyword ["pub", "extern", "use", "fn", "mod", "type", "struct", "enum", "trait", "impl",
    "macro"] ts ||
  (Ahead.keyword "crate" ts && !Ahead.operator "::" rest) ||
  (Ahead.keyword "static" ts && (Ahead.keyword "mut" rest || Ahead.name rest)) ||
  (Ahead.keyword "const" ts && !(Ahead.group .brace rest || Ahead.operator "|" rest ||
    Ahead.anyKeyword ["static", "move"] rest ||
    (Ahead.keyword "async" rest && !Ahead.anyKeyword ["unsafe", "extern", "fn"] more))) ||
  (Ahead.keyword "unsafe" ts && !Ahead.group .brace rest) ||
  (Ahead.keyword "async" ts && Ahead.anyKeyword ["unsafe", "extern", "fn"] rest) ||
  (Ahead.keyword "union" ts && Ahead.name rest) ||
  (Ahead.keyword "auto" ts && Ahead.keyword "trait" rest) ||
  (Ahead.keyword "default" ts && Ahead.anyKeyword ["unsafe", "impl"] rest) ||
  startsNamedCall ts

/-! ### Statements -/

def localNames : Speller := do
  let attributes ← g.outerAttributes
  let head := (← spellKeyword "let") ++ (← g.pattern).spelling
  let typed ← if ← operator? ":" then do
      pure (Token.operator ":" ++ (← g.type true).tokens)
    else pure []
  let value ← if ← operator? "=" then do
      let value ← g.expression true
      if ← keyword? "else" then
        pure (Token.operator "=" ++ value ++ .word "else" none :: (← g.block))
      else pure (Token.operator "=" ++ value)
    else pure []
  return attributes ++ head ++ typed ++ value ++ (← spellOperator ";")

/-- A statement, and whether it is complete without a semicolon. -/
def statement : Parser EarlyPhrase := do
  if ← sees (fun ts => startsItem (behindAttributes ts)) then return ⟨← asWritten g.item, true⟩
  else if ← sees (fun ts => startsBraceCall (behindAttributes ts)) then
    let attributes ← g.outerAttributes
    let (p, body) ← macroCall
    return ⟨attributes ++ p.tokens ++ Token.operator "!" ++ body :: (← spellOperator? ";"), true⟩
  else if ← sees (fun ts => Ahead.keyword "let" (behindAttributes ts)) then
    return ⟨← g.localNames, true⟩
  else
    let e ← g.early
    if ← operator? ";" then return ⟨e.spelling ++ Token.operator ";", true⟩ else return e

def statementsUpTo : (limit : Nat) → Speller
  | 0 => do
    expect Ahead.nothing
    return []
  | limit + 1 => do
    let empty ← repeatWhile (Ahead.operator ";") (spellOperator ";")
    if ← sees Ahead.nothing then return empty.flatten
    else
      let s ← g.statement
      if !s.endsItself then expect Ahead.nothing
      return empty.flatten ++ s.spelling ++ (← statementsUpTo limit)

def statementsForm : Speller := do g.statementsUpTo (← get).length

end Relay.Grammar
