import Relay.Source.Item

/-!
# The grammar, one level at a time

Types hold expressions (the length of an array), expressions hold types, statements and items, and
items hold all of these. So that each part can be given on its own, a part takes what stands one
level deeper as given: a `Grammar` is a reader for each kind of phrase, and the modules beside this
one make from a grammar the reader of one kind of phrase whose inner phrases it reads.
`Source.Reading` puts them together, level upon level.

Here are the readers of simple paths, macro calls and attributes, which the other parts share.
-/
namespace Relay

/-- A pattern: its name, if it is one, whether it is a range without one of its ends, and its
spelling. -/
structure PatternPhrase where
  binding : Option String
  isOpenRange : Bool
  spelling : List Token

/-- A pattern that is no name. -/
def PatternPhrase.nameless (isOpenRange : Bool) (spelling : List Token) : PatternPhrase :=
  ⟨none, isOpenRange, spelling⟩

/-- An expression at the start of a statement or as the result of a match arm, and whether it ends
in a block and needs nothing behind it. -/
structure EarlyPhrase where
  spelling : List Token
  endsItself : Bool

/-- Readers of the phrases that stand one level deeper. -/
structure Grammar where
  /-- A type, which may be a row of bounds where `plus` says so. -/
  type : (plus : Bool) → Parser TypeExpr
  /-- An expression, which may be a structure literal where `structs` says so. -/
  expression : (structs : Bool) → Speller
  /-- An expression up to its first binary operator. -/
  operand : (structs : Bool) → Speller
  /-- An expression at the start of a statement or as the result of a match arm. -/
  early : Parser EarlyPhrase
  /-- A pattern without alternatives. -/
  pattern : Parser PatternPhrase
  statements : Speller
  item : Parser Source.Item

namespace Grammar

open Relay.Parser

/-- The grammar of no phrase. -/
def empty : Grammar where
  type _ := refuse
  expression _ := refuse
  operand _ := refuse
  early := refuse
  pattern := refuse
  statements := refuse
  item := refuse

/-! ### Simple paths and macro calls -/

/-- The words that can start a path beside names. -/
def pathKeywords : List String := ["super", "self", "Self", "crate"]

/-- A segment of a simple path comes next. -/
def startsSimpleSegment (ts : List Token) : Bool :=
  Ahead.name ts || Ahead.anyKeyword pathKeywords ts

/-- A path of words without arguments. -/
def simplePath : Parser PathExpr := do
  let rooted ← operator? "::"
  expect startsSimpleSegment
  let first ← anyWord
  let rest ← repeatWhile (Ahead.operator "::") (do
    operator "::"
    expect startsSimpleSegment
    anyWord)
  return .ofNames rooted ((first :: rest).map (·.word))

/-- A macro call: a simple path, an exclamation mark and a group of any tokens. -/
def macroCall : Parser (PathExpr × Token) := do
  let p ← simplePath
  operator "!"
  return (p, ← anyGroup)

def isBrace : Token → Bool
  | .group .brace _ _ => true
  | _ => false

variable (g : Grammar)

/-! ### Attributes -/

/-- What an attribute says: a path and nothing, a group of any tokens, or a value. -/
def attributeBody : Speller := do
  let p ← if ← sees (Ahead.keyword "unsafe") then spellKeyword "unsafe"
    else do pure (← simplePath).tokens
  if ← sees (fun ts =>
      Ahead.group .paren ts || Ahead.group .bracket ts || Ahead.group .brace ts) then
    return p ++ [← anyGroup]
  else if ← sees (Ahead.operator "=") then
    return p ++ (← spellOperator "=") ++ (← g.expression true)
  else return p

/-- Attributes in front of a phrase. -/
def outerAttributes : Speller := do
  let attributes ← repeatWhile (Ahead.operator "#") (do
    return (← spellOperator "#") ++ (← spellGroup .bracket g.attributeBody))
  return attributes.flatten

/-- An attribute of what encloses it comes next. -/
def startsInner (ts : List Token) : Bool :=
  Ahead.operator "#" ts && Ahead.operator "!" (Ahead.skip ts)

def innerAttributes : Speller := do
  let attributes ← repeatWhile startsInner (do
    return (← spellOperator "#") ++ (← spellOperator "!") ++
      (← spellGroup .bracket g.attributeBody))
  return attributes.flatten

/-! ### Blocks -/

def block : Speller :=
  spellGroup .brace (do return (← g.innerAttributes) ++ (← g.statements))

end Grammar

end Relay
