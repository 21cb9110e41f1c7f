import Relay.Source.Identifier
import Relay.Source.Token

/-!
# Reading from token sequences

A parser reads something from the front of a token sequence and leaves the rest, or refuses. The
tests that decide which way a grammar goes look at the front of the sequence and leave it alone.

Repetitions are bounded by the length of the sequence that they start on, so they end even when the
repeated part uses up nothing.
-/
namespace Relay

/-- Reads something from the front of a token sequence. -/
abbrev Parser (α : Type) := StateT (List Token) Option α

/-- A parser that gives the tokens that spell what it has read. -/
abbrev Speller := Parser (List Token)

/-! ### Tests of the front of a sequence -/

namespace Ahead

/-- The characters of an operator come next. They must be joint, and more may follow. -/
def operatorChars : List Char → List Token → Bool
  | [], _ => true
  | [c], .punct c' _ _ :: _ => c == c'
  | c :: cs, .punct c' true _ :: rest => c == c' && operatorChars cs rest
  | _, _ => false

/-- An operator comes next. -/
def operator (text : String) (ts : List Token) : Bool := operatorChars text.toList ts

/-- A certain word comes next. -/
def keyword (text : String) : List Token → Bool
  | .word w _ :: _ => w == text
  | _ => false

/-- A word that can be used as a name comes next. -/
def name : List Token → Bool
  | .word w _ :: _ => isName w
  | _ => false

/-- Any word comes next. -/
def anyWord : List Token → Bool
  | .word _ _ :: _ => true
  | _ => false

/-- A lifetime comes next. -/
def lifetime : List Token → Bool
  | .punct '\'' true _ :: .word _ _ :: _ => true
  | _ => false

/-- A group comes next. -/
def group (d : Delimiter) : List Token → Bool
  | .group d' _ _ :: _ => d == d'
  | _ => false

def isNumber (literal : String) : Bool :=
  match literal.toList with
  | c :: _ => '0' ≤ c && c ≤ '9'
  | [] => false

/-- A literal comes next; a truth value is one, and so is a number behind a minus sign. -/
def literal : List Token → Bool
  | .literal _ _ :: _ => true
  | .word w _ :: _ => w == "true" || w == "false"
  | .punct '-' _ _ :: .literal l _ :: _ => isNumber l
  | _ => false

/-- A string literal comes next. -/
def string : List Token → Bool
  | .literal l _ :: _ =>
    match l.toList with
    | c :: _ => c == '"' || c == 'r'
    | [] => false
  | _ => false

/-- Nothing comes next. -/
def nothing (ts : List Token) : Bool := ts.isEmpty

/-- The sequence behind the first token; a lifetime counts as one. -/
def skip : List Token → List Token
  | .punct '\'' true _ :: .word _ _ :: rest => rest
  | _ :: rest => rest
  | [] => []

/-- One of some operators comes next. -/
def anyOperator (texts : List String) (ts : List Token) : Bool := texts.any (operator · ts)

/-- One of some words comes next. -/
def anyKeyword (texts : List String) (ts : List Token) : Bool := texts.any (keyword · ts)

end Ahead

namespace Parser

variable {α β : Type}

def refuse : Parser α := fun _ => none

/-- The result of a test of what comes next. -/
def sees (test : List Token → Bool) : Parser Bool := return test (← get)

/-- Refuses unless a test of what comes next holds. -/
def expect (test : List Token → Bool) : Parser Unit := do
  if test (← get) then return () else refuse

/-- The tokens behind the characters of an operator. -/
def dropOperator : List Char → List Token → List Token
  | _ :: cs, _ :: rest => dropOperator cs rest
  | _, ts => ts

def operator (text : String) : Parser Unit := fun ts =>
  if Ahead.operator text ts then some ((), dropOperator text.toList ts) else none

/-- Reads an operator if it comes next; tells whether it did. -/
def operator? (text : String) : Parser Bool := fun ts =>
  if Ahead.operator text ts then some (true, dropOperator text.toList ts) else some (false, ts)

/-- Reads a certain word. -/
def keyword (text : String) : Parser Unit := fun ts =>
  if Ahead.keyword text ts then some ((), ts.tail) else none

/-- Reads a certain word if it comes next; tells whether it did. -/
def keyword? (text : String) : Parser Bool := fun ts =>
  if Ahead.keyword text ts then some (true, ts.tail) else some (false, ts)

/-- A word with its place. -/
structure Placed where
  word : String
  position : Option Position
deriving DecidableEq, Repr

def anyWord : Parser Placed
  | .word w p :: rest => some (⟨w, p⟩, rest)
  | _ => none

/-- Reads a word that can be used as a name. -/
def placedName : Parser Placed
  | .word w p :: rest => if isName w then some (⟨w, p⟩, rest) else none
  | _ => none

/-- Reads a word that can be used as a name. -/
def name : Parser String := return (← placedName).word

def lifetime : Parser String
  | .punct '\'' true _ :: .word w _ :: rest => some (w, rest)
  | _ => none

/-- Reads a lifetime if one comes next. -/
def lifetime? : Parser (Option String) := do
  if ← sees Ahead.lifetime then return some (← lifetime) else return none

/-- Reads a group whose whole body a parser reads. -/
def inGroup (d : Delimiter) (body : Parser α) : Parser α
  | .group d' ts _ :: rest =>
    if d = d' then
      match body ts with
      | some (x, []) => some (x, rest)
      | _ => none
    else none
  | _ => none

def anyGroup : Parser Token
  | .group d body _ :: rest =>
    if d = .invisible then none else some (.group d (unplacedTokens body) none, rest)
  | _ => none

/-- Reads a token of any kind. -/
def anyToken : Parser Token
  | t :: rest => some (t.unplaced, rest)
  | [] => none

/-- The place of what comes next. -/
def position : Parser (Option Position) := return (← get).head?.bind Token.position

/-- The tokens that a parser uses up, as they stand in the source. -/
def asWritten (p : Parser α) : Speller := do
  let before ← get
  let _ ← p
  let after ← get
  return unplacedTokens (before.take (before.length - after.length))

/-! ### Repetition -/

/-- Repeats while a test of what comes next holds. -/
def whileUpTo (test : List Token → Bool) (item : Parser α) : (limit : Nat) → Parser (List α)
  | 0 => do if ← sees test then refuse else return []
  | limit + 1 => do
    if ← sees test then
      let x ← item
      let xs ← whileUpTo test item limit
      return x :: xs
    else return []

/-- Repeats while a test of what comes next holds. -/
def repeatWhile (test : List Token → Bool) (item : Parser α) : Parser (List α) := do
  whileUpTo test item (← get).length

/-- Items in a row, and whether a separator follows the last. -/
structure Row (α : Type) where
  items : List α
  trailing : Bool

def rowUntilUpTo (stop : List Token → Bool) (separator : String) (item : Parser α) :
    (limit : Nat) → (trailing : Bool) → Parser (Row α)
  | 0, trailing => do if ← sees stop then return ⟨[], trailing⟩ else refuse
  | limit + 1, trailing => do
    if ← sees stop then return ⟨[], trailing⟩
    else
      let x ← item
      if ← sees stop then return ⟨[x], false⟩
      else
        operator separator
        let row ← rowUntilUpTo stop separator item limit true
        return ⟨x :: row.items, row.trailing⟩

/-- Items up to a stop, with a separator between each two and perhaps behind the last. -/
def rowUntil (stop : List Token → Bool) (separator : String) (item : Parser α) :
    Parser (Row α) := do
  rowUntilUpTo stop separator item (← get).length false

/-- Items up to a stop or to the first that no separator follows. -/
def rowWhileUpTo (stop : List Token → Bool) (separator : String) (item : Parser α) :
    (limit : Nat) → (trailing : Bool) → Parser (Row α)
  | 0, trailing => do if ← sees stop then return ⟨[], trailing⟩ else refuse
  | limit + 1, trailing => do
    if ← sees stop then return ⟨[], trailing⟩
    else
      let x ← item
      if ← operator? separator then
        let row ← rowWhileUpTo stop separator item limit true
        return ⟨x :: row.items, row.trailing⟩
      else return ⟨[x], false⟩

/-- Items up to a stop or to the first that no separator follows. -/
def rowWhile (stop : List Token → Bool) (separator : String) (item : Parser α) :
    Parser (Row α) := do
  rowWhileUpTo stop separator item (← get).length false

/-- The items of a whole group body, between commas. -/
def commaRow (item : Parser α) : Parser (Row α) := rowUntil Ahead.nothing "," item

/-! ### Whole sequences -/

/-- What a parser reads from a whole sequence. -/
def whole? (p : Parser α) (ts : List Token) : Option α :=
  match p ts with
  | some (x, []) => some x
  | _ => none

/-! ### Spelling -/

def spellOperator (text : String) : Speller := do
  operator text
  return Token.operator text

/-- Reads an operator if it comes next and spells it. -/
def spellOperator? (text : String) : Speller := do
  return if ← operator? text then Token.operator text else []

/-- Reads a certain word and spells it. -/
def spellKeyword (text : String) : Speller := do
  keyword text
  return [.word text none]

/-- Reads a certain word if it comes next and spells it. -/
def spellKeyword? (text : String) : Speller := do
  return if ← keyword? text then [.word text none] else []

def spellName : Speller := return [.word (← name) none]

def spellWord : Speller := return [.word (← anyWord).word none]

/-- Reads a lifetime if one comes next and spells it. -/
def spellLifetime? : Speller := return ((← lifetime?).map Token.lifetime).getD []

def spellLiteral : Speller := do
  expect Ahead.literal
  let first ← anyToken
  match first with
  | .punct _ _ _ => return [.punct '-' false none, ← anyToken]
  | t => return [t]

def spellGroup (d : Delimiter) (body : Speller) : Speller :=
  return [.group d (← inGroup d body) none]

def spellRow (separator : String) (row : Row (List Token)) : List Token :=
  separated (Token.operator separator) row.trailing row.items

/-- Spells the items of a whole group body, between commas. -/
def spellCommas (item : Speller) : Speller := return spellRow "," (← commaRow item)

end Parser

end Relay
