import Relay.Source.Grammar.Items
import Relay.Source.Lexer

/-!
# Reading source text

The grammar as a whole, level upon level, and the readers of whole texts. A phrase uses up a token
at least once in four levels, so the number of token trees gives a depth that no text exceeds.
-/
namespace Relay

namespace Grammar

/-- The grammar whose inner phrases another grammar reads. -/
def next (g : Grammar) : Grammar where
  type := g.typeForm
  expression := g.expressionForm
  operand := g.operandForm
  early := g.earlyForm
  pattern := g.patternForm
  statements := g.statementsForm
  item := g.itemForm

/-- The grammar of the phrases that nest up to a depth. -/
def ofDepth : (depth : Nat) → Grammar
  | 0 => empty
  | depth + 1 => (ofDepth depth).next

def forTokens (ts : List Token) : Grammar := ofDepth (4 * sizeOfTokens ts + 16)

end Grammar

namespace Source

/-- Why a text was not read: it is no sequence of tokens, or the tokens do not form the phrase. -/
inductive Fault where
  | tokens | phrase
deriving DecidableEq, Repr

variable {α : Type}

def phrase? (p : Grammar → Parser α) (ts : List Token) : Option α :=
  Parser.whole? (p (Grammar.forTokens ts)) ts

def readTokens (text : String) : Except Fault (List Token) :=
  match Lexer.tokens? text with
  | some ts => .ok ts
  | none => .error .tokens

def read (p : Grammar → Parser α) (text : String) : Except Fault α := do
  match phrase? p (← readTokens text) with
  | some x => .ok x
  | none => .error .phrase

def readType : String → Except Fault TypeExpr := read fun g => g.type true

def readPath : String → Except Fault PathExpr := read fun g => g.path false

def readVisibility : String → Except Fault Visibility := read fun _ => Grammar.visibility

def readItem : String → Except Fault Item := read Grammar.item

/-- Reads a word that can be used as a name. -/
def readName : String → Except Fault String := read fun _ => Parser.name

end Source

end Relay
