/-!
# Tokens

Source text as a sequence of token trees: words, single punctuation characters, literals, and groups
in matching delimiters. An operator of several characters is a row of punctuation tokens of which
all but the last are joint, and a lifetime is a joint quote in front of a word.

A token that was read from text knows where it began; one that was made does not.
-/
namespace Relay

/-- A place in a text: the line, counted from one, and the characters before it on the line. -/
structure Position where
  line : Nat
  column : Nat
deriving DecidableEq, Repr

/-- What encloses a group. -/
inductive Delimiter where
  | paren | bracket | brace
  /-- Nothing is written, but the tokens belong together. -/
  | invisible
deriving DecidableEq, Repr

/-- A token tree. -/
inductive Token where
  /-- An identifier or keyword, with its `r#` if it has one. -/
  | word (text : String) (position : Option Position)
  /-- A punctuation character; a joint one belongs to the punctuation that follows. -/
  | punct (char : Char) (joint : Bool) (position : Option Position)
  | literal (text : String) (position : Option Position)
  | group (delimiter : Delimiter) (body : List Token) (position : Option Position)

namespace Delimiter

/-- What is written in front of the body of a group. -/
def opening : Delimiter → String
  | paren => "("
  | bracket => "["
  | brace => "\x7b "
  | invisible => ""

/-- What is written behind the body of a group, given whether the body is empty. -/
def closing : Delimiter → Bool → String
  | paren, _ => ")"
  | bracket, _ => "]"
  | brace, true => "\x7d"
  | brace, false => " \x7d"
  | invisible, _ => ""

end Delimiter

namespace Token

def position : Token → Option Position
  | word _ p | punct _ _ p | literal _ p | group _ _ p => p

/-- Whether no space is written behind the token. -/
def isJoint : Token → Bool
  | punct _ joint _ => joint
  | _ => false

end Token

mutual

def Token.text : Token → String
  | .word text _ => text
  | .punct char _ _ => String.singleton char
  | .literal text _ => text
  | .group delimiter body _ =>
    delimiter.opening ++ textOfTokens body ++ delimiter.closing body.isEmpty

/-- The text of tokens, with a space behind every token but the last and the joint ones. -/
def textOfTokens : List Token → String
  | [] => ""
  | [t] => t.text
  | t :: rest => t.text ++ (if t.isJoint then "" else " ") ++ textOfTokens rest

end

mutual

/-- The token without its place. -/
def Token.unplaced : Token → Token
  | .word text _ => .word text none
  | .punct char joint _ => .punct char joint none
  | .literal text _ => .literal text none
  | .group delimiter body _ => .group delimiter (unplacedTokens body) none

/-- The tokens without their places. -/
def unplacedTokens : List Token → List Token
  | [] => []
  | t :: rest => t.unplaced :: unplacedTokens rest

end

mutual

/-- The number of token trees in a token, the token included. -/
def Token.size : Token → Nat
  | .group _ body _ => 1 + sizeOfTokens body
  | _ => 1

/-- The number of token trees in tokens. -/
def sizeOfTokens : List Token → Nat
  | [] => 0
  | t :: rest => t.size + sizeOfTokens rest

end

/-! ### Making tokens -/

namespace Token

/-- The punctuation of an operator: all characters joint but the last. -/
def operatorChars : List Char → List Token
  | [] => []
  | [c] => [punct c false none]
  | c :: rest => punct c true none :: operatorChars rest

def operator (text : String) : List Token := operatorChars text.toList

/-- A lifetime, given its name without the quote. -/
def lifetime (name : String) : List Token := [punct '\'' true none, word name none]

def paren (body : List Token) : List Token := [group .paren body none]

def bracket (body : List Token) : List Token := [group .bracket body none]

def brace (body : List Token) : List Token := [group .brace body none]

end Token

/-- Items with a separator between them, and behind the last when it is trailing. -/
def separated (separator : List Token) (trailing : Bool) : List (List Token) → List Token
  | [] => []
  | [item] => if trailing then item ++ separator else item
  | item :: rest => item ++ separator ++ separated separator trailing rest

def commaSeparated (trailing : Bool) (items : List (List Token)) : List Token :=
  separated (Token.operator ",") trailing items

end Relay
