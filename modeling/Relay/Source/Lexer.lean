import Relay.Source.Literal
import Relay.Source.Token
import Relay.Text.Quoted

/-!
# Reading tokens

From text to token trees. Blanks and comments vanish. A documentation comment becomes the attribute
that it abbreviates, all of whose tokens stand where the comment began. Every other token is a
literal, a punctuation character, a word, or a group in matching delimiters.

Punctuation is joint when the next character is punctuation too and does not start a comment. A
quote is punctuation only in front of a word; then it is joint always.
-/
namespace Relay.Lexer

/-! ### Places -/

/-- The place behind a character. -/
def step (p : Position) (c : Char) : Position :=
  if c = '\n' then ⟨p.line + 1, 0⟩ else ⟨p.line, p.column + 1⟩

/-- The part of a text in front of one of its tails. -/
def front (cs rest : List Char) : List Char := cs.take (cs.length - rest.length)

/-- The place behind the part of a text in front of one of its tails. -/
def stepTo (p : Position) (cs rest : List Char) : Position := (front cs rest).foldl step p

/-! ### Blanks and comments -/

/-- Whether a character separates tokens. The two direction marks count as blank. -/
def isBlank (c : Char) : Bool :=
  (9 ≤ c.val && c.val ≤ 13) || (0x2000 ≤ c.val && c.val ≤ 0x200a) ||
    [0x20, 0x85, 0xa0, 0x1680, 0x200e, 0x200f, 0x2028, 0x2029, 0x202f, 0x205f, 0x3000].contains
      c.val

/-- The text from the end of the line on; a carriage return in front of it belongs to it. -/
def lineEnd : List Char → List Char
  | [] => []
  | '\n' :: rest => '\n' :: rest
  | '\r' :: '\n' :: rest => '\r' :: '\n' :: rest
  | _ :: rest => lineEnd rest

/-- The text behind a block comment, whose inner comments nest, given the text behind its opening
and the number of comments open. -/
def afterBlock? (depth : Nat) : List Char → Option (List Char)
  | '/' :: '*' :: rest => afterBlock? (depth + 1) rest
  | '*' :: '/' :: rest => if depth ≤ 1 then some rest else afterBlock? (depth - 1) rest
  | _ :: rest => afterBlock? depth rest
  | [] => none

/-- Whether a text starts with a block comment that documents something, given the text behind its
first two characters. -/
def documentsBlock : List Char → Bool
  | '!' :: _ => true
  | '*' :: '*' :: _ => false
  | '*' :: '/' :: _ => false
  | '*' :: _ => true
  | _ => false

/-- Whether a text starts with a line comment that documents something, given the text behind its
first two characters. -/
def documentsLine : List Char → Bool
  | '!' :: _ => true
  | '/' :: '/' :: _ => false
  | '/' :: _ => true
  | _ => false

/-- The text behind one blank or one plain comment. -/
def afterBlank? : List Char → Option (List Char)
  | '/' :: '/' :: rest => if documentsLine rest then none else some (lineEnd rest)
  | '/' :: '*' :: rest => if documentsBlock rest then none else afterBlock? 1 rest
  | c :: rest => if isBlank c then some rest else none
  | [] => none

/-- The text behind blanks and plain comments. -/
def skipBlanks : (fuel : Nat) → List Char → List Char
  | 0, cs => cs
  | fuel + 1, cs =>
    match afterBlank? cs with
    | some rest => skipBlanks fuel rest
    | none => cs

/-! ### Documentation comments -/

/-- A documentation comment: its text, and whether it documents what encloses it. -/
structure DocComment where
  text : List Char
  inner : Bool

/-- Whether every carriage return is in front of a line feed. -/
def returnsPaired : List Char → Bool
  | '\r' :: '\n' :: rest => returnsPaired rest
  | '\r' :: _ => false
  | _ :: rest => returnsPaired rest
  | [] => true

/-- The documentation comment at the start of a text, and the text behind it. -/
def docComment? (cs : List Char) : Option (DocComment × List Char) := do
  let (comment, rest) ←
    match cs with
    | '/' :: '/' :: mark :: body =>
      if documentsLine (mark :: body) then
        let rest := lineEnd body
        some (DocComment.mk (front body rest) (mark == '!'), rest)
      else none
    | '/' :: '*' :: mark :: body =>
      if documentsBlock (mark :: body) then do
        let rest ← afterBlock? 1 (mark :: body)
        let inside := front body rest
        some (DocComment.mk (inside.take (inside.length - 2)) (mark == '!'), rest)
      else none
    | _ => none
  if returnsPaired comment.text then some (comment, rest) else none

/-- The attribute that a documentation comment abbreviates. -/
def DocComment.tokens (d : DocComment) (p : Position) : List Token :=
  [.punct '#' false (some p)] ++ (if d.inner then [.punct '!' false (some p)] else []) ++
    [.group .bracket [.word "doc" (some p), .punct '=' false (some p),
      .literal (Text.literal (String.ofList d.text)) (some p)] (some p)]

/-! ### Single tokens -/

def punctuation : List Char := "~!@#$%^&*-=+|;:,<.>/?'".toList

/-- Whether a text starts with punctuation, which the start of a comment is not. -/
def startsPunct : List Char → Bool
  | '/' :: '/' :: _ => false
  | '/' :: '*' :: _ => false
  | c :: _ => punctuation.contains c
  | [] => false

/-- The starts of literals, none of which starts a word. -/
def literalOpenings : List (List Char) :=
  ["r\"", "r#\"", "r##", "b\"", "b'", "br\"", "br#", "c\"", "cr\"", "cr#"].map String.toList

/-- The text behind a word, with its `r#` if it has one. -/
def afterAnyWord? : List Char → Option (List Char)
  | 'r' :: '#' :: cs => do
    let rest ← Literal.afterWord? cs
    if unescapableWords.contains (String.ofList (front cs rest)) then none else some rest
  | cs => Literal.afterWord? cs

/-- The text behind a word that is not the start of a literal. -/
def afterIdentifier? (cs : List Char) : Option (List Char) :=
  if literalOpenings.any (·.isPrefixOf cs) then none else afterAnyWord? cs

/-- Whether a word follows that makes a quote in front of it the start of a lifetime: neither a
second quote nor a hash may stand behind the word. -/
def startsLifetime (cs : List Char) : Bool :=
  match afterAnyWord? cs with
  | some ('\'' :: _) => false
  | some ('#' :: _) => "r#".toList.isPrefixOf cs
  | some _ => true
  | none => false

/-- The token other than a group at the start of a text, and the text behind it. -/
def leaf? (p : Position) (cs : List Char) : Option (Token × List Char) :=
  match Literal.after? cs with
  | some rest => some (.literal (String.ofList (front cs rest)) (some p), rest)
  | none =>
    match cs with
    | '\'' :: rest =>
      if startsLifetime rest then some (.punct '\'' true (some p), rest) else none
    | c :: rest =>
      if startsPunct cs then some (.punct c (startsPunct rest) (some p), rest)
      else
        match afterIdentifier? cs with
        | some rest => some (.word (String.ofList (front cs rest)) (some p), rest)
        | none => none
    | [] => none

/-! ### Groups and whole texts -/

def opens? : Char → Option Delimiter
  | '(' => some .paren
  | '[' => some .bracket
  | '{' => some .brace
  | _ => none

def closes? : Char → Option Delimiter
  | ')' => some .paren
  | ']' => some .bracket
  | '}' => some .brace
  | _ => none

/-- A group that is not closed yet, with the tokens in front of it, the last one first. -/
structure OpenGroup where
  delimiter : Delimiter
  position : Position
  before : List Token

/-- Reads tokens up to the end of a text. `done` holds the tokens of the innermost open group so
far, the last one first. Every step uses up a character, so the length of the text is fuel enough.
-/
def readAll : (fuel : Nat) → List Char → Position → List OpenGroup → (done : List Token) →
    Option (List Token)
  | 0, _, _, _, _ => none
  | fuel + 1, text, start, outer, done =>
    let cs := skipBlanks text.length text
    let p := stepTo start text cs
    match docComment? cs with
    | some (d, rest) =>
      readAll fuel rest (stepTo p cs rest) outer ((d.tokens p).reverse ++ done)
    | none =>
      match cs with
      | [] => if outer.isEmpty then some done.reverse else none
      | c :: rest =>
        match opens? c, closes? c with
        | some d, _ => readAll fuel rest (step p c) (⟨d, p, done⟩ :: outer) []
        | none, some d =>
          match outer with
          | g :: outer =>
            if g.delimiter = d then
              readAll fuel rest (step p c) outer
                (.group d done.reverse (some g.position) :: g.before)
            else none
          | [] => none
        | none, none =>
          match leaf? p cs with
          | some (t, rest) => readAll fuel rest (stepTo p cs rest) outer (t :: done)
          | none => none

/-- The tokens of a text; nothing when the text has none, because of an unpaired delimiter, an
unfinished literal or a character that starts no token. A byte order mark in front is passed over.
-/
def tokens? (text : String) : Option (List Token) :=
  match text.toList with
  | '\ufeff' :: cs => readAll (cs.length + 1) cs ⟨1, 1⟩ [] []
  | cs => readAll (cs.length + 1) cs ⟨1, 0⟩ [] []

end Relay.Lexer
