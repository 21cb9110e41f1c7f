import Relay.Text.Ranges

/-!
# Identifiers

Which characters make up a word, and which words are kept for the grammar. A kept word can still be
used as a name when it is written with `r#` in front, with five exceptions that have a meaning as
parts of a path or a pattern.
-/
namespace Relay

def startsWord (c : Char) : Bool := c == '_' || Text.inRanges c.toNat Text.identifierStart

/-- Whether a word can go on with a character. -/
def continuesWord (c : Char) : Bool :=
  startsWord c || Text.inRanges c.toNat Text.identifierRest

/-- Whether characters make up a word. -/
def isWord : List Char → Bool
  | [] => false
  | c :: rest => startsWord c && rest.all continuesWord

/-- The words that are kept for the grammar. -/
def reservedWords : List String := [
  "_", "abstract", "as", "async", "await", "become", "box", "break", "const", "continue", "crate",
  "do", "dyn", "else", "enum", "extern", "false", "final", "fn", "for", "if", "impl", "in", "let",
  "loop", "macro", "match", "mod", "move", "mut", "override", "priv", "pub", "ref", "return",
  "Self", "self", "static", "struct", "super", "trait", "true", "try", "type", "typeof", "unsafe",
  "unsized", "use", "virtual", "where", "while", "yield"]

/-- The words that cannot be used as a name even with `r#` in front. -/
def unescapableWords : List String := ["_", "super", "self", "Self", "crate"]

/-- Whether a word, as it stands in the source, can be used as a name. A word with `r#` can. -/
def isName (word : String) : Bool := !reservedWords.contains word

/-- The characters of a name without its `r#`. -/
def plainChars : List Char → List Char
  | 'r' :: '#' :: rest => rest
  | cs => cs

/-- A name without its `r#`. -/
def plainName (word : String) : String := String.ofList (plainChars word.toList)

end Relay
