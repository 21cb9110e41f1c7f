import Relay.Text.Ranges

/-!
# Quoted text

A text is shown between double quotes with everything that would not show as itself spelled out:
the usual two-character escapes, and `\u` with the code point in braces for characters that have no
printed form or that would merge with the character before them.

Two spellings are needed. `quoted` is the one for showing values. `literal` is the one for string
literals in emitted code; it differs only for the null character, whose short escape must not run
into an octal digit.
-/
namespace Relay.Text

/-- Whether a character shows as itself when it stands alone. -/
def isPrintable (c : Char) : Bool :=
  if c.val < 0x7f then 0x20 ≤ c.val else !inRanges c.toNat unprintable

/-- Whether a character merges with the one before it. -/
def isExtending (c : Char) : Bool :=
  0x300 ≤ c.val && inRanges c.toNat extending

/-- The code point in lowercase hexadecimal digits. -/
def hexDigits (point : Nat) : List Char := Nat.toDigits 16 point

def codePointEscape (c : Char) : List Char :=
  ['\\', 'u', '{'] ++ hexDigits c.toNat ++ ['}']

/-- The spelling of one character inside quotes of the kind `quote`. -/
def escapeChar (quote c : Char) : List Char :=
  if c = quote then ['\\', c]
  else match c with
    | '\x00' => ['\\', '0']
    | '\t' => ['\\', 't']
    | '\r' => ['\\', 'r']
    | '\n' => ['\\', 'n']
    | '\\' => ['\\', '\\']
    | c => if isPrintable c && !isExtending c then [c] else codePointEscape c

def quoted (text : String) : String :=
  String.ofList ('"' :: text.toList.flatMap (escapeChar '"') ++ ['"'])

/-- A character between single quotes. -/
def quotedChar (c : Char) : String :=
  String.ofList ('\'' :: escapeChar '\'' c ++ ['\''])

/-- Whether the rest of a literal starts with an octal digit. -/
def startsOctal : List Char → Bool
  | c :: _ => '0' ≤ c && c ≤ '7'
  | [] => false

/-- The body of a string literal. A null before an octal digit takes the two-digit form. -/
def literalBody : List Char → List Char
  | [] => []
  | '\x00' :: rest =>
    (if startsOctal rest then ['\\', 'x', '0', '0'] else ['\\', '0']) ++ literalBody rest
  | c :: rest => escapeChar '"' c ++ literalBody rest

/-- A text as a string literal of emitted code. -/
def literal (text : String) : String :=
  String.ofList ('"' :: literalBody text.toList ++ ['"'])

end Relay.Text
