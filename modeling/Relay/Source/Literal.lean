import Relay.Source.Identifier

/-!
# Literals

The extent of a literal at the start of a text: strings, byte strings and null-terminated strings,
each plain or raw, bytes, characters, floating numbers and integers. A function `after…?` gives the
text behind what it recognises, and nothing when the text does not start with it. A literal may end
in a suffix, which is a word.

The value of a string literal is `stringValue?`.
-/
namespace Relay.Literal

/-! ### Words and suffixes -/

/-- The text behind a word without `r#`. -/
def afterWord? : List Char → Option (List Char)
  | c :: rest => if startsWord c then some (rest.dropWhile continuesWord) else none
  | [] => none

/-- The text behind a suffix, if there is one. -/
def afterSuffix (cs : List Char) : List Char := (afterWord? cs).getD cs

/-! ### Escapes -/

/-- The three families of string literals. -/
inductive Family where
  | text
  /-- Bytes, written as characters of seven bits. -/
  | bytes
  /-- Any characters but the null character. -/
  | terminated
deriving DecidableEq, Repr

/-- The value of a hexadecimal digit. -/
def hexValue? (c : Char) : Option Nat :=
  if '0' ≤ c && c ≤ '9' then some (c.toNat - '0'.toNat)
  else if 'a' ≤ c && c ≤ 'f' then some (c.toNat - 'a'.toNat + 10)
  else if 'A' ≤ c && c ≤ 'F' then some (c.toNat - 'A'.toNat + 10)
  else none

/-- The code point spelled by up to six digits and a closing brace, and the text behind. -/
def codePoint? (value digits : Nat) : List Char → Option (Nat × List Char)
  | '_' :: rest => if digits = 0 then none else codePoint? value digits rest
  | '}' :: rest => if digits = 0 then none else some (value, rest)
  | c :: rest =>
    match hexValue? c with
    | some d => if digits = 6 then none else codePoint? (16 * value + d) (digits + 1) rest
    | none => none
  | [] => none

/-- The text behind an escaped line end and the blanks that follow it. Something must follow. -/
def afterLineEnd? : List Char → Option (List Char)
  | '\r' :: '\n' :: rest => afterLineEnd? rest
  | '\r' :: _ => none
  | c :: rest =>
    if c = ' ' || c = '\t' || c = '\n' then afterLineEnd? rest else some (c :: rest)
  | [] => none

/-- The text behind what follows a backslash. Line ends can be escaped in strings only. -/
def afterEscape? (family : Family) (inString : Bool) : List Char → Option (List Char)
  | 'x' :: a :: b :: rest => do
    let high ← hexValue? a
    let low ← hexValue? b
    match family with
    | .text => if high < 8 then some rest else none
    | .bytes => some rest
    | .terminated => if high = 0 && low = 0 then none else some rest
  | 'u' :: '{' :: digits => do
    let (value, rest) ← codePoint? 0 0 digits
    match family with
    | .text => if value.isValidChar then some rest else none
    | .bytes => none
    | .terminated => if value.isValidChar && value != 0 then some rest else none
  | '0' :: rest => if family = .terminated then none else some rest
  | c :: rest =>
    if c = 'n' || c = 'r' || c = 't' || c = '\\' || c = '\'' || c = '"' then some rest
    else if inString && (c = '\n' || c = '\r') then afterLineEnd? (c :: rest)
    else none
  | [] => none

/-- Whether a character may stand for itself in a string of the family. -/
def Family.allows : Family → Char → Bool
  | text, _ => true
  | bytes, c => c.val < 0x80
  | terminated, c => c != '\x00'

/-! ### Strings -/

/-- The text behind the rest of a plain string, its closing quote included. -/
def afterPlain? (family : Family) : (fuel : Nat) → List Char → Option (List Char)
  | 0, _ => none
  | fuel + 1, cs =>
    match cs with
    | '"' :: rest => some rest
    | '\r' :: '\n' :: rest => afterPlain? family fuel rest
    | '\r' :: _ => none
    | '\\' :: rest => do afterPlain? family fuel (← afterEscape? family true rest)
    | c :: rest => if family.allows c then afterPlain? family fuel rest else none
    | [] => none

/-- The number of hashes in front of the quote that opens a raw string, and the text behind it. -/
def hashes? (count : Nat) : List Char → Option (Nat × List Char)
  | '#' :: rest => hashes? (count + 1) rest
  | '"' :: rest => if count ≤ 255 then some (count, rest) else none
  | _ => none

/-- The text behind a number of hashes. -/
def afterHashes? : Nat → List Char → Option (List Char)
  | 0, cs => some cs
  | n + 1, '#' :: rest => afterHashes? n rest
  | _ + 1, _ => none

/-- The text behind the rest of a raw string, its closing quote and hashes included. -/
def afterRaw? (family : Family) (hashes : Nat) : List Char → Option (List Char)
  | '"' :: rest =>
    match afterHashes? hashes rest with
    | some behind => some behind
    | none => afterRaw? family hashes rest
  | '\r' :: '\n' :: rest => afterRaw? family hashes rest
  | '\r' :: _ => none
  | c :: rest => if family.allows c then afterRaw? family hashes rest else none
  | [] => none

/-- The text behind a string, given the text behind the letter of its family. -/
def afterString? (family : Family) : List Char → Option (List Char)
  | '"' :: rest => (afterPlain? family (rest.length + 1) rest).map afterSuffix
  | 'r' :: rest => do
    let (hashes, body) ← hashes? 0 rest
    (afterRaw? family hashes body).map afterSuffix
  | _ => none

/-- The text behind a byte, given the text behind its first quote; or behind a character. -/
def afterQuoted? (family : Family) : List Char → Option (List Char)
  | '\\' :: rest => do
    match ← afterEscape? family false rest with
    | '\'' :: rest => some (afterSuffix rest)
    | _ => none
  | c :: '\'' :: rest => if family.allows c then some (afterSuffix rest) else none
  | _ => none

/-! ### Numbers -/

/-- Whether a character is a decimal digit. -/
def isDigit (c : Char) : Bool := '0' ≤ c && c ≤ '9'

/-- Whether a character can go on a row of decimal digits. -/
def isDigitOrGap (c : Char) : Bool := isDigit c || c == '_'

/-- The text behind an exponent, given the text behind its letter. The exponent needs a digit; when
it has none, or two signs, the number ends where `otherwise` says. -/
def afterExponent? (otherwise : Option (List Char)) (signed valued : Bool) :
    List Char → Option (List Char)
  | c :: rest =>
    if c = '+' || c = '-' then
      if valued then some (c :: rest)
      else if signed then otherwise
      else afterExponent? otherwise true valued rest
    else if isDigit c then afterExponent? otherwise signed true rest
    else if c = '_' then afterExponent? otherwise signed valued rest
    else if valued then some (c :: rest) else otherwise
  | [] => if valued then some [] else otherwise

/-- Whether a text starts with a dot or a word. -/
def startsMember : List Char → Bool
  | c :: _ => c == '.' || startsWord c
  | [] => false

/-- The text behind the digits of a floating number, which has a dot, an exponent or both. A dot
that another dot or a word follows is none of the number. -/
def afterFloatDigits? (cs : List Char) : Option (List Char) :=
  match cs with
  | [] => none
  | first :: rest =>
    if isDigit first then
      match rest.dropWhile isDigitOrGap with
      | '.' :: fraction =>
        if startsMember fraction then none
        else
          match fraction.dropWhile isDigitOrGap with
          | 'e' :: behind => afterExponent? (some ('e' :: behind)) false false behind
          | 'E' :: behind => afterExponent? (some ('E' :: behind)) false false behind
          | behind => some behind
      | 'e' :: behind => afterExponent? none false false behind
      | 'E' :: behind => afterExponent? none false false behind
      | _ => none
    else none

/-- The base of an integer, and its digits. -/
def baseOf : List Char → Nat × List Char
  | '0' :: 'x' :: rest => (16, rest)
  | '0' :: 'o' :: rest => (8, rest)
  | '0' :: 'b' :: rest => (2, rest)
  | cs => (10, cs)

/-- The text behind the digits of an integer. A decimal digit beyond the base is refused; a letter
beyond it ends the digits. -/
def afterDigits? (base : Nat) (found : Bool) : List Char → Option (List Char)
  | '_' :: rest => if !found && base = 10 then none else afterDigits? base found rest
  | c :: rest =>
    match hexValue? c with
    | some d =>
      if d < base then afterDigits? base true rest
      else if isDigit c then none
      else if found then some (c :: rest) else none
    | none => if found then some (c :: rest) else none
  | [] => if found then some [] else none

/-- The text behind the suffix of a number, where no further letter may follow. -/
def afterNumber? (cs : List Char) : Option (List Char) :=
  match afterSuffix cs with
  | [] => some []
  | c :: rest => if continuesWord c then none else some (c :: rest)

/-- The text behind an integer. -/
def afterInteger? (cs : List Char) : Option (List Char) :=
  let (base, digits) := baseOf cs
  (afterDigits? base false digits).bind afterNumber?

/-- The text behind a floating number. -/
def afterFloat? (cs : List Char) : Option (List Char) := (afterFloatDigits? cs).bind afterNumber?

/-! ### All literals -/

def after? (cs : List Char) : Option (List Char) :=
  afterString? .text cs
  <|> (match cs with
    | 'b' :: rest => afterString? .bytes rest
    | 'c' :: rest => afterString? .terminated rest
    | _ => none)
  <|> (match cs with
    | 'b' :: '\'' :: rest => afterQuoted? .bytes rest
    | '\'' :: rest => afterQuoted? .text rest
    | _ => none)
  <|> afterFloat? cs
  <|> afterInteger? cs

/-! ### The value of a string -/

/-- The text behind blanks and line ends. -/
def dropBlanks (cs : List Char) : List Char :=
  cs.dropWhile fun c => c = ' ' || c = '\t' || c = '\n' || c = '\r'

/-- The characters that a plain string stands for, up to its closing quote. -/
def plainValue : (fuel : Nat) → List Char → List Char
  | 0, _ => []
  | fuel + 1, cs =>
    match cs with
    | '"' :: _ => []
    | '\r' :: '\n' :: rest => '\n' :: plainValue fuel rest
    | '\\' :: 'x' :: a :: b :: rest =>
      Char.ofNat (16 * (hexValue? a).getD 0 + (hexValue? b).getD 0) :: plainValue fuel rest
    | '\\' :: 'u' :: '{' :: digits =>
      match codePoint? 0 0 digits with
      | some (value, rest) => Char.ofNat value :: plainValue fuel rest
      | none => []
    | '\\' :: 'n' :: rest => '\n' :: plainValue fuel rest
    | '\\' :: 'r' :: rest => '\r' :: plainValue fuel rest
    | '\\' :: 't' :: rest => '\t' :: plainValue fuel rest
    | '\\' :: '0' :: rest => '\x00' :: plainValue fuel rest
    | '\\' :: c :: rest =>
      if c = '\n' || c = '\r' then plainValue fuel (dropBlanks (c :: rest))
      else c :: plainValue fuel rest
    | c :: rest => c :: plainValue fuel rest
    | [] => []

/-- The characters of a raw string, up to its closing quote. -/
def rawValue (hashes : Nat) : List Char → List Char
  | '"' :: rest =>
    match afterHashes? hashes rest with
    | some _ => []
    | none => '"' :: rawValue hashes rest
  | c :: rest => c :: rawValue hashes rest
  | [] => []

/-- The text that a string literal stands for; nothing for other literals. -/
def stringValue? (literal : String) : Option String :=
  match literal.toList with
  | '"' :: rest => some (String.ofList (plainValue rest.length rest))
  | 'r' :: rest => (hashes? 0 rest).map fun (hashes, body) => String.ofList (rawValue hashes body)
  | _ => none

end Relay.Literal
