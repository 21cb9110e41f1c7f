import Relay.Json.Reader

/-!
# Writing JSON text

Compact text: no blanks, members in the order of the fields. A string keeps every character as it is
but the two that its form needs and the controls.
-/
namespace Relay.Json

def utf8 (text : String) : List UInt8 := text.toByteArray.data.toList

/-- A control character by its code unit. -/
def unitEscape (c : Char) : List Char :=
  let digit := fun n => Nat.digitChar (c.toNat / n % 16)
  ['\\', 'u', '0', '0', digit 16, digit 1]

/-- The spelling of a character in a string. -/
def escapeChar (c : Char) : List Char :=
  match c with
  | '"' => ['\\', '"']
  | '\\' => ['\\', '\\']
  | '\x08' => ['\\', 'b']
  | '\x0c' => ['\\', 'f']
  | '\n' => ['\\', 'n']
  | '\r' => ['\\', 'r']
  | '\t' => ['\\', 't']
  | c => if c.toNat < 0x20 then unitEscape c else [c]

def writeString (text : String) : List UInt8 :=
  utf8 (String.ofList ('"' :: text.toList.flatMap escapeChar ++ ['"']))

/-- A whole number. -/
def writeNatural (n : Nat) : List UInt8 := utf8 (toString n)

def commas : List (List UInt8) → List UInt8
  | [] => []
  | [item] => item
  | item :: rest => item ++ ascii ',' :: commas rest

def writeArray (items : List (List UInt8)) : List UInt8 :=
  ascii '[' :: commas items ++ [ascii ']']

def writeObject (ms : List (String × List UInt8)) : List UInt8 :=
  ascii '{' :: commas (ms.map fun m => writeString m.1 ++ ascii ':' :: m.2) ++ [ascii '}']

end Relay.Json
