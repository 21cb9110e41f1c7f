import Relay.Source.Identifier
import Relay.Source.TypeExpr
import Relay.Text.Quoted

/-!
# Writing code

Short ways to write down emitted code. `code` takes a row of tokens without groups, written with
blanks between them, as they are shown.
-/
namespace Relay

/-- The stretches of characters between blanks. -/
def stretches : List Char → List (List Char)
  | [] => [[]]
  | ' ' :: rest => [] :: stretches rest
  | c :: rest =>
    match stretches rest with
    | [] => [[c]]
    | first :: more => (c :: first) :: more

/-- The tokens of a piece of code without blanks and groups. -/
def codePiece : List Char → List Token
  | [] => []
  | '\'' :: name => Token.lifetime (String.ofList name)
  | c :: rest =>
    if startsWord c then [.word (String.ofList (c :: rest)) none]
    else if '0' ≤ c && c ≤ '9' then [.literal (String.ofList (c :: rest)) none]
    else Token.operatorChars (c :: rest)

/-- A row of tokens without groups. -/
def code (text : String) : List Token := (stretches text.toList).flatMap codePiece

def codeWord (word : String) : List Token := [.word word none]

def codeString (text : String) : List Token := [.literal (Text.literal text) none]

/-- A number of a field or element. -/
def codeIndex (index : Nat) : List Token := [.literal (toString index) none]

/-- The number of a method, which carries its type. -/
def codeId (id : UInt32) : List Token := [.literal (toString id.toNat ++ "u32") none]

/-- Documentation that mentions something from the declaration. -/
def codeDoc (text : String) : List Token :=
  Token.operator "#" ++ Token.bracket (code "doc =" ++ codeString text)

/-- A line of documentation that is the same for every declaration. -/
def codeNote (line : String) : List Token :=
  let text := if line.isEmpty then "" else " " ++ line
  Token.operator "#" ++ Token.bracket (code "doc =" ++ [.literal ("r\"" ++ text ++ "\"") none])

/-- Lines of documentation that are the same for every declaration. -/
def codeNotes (lines : List String) : List Token := lines.flatMap codeNote

def PathExpr.within (library : PathExpr) (names : List String) : PathExpr :=
  names.foldl (fun p name => p.snoc (.mk name .none)) library

end Relay
