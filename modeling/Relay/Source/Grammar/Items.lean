import Relay.Source.Grammar.Statements

/-!
# The grammar of items

Items are read to see whether they are well formed, and for what `Source.Item` keeps of them. A
trait keeps its members; of any other item only the kind and the name remain. Some forms are well
formed that no compiler accepts, or only under conditions; they count as items without a kind.
-/
namespace Relay.Grammar

open Relay.Parser

variable (g : Grammar)

/-! ### Generic parameters and conditions -/

def genericParam : Parser Unit := do
  let _ ← g.outerAttributes
  let ends : List Token → Bool := Ahead.anyOperator [",", ">", "="]
  if ← sees Ahead.lifetime then
    let _ ← lifetime
    if ← operator? ":" then discard (rowWhile ends "+" lifetime)
  else if ← keyword? "const" then
    let _ ← name
    operator ":"
    let _ ← g.type true
    if ← operator? "=" then discard g.constArgument
  else if ← keyword? "_" then return ()
  else
    let _ ← name
    if ← operator? ":" then discard (rowWhile ends "+" (g.bound false))
    if ← operator? "=" then discard (g.type true)

/-- Generic parameters in angle brackets, if there are any; tells whether one is declared. -/
def generics : Parser Bool := do
  if ← operator? "<" then
    let row ← rowUntil (Ahead.operator ">") "," g.genericParam
    operator ">"
    return !row.items.isEmpty
  else return false

def endsConditions (ts : List Token) : Bool :=
  ts.isEmpty || Ahead.group .brace ts || Ahead.anyOperator [",", ";", "="] ts ||
    (Ahead.operator ":" ts && !Ahead.operator "::" ts)

def condition : Parser Unit := do
  if ← sees (fun ts => Ahead.lifetime ts && Ahead.operator ":" (Ahead.skip ts)) then
    let _ ← lifetime
    operator ":"
    discard (rowWhile endsConditions "+" lifetime)
  else
    if ← sees (Ahead.keyword "for") then discard g.binder
    let _ ← g.type true
    operator ":"
    discard (rowWhile endsConditions "+" (g.bound false))

/-- Conditions, if there are any; tells whether the word that starts them is there. -/
def conditions : Parser Bool := do
  if ← keyword? "where" then
    discard (rowWhile endsConditions "," g.condition)
    return true
  else return false

/-! ### Visibility -/

/-- A visibility. Parentheses that do not restrict it are left alone; they may be a field's type. -/
def visibility : Parser Visibility := do
  if ← keyword? "pub" then
    match ← get with
    | .group .paren [.word w _] _ :: rest =>
      if ["crate", "self", "super"].contains w then
        set rest
        return .restricted false (.ofNames false [w])
      else return .everyone
    | .group .paren (.word "in" _ :: path) _ :: rest =>
      match whole? simplePath path with
      | some p =>
        set rest
        return .restricted true p
      | none => refuse
    | _ => return .everyone
  else return .inherited

def isWritten : Visibility → Bool
  | .inherited => false
  | _ => true

/-! ### Functions -/

/-- What stands between the parentheses of a function. -/
inductive Input where
  | receiver (r : Source.Receiver)
  | param (p : Source.Param)
  | variadic

/-- The object that a method is called on. -/
def receiver : Parser Source.Receiver := do
  let isReference ← operator? "&"
  if isReference then discard lifetime?
  let isMut ← keyword? "mut"
  keyword "self"
  if !isReference then
    if ← operator? ":" then discard (g.type true)
  return ⟨isReference, isMut⟩

/-- An input of a function. A name with arguments in angle brackets is taken for the type of a
parameter without a pattern. -/
def input : Parser Input := do
  let start ← position
  let _ ← g.outerAttributes
  if ← operator? "..." then return .variadic
  else
    match g.receiver (← get) with
    | some (r, rest) =>
      set rest
      return .receiver r
    | none =>
      if ← sees (fun ts => Ahead.name ts && Ahead.operator "<" (Ahead.skip ts)) then
        return .param ⟨none, ← g.type true, start⟩
      else
        let p ← g.pattern
        operator ":"
        if ← operator? "..." then return .variadic
        else return .param ⟨p.binding, ← g.type true, start⟩

/-- Whether inputs are the parameters of a function: a receiver only first, an open end only last.
-/
def inOrder : List Input → Bool
  | [] => true
  | [.variadic] => true
  | .variadic :: _ => false
  | .param _ :: rest | .receiver _ :: rest =>
    rest.all (fun i => !i matches .receiver _) && rest.dropLast.all fun i => !i matches .variadic

def receiverOf? : List Input → Option Source.Receiver
  | .receiver r :: _ => some r
  | _ => none

/-- The parameters among inputs. -/
def paramsOf (inputs : List Input) : List Source.Param :=
  inputs.filterMap fun
    | .param p => some p
    | _ => none

/-- The head of a function comes next. -/
def startsSignature (ts : List Token) : Bool :=
  let dropWord (w : String) (ts : List Token) := if Ahead.keyword w ts then Ahead.skip ts else ts
  let ts := dropWord "unsafe" (dropWord "async" (dropWord "const" ts))
  let ts :=
    if Ahead.keyword "extern" ts then
      if Ahead.string (Ahead.skip ts) then Ahead.skip (Ahead.skip ts) else Ahead.skip ts
    else ts
  Ahead.keyword "fn" ts

/-- The head of a function. -/
def signature : Parser Source.Signature := do
  let _ ← keyword? "const"
  let isAsync ← keyword? "async"
  let isUnsafe ← keyword? "unsafe"
  let _ ← abi
  keyword "fn"
  let name ← placedName
  let isGeneric ← g.generics
  let inputs ← inGroup .paren (commaRow g.input)
  let output ← g.returnType true
  let _ ← g.conditions
  if inOrder inputs.items then
    return ⟨name, isAsync, isUnsafe, isGeneric, receiverOf? inputs.items, paramsOf inputs.items,
      output⟩
  else refuse

/-- The body of a function, or a semicolon in its place; tells whether there is a body. -/
def body : Parser Bool := do
  if ← operator? ";" then return false
  else
    let _ ← g.block
    return true

/-! ### Constants, types and macro calls -/

/-- A constant: its name, whether it has a value, and whether it has no generic parameters and no
conditions. -/
def constant : Parser (Placed × Bool × Bool) := do
  keyword "const"
  expect (fun ts => Ahead.name ts || Ahead.keyword "_" ts)
  let name ← anyWord
  let bracketed ← sees (Ahead.operator "<")
  let _ ← g.generics
  operator ":"
  let _ ← g.type true
  let valued ← operator? "="
  if valued then discard (g.expression true)
  let conditional ← g.conditions
  operator ";"
  return (name, valued, !bracketed && !conditional)

/-- A named type: its name, and whether it is defined and has no bounds. -/
def namedType : Parser (Placed × Bool) := do
  keyword "type"
  let name ← placedName
  let _ ← g.generics
  let bounded ← operator? ":"
  if bounded then
    discard (rowUntil (fun ts => Ahead.keyword "where" ts || Ahead.anyOperator ["=", ";"] ts) "+"
      (g.bound false))
  let _ ← g.conditions
  let defined ← operator? "="
  if defined then discard (g.type true)
  let _ ← g.conditions
  operator ";"
  return (name, defined && !bounded)

/-- A macro call comes next. -/
def startsMacroCall (ts : List Token) : Bool := startsSimpleSegment ts || Ahead.operator "::" ts

/-- A macro call as an item or member, perhaps with a name. Only braces need no semicolon. -/
def macroItem (named : Bool) : Parser Unit := do
  let _ ← simplePath
  operator "!"
  if named then
    if ← sees (fun ts => Ahead.name ts || Ahead.keyword "try" ts) then discard anyWord
  let body ← anyGroup
  if isBrace body then return () else operator ";"

/-! ### Traits -/

/-- A member of a trait. One with a visibility, or marked as a default, is no member that a trait
can have. -/
def member : Parser Source.Member := do
  let start ← position
  let _ ← g.outerAttributes
  let vis ← visibility
  let marked ← keyword? "default"
  let plain := !isWritten vis && !marked
  let m ← if ← sees startsSignature then do
      let s ← g.signature
      let _ ← g.body
      pure (Source.Member.method s)
    else if ← sees (Ahead.keyword "const") then do
      let (name, valued, ordinary) ← g.constant
      pure (if ordinary then .const name valued else .other start)
    else if ← sees (Ahead.keyword "type") then do
      let (name, _) ← g.namedType
      pure (.type name)
    else if plain && (← sees startsMacroCall) then do
      macroItem false
      pure (.other start)
    else refuse
  return if plain then m else .other start

/-- A trait behind its visibility, or an alias of traits where `canAlias` says so. -/
def trait (vis : Visibility) (canAlias : Bool) : Parser Source.Content := do
  keyword "trait"
  let name ← placedName
  let isGeneric ← g.generics
  if canAlias && (← sees (Ahead.operator "=")) then
    operator "="
    discard (rowUntil (fun ts => Ahead.keyword "where" ts || Ahead.operator ";" ts) "+"
      (g.bound false))
    let _ ← g.conditions
    operator ";"
    return .other .other "item"
  else
    if ← operator? ":" then
      discard (rowUntil (fun ts => Ahead.keyword "where" ts || Ahead.group .brace ts) "+"
        (g.bound false))
    let _ ← g.conditions
    let members ← inGroup .brace (do
      let _ ← g.innerAttributes
      repeatWhile (fun ts => !ts.isEmpty) g.member)
    return .trait ⟨name, vis, isGeneric, members⟩

/-! ### Structures, enumerations and unions -/

def namedField : Parser Unit := do
  let _ ← g.outerAttributes
  let _ ← visibility
  if !(← keyword? "_") then discard name
  operator ":"
  discard (g.type true)

/-- A field without a name. -/
def bareField : Parser Unit := do
  let _ ← g.outerAttributes
  let _ ← visibility
  discard (g.type true)

def namedFields : Parser Unit := discard (inGroup .brace (commaRow g.namedField))

/-- Fields without names in parentheses. -/
def bareFields : Parser Unit := discard (inGroup .paren (commaRow g.bareField))

def structItem : Parser Source.Content := do
  keyword "struct"
  let name ← name
  let _ ← g.generics
  let conditional ← g.conditions
  if !conditional && (← sees (Ahead.group .paren)) then
    g.bareFields
    let _ ← g.conditions
    operator ";"
  else if ← sees (Ahead.group .brace) then g.namedFields
  else operator ";"
  return .other .struct name

def variant : Parser Unit := do
  let _ ← g.outerAttributes
  let _ ← visibility
  let _ ← name
  if ← sees (Ahead.group .brace) then g.namedFields
  else if ← sees (Ahead.group .paren) then g.bareFields
  if ← operator? "=" then discard (g.expression true)

def enumeration : Parser Source.Content := do
  keyword "enum"
  let name ← name
  let _ ← g.generics
  let _ ← g.conditions
  discard (inGroup .brace (commaRow g.variant))
  return .other .enum name

def union : Parser Source.Content := do
  keyword "union"
  let name ← name
  let _ ← g.generics
  let _ ← g.conditions
  g.namedFields
  return .other .union name

/-! ### Implementations -/

def implMember : Parser Unit := do
  let _ ← g.outerAttributes
  let vis ← visibility
  let marked ← if ← sees (fun ts =>
      Ahead.keyword "default" ts && !Ahead.operator "!" (Ahead.skip ts)) then keyword? "default"
    else pure false
  if ← sees startsSignature then
    let _ ← g.signature
    discard g.body
  else if ← sees (Ahead.keyword "const") then discard g.constant
  else if ← sees (Ahead.keyword "type") then discard g.namedType
  else if !isWritten vis && !marked && (← sees startsMacroCall) then macroItem false
  else refuse

/-- Generic parameters follow, and not a type in angle brackets. -/
def startsGenerics (ts : List Token) : Bool :=
  let rest := Ahead.skip ts
  let more := Ahead.skip rest
  Ahead.operator "<" ts && (Ahead.anyOperator [">", "#"] rest || Ahead.keyword "const" rest ||
    ((Ahead.lifetime rest || Ahead.name rest) && (Ahead.anyOperator [">", ",", "="] more ||
      (Ahead.operator ":" more && !Ahead.operator "::" more))))

/-- Whether a type is a path, as the name of a trait must be. -/
def isPath : TypeExpr → Bool
  | .path _ => true
  | _ => false

def implementation (vis : Visibility) : Parser Source.Content := do
  let _ ← keyword? "default"
  let _ ← keyword? "unsafe"
  keyword "impl"
  if ← sees startsGenerics then discard g.generics
  let isConst ← sees fun ts =>
    Ahead.keyword "const" ts || (Ahead.operator "?" ts && Ahead.keyword "const" (Ahead.skip ts))
  if isConst then
    let _ ← operator? "?"
    keyword "const"
  if ← sees (fun ts => Ahead.operator "!" ts && !Ahead.group .brace (Ahead.skip ts)) then
    operator "!"
  let first ← g.type true
  let ofTrait ← keyword? "for"
  if ofTrait then discard (g.type true)
  let _ ← g.conditions
  discard (inGroup .brace (do
    let _ ← g.innerAttributes
    repeatWhile (fun ts => !ts.isEmpty) g.implMember))
  if isWritten vis || isConst || (ofTrait && !isPath first) then return .other .other "item"
  else return .other .implementation "impl"

/-! ### Other items -/

def module : Parser Source.Content := do
  keyword "mod"
  let name ← if ← sees (Ahead.keyword "try") then do pure (← anyWord).word else name
  if ← operator? ";" then return .other .module name
  else
    discard (inGroup .brace (do
      let _ ← g.innerAttributes
      repeatWhile (fun ts => !ts.isEmpty) g.item))
    return .other .module name

/-- What a `use` names, with groups nested to a limited depth. -/
def useTreeUpTo : (depth : Nat) → Parser Unit
  | 0 => refuse
  | depth + 1 => do
    if ← operator? "*" then return ()
    else if ← sees (Ahead.group .brace) then
      discard (inGroup .brace (commaRow (do
        let _ ← operator? "::"
        useTreeUpTo depth)))
    else
      expect (fun ts => Ahead.name ts || Ahead.anyKeyword ["self", "super", "crate", "try"] ts)
      let _ ← anyWord
      if ← operator? "::" then useTreeUpTo depth
      else if ← keyword? "as" then
        expect (fun ts => Ahead.name ts || Ahead.keyword "_" ts)
        discard anyWord

/-- An item of no kind: a `use`, or a variable. -/
def useItem : Parser Unit := do
  keyword "use"
  let _ ← operator? "::"
  useTreeUpTo (sizeOfTokens (← get) + 1)
  operator ";"

/-- A variable. Its type or its value may be missing. -/
def variableItem : Parser Unit := do
  keyword "static"
  let _ ← keyword? "mut"
  let _ ← name
  if ← operator? "=" then discard (g.expression true)
  else
    operator ":"
    let _ ← g.type true
    if ← operator? "=" then discard (g.expression true)
  operator ";"

def libraryItem : Parser Unit := do
  keyword "extern"
  keyword "crate"
  if !(← keyword? "self") then discard name
  if ← keyword? "as" then
    expect (fun ts => Ahead.name ts || Ahead.keyword "_" ts)
    discard anyWord
  operator ";"

/-- A declaration of something foreign. -/
def foreignMember : Parser Unit := do
  let _ ← g.outerAttributes
  let vis ← visibility
  let _ ← if ← sees (fun ts => Ahead.keyword "safe" ts && startsSignature (Ahead.skip ts)) then
      keyword? "safe"
    else pure false
  if ← sees startsSignature then
    let _ ← g.signature
    discard g.body
  else if ← sees (Ahead.anyKeyword ["static", "unsafe", "safe"]) then
    if !(← sees (Ahead.keyword "static")) then discard anyWord
    g.variableItem
  else if ← sees (Ahead.keyword "type") then discard g.namedType
  else if !isWritten vis && (← sees startsMacroCall) then macroItem false
  else refuse

def foreignItem : Parser Unit := do
  let _ ← keyword? "unsafe"
  expect (Ahead.keyword "extern")
  let _ ← abi
  discard (inGroup .brace (do
    let _ ← g.innerAttributes
    repeatWhile (fun ts => !ts.isEmpty) g.foreignMember))

/-- A macro of the newer form. -/
def macroDeclaration : Parser Unit := do
  keyword "macro"
  let _ ← name
  if ← sees (Ahead.group .paren) then discard anyGroup
  expect (Ahead.group .brace)
  discard anyGroup

/-! ### Items -/

/-- The content of an item, behind its attributes. -/
def content : Parser Source.Content := do
  let vis ← visibility
  let ts ← get
  let rest := Ahead.skip ts
  let kindless (p : Parser Unit) : Parser Source.Content := do
    p
    return .other .other "item"
  if startsSignature ts then
    let s ← g.signature
    return if ← g.body then .other .function s.name.word else .other .other "item"
  else if Ahead.keyword "extern" ts then
    if Ahead.keyword "crate" rest then kindless libraryItem else kindless g.foreignItem
  else if Ahead.keyword "use" ts then kindless useItem
  else if Ahead.keyword "static" ts then kindless g.variableItem
  else if Ahead.keyword "const" ts then kindless (discard g.constant)
  else if Ahead.keyword "unsafe" ts then
    if Ahead.keyword "impl" rest then g.implementation vis
    else if Ahead.keyword "extern" rest then kindless g.foreignItem
    else
      keyword "unsafe"
      if Ahead.keyword "mod" rest then g.module
      else
        let _ ← keyword? "auto"
        g.trait vis false
  else if Ahead.keyword "mod" ts then g.module
  else if Ahead.keyword "type" ts then
    let (name, ordinary) ← g.namedType
    return if ordinary then .other .typeAlias name.word else .other .other "item"
  else if Ahead.keyword "struct" ts then g.structItem
  else if Ahead.keyword "enum" ts then g.enumeration
  else if Ahead.keyword "union" ts && Ahead.name rest then g.union
  else if Ahead.keyword "trait" ts then g.trait vis true
  else if Ahead.keyword "auto" ts && Ahead.keyword "trait" rest then
    keyword "auto"
    g.trait vis false
  else if Ahead.keyword "impl" ts ||
      (Ahead.keyword "default" ts && !Ahead.operator "!" rest) then g.implementation vis
  else if Ahead.keyword "macro" ts then kindless macroDeclaration
  else if !isWritten vis && startsMacroCall ts then kindless (macroItem true)
  else refuse

def itemForm : Parser Source.Item := do
  let start ← position
  let _ ← g.outerAttributes
  return ⟨← g.content, start⟩

end Relay.Grammar
