/-!
# Reading JSON text

Typed readers over bytes. A reader skips blanks, takes one value of the type it knows from the front
and leaves the rest; a value of another type, or text that is not JSON, is refused.

Text that a reader skips, the value of a member it does not know, is checked for its form only: the
bytes of a skipped string need not be UTF-8 and its code-unit escapes need not pair up.
-/
namespace Relay.Json

/-- The byte of an ASCII character. -/
def ascii (c : Char) : UInt8 := c.toNat.toUInt8

/-- Space, line feed, carriage return and tab. -/
def isBlank (b : UInt8) : Bool := b == 0x20 || b == 0x0a || b == 0x0d || b == 0x09

/-- Bytes without the blanks in front. -/
def skipBlanks : List UInt8 → List UInt8
  | [] => []
  | b :: rest => if isBlank b then skipBlanks rest else b :: rest

/-- Whether a byte is a decimal digit. -/
def isDigit (b : UInt8) : Bool := 0x30 ≤ b && b ≤ 0x39

/-- Takes one byte, which must be the given one, after blanks. -/
def expect (c : Char) (bytes : List UInt8) : Option (List UInt8) :=
  match skipBlanks bytes with
  | b :: rest => if b == ascii c then some rest else none
  | [] => none

/-! ### Strings -/

/-- The value of a hexadecimal digit. -/
def hexDigit? (b : UInt8) : Option Nat :=
  if isDigit b then some (b.toNat - 0x30)
  else if 0x61 ≤ b && b ≤ 0x66 then some (b.toNat - 0x61 + 10)
  else if 0x41 ≤ b && b ≤ 0x46 then some (b.toNat - 0x41 + 10)
  else none

/-- The value of four hexadecimal digits. -/
def hexUnit? (a b c d : UInt8) : Option Nat := do
  let a ← hexDigit? a
  let b ← hexDigit? b
  let c ← hexDigit? c
  let d ← hexDigit? d
  return ((a * 16 + b) * 16 + c) * 16 + d

/-- The character of a one-letter escape. -/
def shortEscape? (b : UInt8) : Option UInt8 :=
  if b == ascii '"' || b == ascii '\\' || b == ascii '/' then some b
  else if b == ascii 'b' then some 0x08
  else if b == ascii 'f' then some 0x0c
  else if b == ascii 'n' then some 0x0a
  else if b == ascii 'r' then some 0x0d
  else if b == ascii 't' then some 0x09
  else none

/-- The UTF-8 bytes of a code point. -/
def pointBytes (point : Nat) : List UInt8 :=
  (String.singleton (Char.ofNat point)).toByteArray.data.toList

/-- The bytes that the body of a string stands for, and what follows its closing quote. The second
half of a pair of code units must follow the first at once. -/
def stringBody : List UInt8 → Option (List UInt8 × List UInt8)
  | [] => none
  | 0x22 :: rest => some ([], rest)
  | 0x5c :: 0x75 :: a :: b :: c :: d :: rest =>
    match hexUnit? a b c d with
    | none => none
    | some unit =>
      if 0xdc00 ≤ unit && unit ≤ 0xdfff then none
      else if 0xd800 ≤ unit && unit ≤ 0xdbff then
        match rest with
        | 0x5c :: 0x75 :: a' :: b' :: c' :: d' :: rest' =>
          match hexUnit? a' b' c' d' with
          | none => none
          | some low =>
            if 0xdc00 ≤ low && low ≤ 0xdfff then
              (stringBody rest').map fun tail =>
                (pointBytes ((unit - 0xd800) * 0x400 + (low - 0xdc00) + 0x10000) ++ tail.1, tail.2)
            else none
        | _ => none
      else (stringBody rest).map fun tail => (pointBytes unit ++ tail.1, tail.2)
  | 0x5c :: b :: rest =>
    match shortEscape? b with
    | none => none
    | some e => (stringBody rest).map fun tail => (e :: tail.1, tail.2)
  | b :: rest => if b < 0x20 then none else (stringBody rest).map fun tail => (b :: tail.1, tail.2)

def string (bytes : List UInt8) : Option (String × List UInt8) := do
  let body ← expect '"' bytes
  let (content, rest) ← stringBody body
  let text ← String.fromUTF8? ⟨content.toArray⟩
  return (text, rest)

/-! ### Numbers -/

/-- The digits at the front and the rest. -/
def digits (bytes : List UInt8) : List UInt8 × List UInt8 :=
  (bytes.takeWhile isDigit, bytes.dropWhile isDigit)

/-- The number that digits spell. -/
def digitsValue (ds : List UInt8) : Nat := ds.foldl (fun n d => n * 10 + (d.toNat - 0x30)) 0

/-- Whether the rest of a number goes on with a fraction or an exponent. -/
def goesOn : List UInt8 → Bool
  | b :: _ => b == ascii '.' || b == ascii 'e' || b == ascii 'E'
  | [] => false

/-- Reads a whole number without sign of at most `limit`. A number with a sign, a fraction, an
exponent or a needless leading zero is refused. -/
def natural (limit : Nat) (bytes : List UInt8) : Option (Nat × List UInt8) :=
  match digits (skipBlanks bytes) with
  | ([], _) => none
  | (d :: ds, rest) =>
    if (d == ascii '0' && !ds.isEmpty) || goesOn rest then none
    else
      let n := digitsValue (d :: ds)
      if n ≤ limit then some (n, rest) else none

/-! ### Skipping -/

/-- What follows the closing quote of a string whose content does not matter. -/
def skipString : List UInt8 → Option (List UInt8)
  | [] => none
  | 0x22 :: rest => some rest
  | 0x5c :: 0x75 :: a :: b :: c :: d :: rest =>
    match hexUnit? a b c d with
    | none => none
    | some _ => skipString rest
  | 0x5c :: b :: rest =>
    match shortEscape? b with
    | none => none
    | some _ => skipString rest
  | b :: rest => if b < 0x20 then none else skipString rest

/-- What follows an exponent, if there is one; its mark needs a digit after it. -/
def skipExponent : List UInt8 → Option (List UInt8)
  | [] => some []
  | b :: rest =>
    if b == ascii 'e' || b == ascii 'E' then
      let unsigned := match rest with
        | s :: more => if s == ascii '+' || s == ascii '-' then more else rest
        | [] => []
      match digits unsigned with
      | ([], _) => none
      | (_, rest) => some rest
    else some (b :: rest)

/-- What follows a fraction, if there is one; its point needs a digit after it. -/
def skipFraction : List UInt8 → Option (List UInt8)
  | [] => some []
  | b :: rest =>
    if b == ascii '.' then
      match digits rest with
      | ([], _) => none
      | (_, rest) => skipExponent rest
    else skipExponent (b :: rest)

/-- What follows a number without sign. -/
def skipNumber (bytes : List UInt8) : Option (List UInt8) :=
  match digits bytes with
  | ([], _) => none
  | (d :: ds, rest) => if d == ascii '0' && !ds.isEmpty then none else skipFraction rest

/-- What follows the given letters. -/
def skipWord (word : List Char) (bytes : List UInt8) : Option (List UInt8) :=
  match word, bytes with
  | [], bytes => some bytes
  | c :: cs, b :: rest => if b == ascii c then skipWord cs rest else none
  | _ :: _, [] => none

mutual

/-- What follows one value of any type. The first argument bounds the nesting. -/
def skipValue : Nat → List UInt8 → Option (List UInt8)
  | 0, _ => none
  | fuel + 1, bytes =>
    match skipBlanks bytes with
    | [] => none
    | b :: rest =>
      if b == ascii '"' then skipString rest
      else if b == ascii '-' then skipNumber rest
      else if isDigit b then skipNumber (b :: rest)
      else if b == ascii 'n' then skipWord ['u', 'l', 'l'] rest
      else if b == ascii 't' then skipWord ['r', 'u', 'e'] rest
      else if b == ascii 'f' then skipWord ['a', 'l', 's', 'e'] rest
      else if b == ascii '[' then
        match expect ']' rest with
        | some rest => some rest
        | none => skipElements fuel rest
      else if b == ascii '{' then
        match expect '}' rest with
        | some rest => some rest
        | none => skipMembers fuel rest
      else none

/-- What follows the elements of an array that has some. -/
def skipElements : Nat → List UInt8 → Option (List UInt8)
  | 0, _ => none
  | fuel + 1, bytes => do
    let rest ← skipValue fuel bytes
    match expect ',' rest with
    | some rest => skipElements fuel rest
    | none => expect ']' rest

/-- What follows the members of an object that has some. -/
def skipMembers : Nat → List UInt8 → Option (List UInt8)
  | 0, _ => none
  | fuel + 1, bytes => do
    let key ← expect '"' bytes
    let rest ← skipString key
    let rest ← expect ':' rest
    let rest ← skipValue fuel rest
    match expect ',' rest with
    | some rest => skipMembers fuel rest
    | none => expect '}' rest

end

/-- What follows one value of any type. -/
def skip (bytes : List UInt8) : Option (List UInt8) := skipValue (2 * bytes.length + 2) bytes

/-! ### Containers -/

/-- The elements of an array that has some, up to its end. The first argument bounds their number.
-/
def elements {α : Type} (item : List UInt8 → Option (α × List UInt8)) :
    Nat → List UInt8 → Option (List α × List UInt8)
  | 0, _ => none
  | fuel + 1, bytes => do
    let (x, rest) ← item bytes
    match expect ',' rest with
    | some rest =>
      let (xs, rest) ← elements item fuel rest
      return (x :: xs, rest)
    | none =>
      let rest ← expect ']' rest
      return ([x], rest)

def array {α : Type} (item : List UInt8 → Option (α × List UInt8)) (bytes : List UInt8) :
    Option (List α × List UInt8) := do
  let rest ← expect '[' bytes
  match expect ']' rest with
  | some rest => return ([], rest)
  | none => elements item (rest.length + 1) rest

/-- The members of an object that has some, up to its end. `step` is told each key and the text
after its colon, and must take the value. -/
def members {σ : Type} (step : String → σ → List UInt8 → Option (σ × List UInt8)) :
    Nat → σ → List UInt8 → Option (σ × List UInt8)
  | 0, _, _ => none
  | fuel + 1, state, bytes => do
    let (key, rest) ← string bytes
    let rest ← expect ':' rest
    let (state, rest) ← step key state rest
    match expect ',' rest with
    | some rest => members step fuel state rest
    | none =>
      let rest ← expect '}' rest
      return (state, rest)

/-- Reads an object, threading a state through its members. -/
def object {σ : Type} (step : String → σ → List UInt8 → Option (σ × List UInt8)) (state : σ)
    (bytes : List UInt8) : Option (σ × List UInt8) := do
  let rest ← expect '{' bytes
  match expect '}' rest with
  | some rest => return (state, rest)
  | none => members step (rest.length + 1) state rest

/-- The value of a member that may be given once. -/
def once {α : Type} (read : List UInt8 → Option (α × List UInt8)) (seen : Option α)
    (bytes : List UInt8) : Option (Option α × List UInt8) :=
  match seen with
  | some _ => none
  | none => (read bytes).map fun (x, rest) => (some x, rest)

/-- Reads a structure of one field: an object that has the field once, whatever else it has, or an
array of just the value. -/
def structure1 {α : Type} (name : String) (field : List UInt8 → Option (α × List UInt8))
    (bytes : List UInt8) : Option (α × List UInt8) :=
  match expect '[' bytes with
  | some rest => do
    let (x, rest) ← field rest
    let rest ← expect ']' rest
    return (x, rest)
  | none => do
    let step := fun key (seen : Option α) rest =>
      if key = name then once field seen rest
      else (skip rest).map fun rest => (seen, rest)
    let (seen, rest) ← object step none bytes
    let x ← seen
    return (x, rest)

/-- Reads a structure of two fields: an object that has each field once, whatever else it has, or an
array of just the two values in order. -/
def structure2 {α β : Type} (name₁ : String) (field₁ : List UInt8 → Option (α × List UInt8))
    (name₂ : String) (field₂ : List UInt8 → Option (β × List UInt8))
    (bytes : List UInt8) : Option ((α × β) × List UInt8) :=
  match expect '[' bytes with
  | some rest => do
    let (x, rest) ← field₁ rest
    let rest ← expect ',' rest
    let (y, rest) ← field₂ rest
    let rest ← expect ']' rest
    return ((x, y), rest)
  | none => do
    let step := fun key (seen : Option α × Option β) rest =>
      if key = name₁ then (once field₁ seen.1 rest).map fun (x, rest) => ((x, seen.2), rest)
      else if key = name₂ then (once field₂ seen.2 rest).map fun (y, rest) => ((seen.1, y), rest)
      else (skip rest).map fun rest => (seen, rest)
    let (seen, rest) ← object step (none, none) bytes
    let x ← seen.1
    let y ← seen.2
    return ((x, y), rest)

/-- Reads an object that must have no member. -/
def emptyObject (bytes : List UInt8) : Option (Unit × List UInt8) := do
  let rest ← expect '{' bytes
  let rest ← expect '}' rest
  return ((), rest)

/-- Reads a whole text: one value and nothing but blanks after it. -/
def whole {α : Type} (read : List UInt8 → Option (α × List UInt8)) (bytes : List UInt8) :
    Option α := do
  let (x, rest) ← read bytes
  if (skipBlanks rest).isEmpty then some x else none

end Relay.Json
