import Relay.Wire.Writer

/-!
# Reading frames

A reader takes what it needs from the front of the bytes and leaves the rest, also when it fails:
what was consumed before the failure stays consumed. An item of fixed size and the body of a blob
are taken as a whole or not at all.

Reading yields the entries of every level in the order in which they stand in the bytes. A frame is
then brought into canonical order, a later entry replacing an earlier one under the same key.

The nesting limit is the measure of the recursion: `Read.fields n` may open `n` more levels.
-/
namespace Relay

/-- A step that consumes bytes from the front and yields a value or an error. -/
def Reader (α : Type) : Type := List UInt8 → Except WireError α × List UInt8

namespace Reader

/-- Consumes nothing. -/
protected def pure {α : Type} (a : α) : Reader α := fun bytes => (.ok a, bytes)

/-- Goes on with what the first step left, unless that failed. -/
protected def bind {α β : Type} (r : Reader α) (next : α → Reader β) : Reader β := fun bytes =>
  match r bytes with
  | (.ok a, rest) => next a rest
  | (.error e, rest) => (.error e, rest)

instance : Monad Reader where
  pure := Reader.pure
  bind := Reader.bind

/-- Fails without consuming anything. -/
def fail {α : Type} (e : WireError) : Reader α := fun bytes => (.error e, bytes)

end Reader

/-- The first `n` elements and the rest, if there are that many. -/
def splitExact {α : Type} : Nat → List α → Option (List α × List α)
  | 0, xs => some ([], xs)
  | _ + 1, [] => none
  | n + 1, x :: xs => (splitExact n xs).map fun parts => (x :: parts.1, parts.2)

namespace Read

def take (n : Nat) : Reader (List UInt8) := fun bytes =>
  match splitExact n bytes with
  | some (taken, rest) => (.ok taken, rest)
  | none => (.error .unexpectedEnd, bytes)

def number (width : Nat) : Reader Nat := do
  return LittleEndian.value (← take width)

def byte : Reader UInt8 := do
  return (← number 1).toUInt8

/-- A number of four bytes. -/
def word : Reader UInt32 := do
  return (← number 4).toUInt32

def tag : Reader Tag := do
  let b ← byte
  match Tag.ofByte? b with
  | some t => pure t
  | none => .fail (.invalidTag b)

/-- The body of a blob, after its length. -/
def blob : Reader (List UInt8) := do
  take (← number 4)

def text : Reader String := do
  let bytes ← blob
  match String.fromUTF8? ⟨bytes.toArray⟩ with
  | some s => pure s
  | none => .fail .invalidUtf8

/-- A scalar without its tag. -/
def scalar : (kind : ScalarKind) → Reader kind.Carrier
  | .byte => do return (← number 1).toUInt8.toInt8
  | .short => do return (← number 2).toUInt16.toInt16
  | .int => do return (← number 4).toUInt32.toInt32
  | .long => do return (← number 8).toUInt64.toInt64
  | .float => do return ⟨(← number 4).toUInt32⟩
  | .double => do return ⟨(← number 8).toUInt64⟩
  | .char => do
    let point ← word
    if h : point.isValidChar then pure ⟨point, h⟩ else .fail (.invalidChar point)
  | .bool => do
    let b ← byte
    if b = 0 then pure false else if b = 1 then pure true else .fail (.invalidBool b)

def items {α : Type} (item : Reader α) : Nat → Reader (List α)
  | 0 => pure []
  | n + 1 => do
    let x ← item
    let xs ← items item n
    return x :: xs

def seq {α : Type} (item : Reader α) : Reader (List α) := do
  items item (← number 4)

/-- A record without its tag, given the reader of its fields. -/
def record (fields : Reader (List (String × Payload))) : Reader Record := do
  let name ← text
  return .mk name (← fields)

/-- What follows the tag of a category, given the reader of the fields of a record. -/
def body (fields : Reader (List (String × Payload))) : Category → Reader Payload
  | .scalar kind => do return .scalar kind (← scalar kind)
  | .text => do return .text (← text)
  | .charSeq => do return .charSeq ⟨← text⟩
  | .handle => do return .handle ⟨(← number 8).toUInt64⟩
  | .record => do return .record (← record fields)
  | .serializable => do return .serialized (← blob)
  | .scalarArray kind => do return .scalarArray kind (← seq (scalar kind))
  | .textArray => do return .textArray (← seq text)
  | .charSeqArray => do return .charSeqArray (← seq (do return ⟨← text⟩))
  | .recordArray => do return .recordArray (← seq (record fields))
  | .intList => do return .intList (← seq (scalar .int))
  | .textList => do return .textList (← seq text)
  | .charSeqList => do return .charSeqList (← seq (do return ⟨← text⟩))
  | .recordList => do return .recordList (← seq (record fields))
  | .sparseRecords => do
    return .sparseRecords (← seq (do
      let index ← scalar .int
      return (index, ← record fields)))
  | .size => do
    let width ← scalar .int
    return .size ⟨width, ← scalar .int⟩
  | .sizeF => do
    let width ← scalar .float
    return .sizeF ⟨width, ← scalar .float⟩

def payload (fields : Reader (List (String × Payload))) : Reader Payload := do
  match ← tag with
  | .payload category => body fields category
  | other => .fail (.unexpectedTag other)

/-- A count and the entries, with `levels` levels of nesting left for them and what they hold. -/
def fields : (levels : Nat) → Reader (List (String × Payload))
  | 0 => .fail .recursionLimitExceeded
  | levels + 1 => seq (do
      let key ← text
      return (key, ← payload (fields levels)))

end Read

namespace Frame

/-- Reads a frame, its entries in the order of the bytes. -/
def read : Reader Frame := do
  let first ← Read.tag
  if first = .envelope then
    let what ← Read.word
    match ← Read.tag with
    | .bundle => return ⟨what, some ⟨← Read.fields (maxNesting + 1)⟩⟩
    | .noData => return ⟨what, none⟩
    | other => .fail (.unexpectedTag other)
  else
    .fail (.unexpectedTag first)

/-- The frame with its entries in canonical order. -/
def canonical (f : Frame) : Frame := ⟨f.what, f.data.map Bundle.canonical⟩

/-- Reads a frame and puts its entries in canonical order. -/
def readCanonical : Reader Frame := do
  return (← read).canonical

/-- The frame that a byte sequence spells, all of it. -/
def decode (bytes : List UInt8) : Except WireError Frame :=
  match readCanonical bytes with
  | (.ok f, []) => .ok f
  | (.ok _, rest) => .error (.trailingBytes rest.length)
  | (.error e, _) => .error e

/-- Reads frames one after the other while bytes are left, at most `limit` of them. Each answer
comes with the number of bytes left after it. -/
def readStream : (limit : Nat) → List UInt8 → List (Except WireError Frame × Nat)
  | 0, _ => []
  | _ + 1, [] => []
  | limit + 1, bytes =>
    let (result, rest) := readCanonical bytes
    (result, rest.length) :: readStream limit rest

end Frame

end Relay
