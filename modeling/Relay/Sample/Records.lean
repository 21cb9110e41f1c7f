import Relay.Json.Writer
import Relay.Value.Slot

/-!
# Sample types

A few types of values that take part in delivery: four records, one of which contains another and
one of which contains itself, and four types with a JSON form.
-/
namespace Relay.Sample

/-! ### Records -/

/-- A point of the plane. -/
structure Point where
  x : Int32
  y : Int32
deriving DecidableEq

instance : Recordable Point where
  typeName := "demo.Point"
  writeFields p :=
    (Bundle.empty.insert "x" (.scalar .int p.x)).insert "y" (.scalar .int p.y)
  readFields fields := do
    let x ← fields.fetch (.scalar .int) "x"
    let y ← fields.fetch (.scalar .int) "y"
    return ⟨x, y⟩

/-- A sequence of points. -/
structure Path where
  points : List Point
deriving DecidableEq

instance : Recordable Path where
  typeName := "demo.Path"
  writeFields p := Bundle.empty.insert "points" (.recordList (p.points.map Record.capture))
  readFields fields := do
    return ⟨← fields.fetch .recordList "points"⟩

/-- A labelled point. -/
structure Pin where
  position : Point
  label : String
deriving DecidableEq

instance : Recordable Pin where
  typeName := "demo.Pin"
  writeFields p :=
    (Bundle.empty.insert "at" (.record (Record.capture p.position))).insert "label" (.text p.label)
  readFields fields := do
    let position ← fields.fetch .record "at"
    let label ← fields.fetch .text "label"
    return ⟨position, label⟩

/-- A chain of links, of which only the length matters. Each link is a record inside the one before
it, so a long chain nests deep. -/
structure Chain where
  length : UInt32
deriving DecidableEq

namespace Chain

def recordName : String := "demo.Chain"

/-- The fields of a chain: none at its end, otherwise the rest of the chain. -/
def fields : Nat → List (String × Payload)
  | 0 => []
  | n + 1 => [("next", .record (.mk recordName (fields n)))]

mutual

/-- The length of the chain that starts with a payload. -/
def lengthOfPayload (p : Payload) : Except BundleError UInt32 :=
  match p with
  | .record r => lengthOfRecord r
  | p => .error (.typeMismatch "next" Category.record.label p.category.label)

/-- The length of the chain that starts with a record. -/
def lengthOfRecord : Record → Except BundleError UInt32
  | .mk name fields =>
    if name = recordName then lengthOfFields fields
    else .error (.recordMismatch recordName name)

/-- The length of the chain whose first link has the given fields. -/
def lengthOfFields : List (String × Payload) → Except BundleError UInt32
  | [] => .ok 0
  | (key, p) :: rest =>
    if key = "next" then (lengthOfPayload p).map (· + 1) else lengthOfFields rest

end

end Chain

instance : Recordable Chain where
  typeName := Chain.recordName
  writeFields c := ⟨Chain.fields c.length.toNat⟩
  readFields fields := (Chain.lengthOfFields fields.entries).map Chain.mk

/-! ### Types with a JSON form -/

/-- Reads a whole JSON text of a certain form. -/
def readJson {α : Type} (form : List UInt8 → Option (α × List UInt8)) (bytes : List UInt8) :
    Except String α :=
  match Json.whole form bytes with
  | some v => .ok v
  | none => .error "not a JSON text of this type"

instance : Serializable String where
  write text := .ok (Json.writeString text)
  read := readJson Json.string

/-- A colour and a width. -/
structure Style where
  color : String
  width : UInt8
deriving DecidableEq

def readByte (bytes : List UInt8) : Option (UInt8 × List UInt8) :=
  (Json.natural 255 bytes).map fun (n, rest) => (n.toUInt8, rest)

instance : Serializable Style where
  write s := .ok (Json.writeObject
    [("color", Json.writeString s.color), ("width", Json.writeNatural s.width.toNat)])
  read bytes :=
    (readJson (Json.structure2 "color" Json.string "width" readByte) bytes).map fun (c, w) =>
      ⟨c, w⟩

/-- A volume and tags. -/
structure Settings where
  volume : UInt8
  tags : List String
deriving DecidableEq

instance : Serializable Settings where
  write s := .ok (Json.writeObject
    [("volume", Json.writeNatural s.volume.toNat),
      ("tags", Json.writeArray (s.tags.map Json.writeString))])
  read bytes :=
    (readJson (Json.structure2 "volume" readByte "tags" (Json.array Json.string)) bytes).map
      fun (v, t) => ⟨v, t⟩

/-- A place in a grid. -/
structure Cell where
  x : Int32
  y : Int32
deriving DecidableEq

/-- Column by column, each from its first row. -/
def Cell.order : Cell → Cell → Ordering := compareLex (compareOn Cell.x) (compareOn Cell.y)

instance : Ord Cell := ⟨Cell.order⟩

instance : Std.TransOrd Cell :=
  inferInstanceAs (Std.TransCmp (compareLex (compareOn Cell.x) (compareOn Cell.y)))

/-- Numbers in the places of a grid. A place is no name of a JSON member, so only the empty grid has
a JSON form. -/
structure Grid where
  cells : OrderedMap Cell Int32
deriving DecidableEq

instance : Serializable Grid where
  write g :=
    if g.cells.isEmpty then .ok (Json.writeObject [("cells", Json.writeObject [])])
    else .error "key must be a string"
  read bytes := (readJson (Json.structure1 "cells" Json.emptyObject) bytes).map fun () => ⟨.empty⟩

end Relay.Sample
