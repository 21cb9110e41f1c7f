import Relay.Delivery.Interface
import Relay.Sample.Records

/-!
# Sample interfaces

Four interfaces over the sample types. Together their parameters use every category.
-/
namespace Relay.Sample

/-- The declared types of the sample interfaces. -/
inductive TypeName where
  | point
  | pin
  | chain
  | style
  | settings
  | grid
  /-- A byte without sign. -/
  | octet
  | optionalText
  | textMap
deriving DecidableEq, Repr

namespace TypeName

/-- The values of a declared type. -/
@[reducible] def Val : TypeName → Type
  | point => Point
  | pin => Pin
  | chain => Chain
  | style => Style
  | settings => Settings
  | grid => Grid
  | octet => UInt8
  | optionalText => Option String
  | textMap => OrderedMap String String

/-- How a declared type describes itself. -/
def desc : TypeName → TypeDesc
  | point => .named "Point" ⟨true, false⟩
  | pin => .named "Pin" ⟨true, false⟩
  | chain => .named "Chain" ⟨true, false⟩
  | style => .named "Style" ⟨false, true⟩
  | settings => .named "Settings" ⟨false, true⟩
  | grid => .named "Grid" ⟨false, true⟩
  | octet => .named "u8" .none
  | optionalText => .named "Option" .none
  | textMap => .map [.text, .text]

def record? : (n : TypeName) → Option (Recordable n.Val)
  | point => some inferInstance
  | pin => some inferInstance
  | chain => some inferInstance
  | _ => none

/-- The types with a byte form. -/
def serial? : (n : TypeName) → Option (Serializable n.Val)
  | style => some inferInstance
  | settings => some inferInstance
  | grid => some inferInstance
  | _ => none

end TypeName

def types : Universe where
  Name := TypeName
  nameEq := inferInstance
  Val := TypeName.Val
  desc := TypeName.desc
  record? := TypeName.record?
  serial? := TypeName.serial?

abbrev Ty := ArgType TypeName

def param (name : String) (type : Ty) : Param types := ⟨name, type⟩

/-- Two small methods. -/
def greeter : Interface types where
  name := "Greeter"
  methods := [
    ⟨"noop", []⟩,
    ⟨"send", [param "words" .text]⟩]

/-- Methods over most categories. -/
def canvas : Interface types where
  name := "Canvas"
  methods := [
    ⟨"resize", [param "size" .size, param "density" .sizeF]⟩,
    ⟨"stroke", [param "path" (.list (.declared .point)), param "style" (.declared .style)]⟩,
    ⟨"fill", [param "origin" (.declared .point), param "bytes" (.array (.scalar .byte)),
      param "ratio" (.scalar .double), param "visible" (.scalar .bool),
      param "mark" (.scalar .char)]⟩,
    ⟨"label", [param "text" .charSeq, param "lines" (.list .text),
      param "ids" (.list (.scalar .int)), param "names" (.array .text)]⟩,
    ⟨"layers", [param "layers" (.sparse (.declared .point)),
      param "corners" (.array (.declared .point)), param "surface" .handle]⟩,
    ⟨"order", [param "zeta" (.scalar .short), param "alpha" (.scalar .long),
      param "mid" (.scalar .float)]⟩]

/-- Methods whose arguments cannot all cross a process boundary. -/
def counter : Interface types where
  name := "Counter"
  methods := [
    ⟨"reset", []⟩,
    ⟨"add", [param "amount" (.scalar .long), param "note" (.declared .optionalText)]⟩,
    ⟨"merge", [param "entries" (.declared .textMap)]⟩]

/-- Methods over the remaining categories, one of which can fail to be written and one of which can
nest too deep. -/
def probe : Interface types where
  name := "Probe"
  methods := [
    ⟨"scalars", [param "b" (.scalar .byte), param "s" (.scalar .short), param "i" (.scalar .int),
      param "l" (.scalar .long), param "f" (.scalar .float), param "d" (.scalar .double),
      param "c" (.scalar .char), param "z" (.scalar .bool)]⟩,
    ⟨"arrays", [param "b" (.array (.scalar .byte)), param "s" (.array (.scalar .short)),
      param "i" (.array (.scalar .int)), param "l" (.array (.scalar .long)),
      param "f" (.array (.scalar .float)), param "d" (.array (.scalar .double)),
      param "c" (.array (.scalar .char)), param "z" (.array (.scalar .bool))]⟩,
    ⟨"texts", [param "a" (.array .charSeq), param "l" (.list .charSeq),
      param "p" (.array (.declared .pin)), param "s" (.sparse (.declared .pin))]⟩,
    ⟨"grid", [param "cells" (.declared .grid)]⟩,
    ⟨"chain", [param "head" (.declared .chain)]⟩,
    ⟨"setup", [param "settings" (.declared .settings), param "pin" (.declared .pin)]⟩]

def interfaces : List (Interface types) := [greeter, canvas, counter, probe]

end Relay.Sample
