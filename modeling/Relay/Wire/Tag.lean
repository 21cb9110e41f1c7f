import Relay.Value.Category

/-!
# Tags

The byte in front of every self-describing value. Each category has one tag, and three more frame an
envelope; those three are legal in one place each.
-/
namespace Relay

/-- What the byte in front of a value announces. -/
inductive Tag where
  | payload (category : Category)
  | bundle
  | noData
  | envelope
deriving DecidableEq, Repr

namespace Tag

def toByte : Tag → UInt8
  | payload (.scalar kind) => 0x01 + kind.index.toUInt8
  | payload .text => 0x10
  | payload .charSeq => 0x11
  | payload .handle => 0x12
  | payload .serializable => 0x13
  | payload .record => 0x14
  | payload (.scalarArray kind) => 0x20 + kind.index.toUInt8
  | payload .textArray => 0x28
  | payload .charSeqArray => 0x29
  | payload .recordArray => 0x2a
  | payload .intList => 0x30
  | payload .textList => 0x31
  | payload .charSeqList => 0x32
  | payload .recordList => 0x33
  | payload .sparseRecords => 0x34
  | payload .size => 0x40
  | payload .sizeF => 0x41
  | bundle => 0x50
  | noData => 0x51
  | envelope => 0x52

/-- Every tag, in ascending order of its byte. -/
def all : List Tag :=
  ScalarKind.all.map (fun kind => payload (.scalar kind)) ++
  [.text, .charSeq, .handle, .serializable, .record].map payload ++
  ScalarKind.all.map (fun kind => payload (.scalarArray kind)) ++
  [.textArray, .charSeqArray, .recordArray, .intList, .textList, .charSeqList, .recordList,
    .sparseRecords, .size, .sizeF].map payload ++
  [bundle, noData, envelope]

def ofByte? (b : UInt8) : Option Tag := all.find? fun tag => tag.toByte == b

def name : Tag → String
  | payload category => category.tagName
  | bundle => "Bundle"
  | noData => "NoData"
  | envelope => "Envelope"

end Tag

end Relay
