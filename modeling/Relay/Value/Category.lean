/-!
# Categories of values

The closed list of kinds of values that can cross a process boundary. Each entry of a bundle belongs
to exactly one category, each parameter of a cross-process method has exactly one, and the byte
format has one tag for each. The eight scalar kinds are a list of their own, because they appear
twice: alone and as the elements of an array.
-/
namespace Relay

/-- The primitive scalar kinds. -/
inductive ScalarKind where
  | byte | short | int | long | float | double | char | bool
deriving DecidableEq, Repr

/-- What an entry of a bundle can hold. -/
inductive Category where
  | scalar (kind : ScalarKind)
  | text
  | charSeq
  | handle
  | record
  | serializable
  | scalarArray (kind : ScalarKind)
  | textArray
  | charSeqArray
  | recordArray
  | intList
  | textList
  | charSeqList
  | recordList
  | sparseRecords
  | size
  | sizeF
deriving DecidableEq, Repr

namespace ScalarKind

/-- The kinds in their fixed order. -/
def all : List ScalarKind := [byte, short, int, long, float, double, char, bool]

/-- The name of the kind, which is also the stem of its accessors. -/
def stem : ScalarKind → String
  | byte => "byte"
  | short => "short"
  | int => "int"
  | long => "long"
  | float => "float"
  | double => "double"
  | char => "char"
  | bool => "bool"

/-- The primitive type of the kind in source text. -/
def sourceName : ScalarKind → String
  | byte => "i8"
  | short => "i16"
  | int => "i32"
  | long => "i64"
  | float => "f32"
  | double => "f64"
  | char => "char"
  | bool => "bool"

/-- The kind that a primitive type of source text stands for. -/
def ofSourceName? (name : String) : Option ScalarKind :=
  all.find? fun kind => kind.sourceName == name

def tagName : ScalarKind → String
  | byte => "Byte"
  | short => "Short"
  | int => "Int"
  | long => "Long"
  | float => "Float"
  | double => "Double"
  | char => "Char"
  | bool => "Bool"

def index : ScalarKind → Nat
  | byte => 0
  | short => 1
  | int => 2
  | long => 3
  | float => 4
  | double => 5
  | char => 6
  | bool => 7

end ScalarKind

namespace Category

/-- The name of the category, as read in messages. -/
def label : Category → String
  | scalar kind => kind.stem
  | text => "text"
  | charSeq => "char sequence"
  | handle => "handle"
  | record => "record"
  | serializable => "serializable"
  | scalarArray kind => kind.stem ++ " array"
  | textArray => "text array"
  | charSeqArray => "char sequence array"
  | recordArray => "record array"
  | intList => "int list"
  | textList => "text list"
  | charSeqList => "char sequence list"
  | recordList => "record list"
  | sparseRecords => "sparse record map"
  | size => "size"
  | sizeF => "float size"

/-- The stem that the names of the two accessors of the category share. -/
def stem : Category → String
  | scalar kind => kind.stem
  | text => "text"
  | charSeq => "char_seq"
  | handle => "handle"
  | record => "record"
  | serializable => "serializable"
  | scalarArray kind => kind.stem ++ "_array"
  | textArray => "text_array"
  | charSeqArray => "char_seq_array"
  | recordArray => "record_array"
  | intList => "int_list"
  | textList => "text_list"
  | charSeqList => "char_seq_list"
  | recordList => "record_list"
  | sparseRecords => "sparse_records"
  | size => "size"
  | sizeF => "size_f"

def tagName : Category → String
  | scalar kind => kind.tagName
  | text => "Text"
  | charSeq => "CharSeq"
  | handle => "Handle"
  | record => "Record"
  | serializable => "Serialized"
  | scalarArray kind => kind.tagName ++ "Array"
  | textArray => "TextArray"
  | charSeqArray => "CharSeqArray"
  | recordArray => "RecordArray"
  | intList => "IntList"
  | textList => "TextList"
  | charSeqList => "CharSeqList"
  | recordList => "RecordList"
  | sparseRecords => "SparseRecords"
  | size => "Size"
  | sizeF => "SizeF"

/-- The platform level from which values of the category can be sent. -/
def minLevel? : Category → Option Nat
  | handle => some 18
  | size | sizeF => some 21
  | _ => none

/-- Whether writing copies the elements into a fresh container. -/
def copiesOnWrite : Category → Bool
  | intList | textList | charSeqList | recordList | sparseRecords => true
  | _ => false

/-- Whether writing can fail. -/
def fallibleWrite (c : Category) : Bool := c == serializable

end Category

end Relay
