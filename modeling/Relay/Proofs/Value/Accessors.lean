import Mathlib.Data.List.Nodup
import Relay.Proofs.Value.Slots

/-!
# Accessors

The pairs of typed access that a bundle has, one for each category.  Several of them keep their
values in the same way, a text and a character sequence, say, or an array and a list of integers;
what tells them apart is the category of the payload.  So a pair never reads an entry that another
pair has written, and the error names both categories, whose labels differ.
-/

namespace Relay

/-! ## Labels -/

namespace Category

/-- All categories. -/
def all : List Category :=
  ScalarKind.all.map scalar ++ [text, charSeq, handle, record, serializable] ++
    ScalarKind.all.map scalarArray ++
    [textArray, charSeqArray, recordArray, intList, textList, charSeqList, recordList,
      sparseRecords, size, sizeF]

theorem mem_all (c : Category) : c ∈ all := by
  cases c with
  | scalar kind | scalarArray kind => cases kind <;> decide
  | _ => decide

theorem nodup_labels : (all.map label).Nodup := by
  decide +kernel

theorem label_injective : Function.Injective label := fun c c' h =>
  List.inj_on_of_nodup_map nodup_labels (mem_all c) (mem_all c') h

end Category

/-! ## Pairs of typed access -/

/-- The pairs of typed access to an entry, by the type of the values. -/
inductive Accessor : Type → Type 1 where
  | scalar (kind : ScalarKind) : Accessor kind.Carrier
  | text : Accessor String
  | charSeq : Accessor CharSeq
  | handle : Accessor Handle
  | size : Accessor Size
  | sizeF : Accessor SizeF
  | record {α : Type} [Recordable α] : Accessor α
  | serializable {α : Type} [Serializable α] : Accessor α
  | scalarArray (kind : ScalarKind) : Accessor (List kind.Carrier)
  | textArray : Accessor (List String)
  | charSeqArray : Accessor (List CharSeq)
  | recordArray {α : Type} [Recordable α] : Accessor (List α)
  | intList : Accessor (List Int32)
  | textList : Accessor (List String)
  | charSeqList : Accessor (List CharSeq)
  | recordList {α : Type} [Recordable α] : Accessor (List α)
  | sparseRecords {α : Type} [Recordable α] : Accessor (SparseMap α)

namespace Accessor

variable {α : Type}

def slot : {α : Type} → Accessor α → Slot α
  | _, scalar kind => .scalar kind
  | _, text => .text
  | _, charSeq => .charSeq
  | _, handle => .handle
  | _, size => .size
  | _, sizeF => .sizeF
  | _, record => .record
  | _, serializable => .serializable
  | _, scalarArray kind => .scalarArray kind
  | _, textArray => .textArray
  | _, charSeqArray => .charSeqArray
  | _, recordArray => .recordArray
  | _, intList => .intList
  | _, textList => .textList
  | _, charSeqList => .charSeqList
  | _, recordList => .recordList
  | _, sparseRecords => .sparseRecords

def category (a : Accessor α) : Category := a.slot.category

/-- The type of the values obeys the law of the protocol in which they are kept. -/
def Lawful : {α : Type} → Accessor α → Prop
  | _, @record α _ => Recordable.Lawful α
  | _, @recordArray α _ => Recordable.Lawful α
  | _, @recordList α _ => Recordable.Lawful α
  | _, @sparseRecords α _ => Recordable.Lawful α
  | _, @serializable α _ => Serializable.Lawful α
  | _, _ => True

/-- The value is to be kept by its byte form and has none. -/
def Refuses : {α : Type} → Accessor α → α → Prop
  | _, serializable, v => ∃ reason, Serializable.write v = .error reason
  | _, _, _ => False

theorem faithful (a : Accessor α) (h : a.Lawful) : a.slot.Faithful a.Refuses := by
  cases a with
  | scalar kind =>
    exact .total (.scalar kind) (fun _ => rfl) (fun _ => trivial) (by simp [slot, Slot.scalar])
  | scalarArray kind =>
    exact .total (.scalarArray kind) (fun _ => rfl) (fun _ => trivial)
      (by simp [slot, Slot.scalarArray])
  | record => exact Slot.record_faithful h
  | serializable => exact Slot.serializable_faithful h
  | recordArray => exact Slot.recordArray_faithful h
  | recordList => exact Slot.recordList_faithful h
  | sparseRecords => exact Slot.sparseRecords_faithful h
  | text | charSeq | handle | size | sizeF | textArray | charSeqArray | intList | textList
  | charSeqList =>
    exact .total _ (fun _ => rfl) (fun _ => trivial) (fun _ => rfl)

theorem category_of_write {a : Accessor α} {v : α} {p : Payload} (h : a.slot.write v = .ok p) :
    p.category = a.category := by
  cases a with
  | serializable =>
    obtain ⟨bytes, -, rfl⟩ := Slot.serializable_write_eq_ok.1 h
    rfl
  | _ =>
    cases h
    rfl

theorem read_of_category_ne {a : Accessor α} {p : Payload} (h : p.category ≠ a.category) :
    a.slot.read p = none := by
  cases a with
  | scalar kind =>
    cases p with
    | scalar k v => exact dif_neg fun hk => h (congrArg Category.scalar hk)
    | _ => rfl
  | scalarArray kind =>
    cases p with
    | scalarArray k vs => exact dif_neg fun hk => h (congrArg Category.scalarArray hk)
    | _ => rfl
  | _ => cases p <;> first | rfl | exact absurd rfl h

end Accessor

namespace Bundle

variable {α : Type} {b : Bundle} {key : String}

theorem fetch_of_category_ne {a : Accessor α} {p : Payload} (hfind : b.find? key = some p)
    (h : p.category ≠ a.category) :
    b.fetch a.slot key = .error (.typeMismatch key a.category.label p.category.label) := by
  simp only [fetch, lookup, hfind, bind, Except.bind, Accessor.read_of_category_ne h]
  rfl

theorem fetch_of_missing {slot : Slot α} (hfind : b.find? key = none) :
    b.fetch slot key = .error (.missing key) := by
  simp only [fetch, lookup, hfind, bind, Except.bind]

theorem fetch_congr {b' : Bundle} (slot : Slot α) (h : b'.find? key = b.find? key) :
    b'.fetch slot key = b.fetch slot key := by
  simp only [fetch, lookup, h]

end Bundle

end Relay
