import Relay.Proofs.Value.Settling
import Relay.Proofs.Wire.Limits
import Relay.Proofs.Wire.RoundTrip

/-!
# The grammar of frames

A frame whose entries stand in any order, with any key as often as one likes, is a tree of the
grammar.  `layout` gives the bytes of every tree: it is total, and knows of no limit.  The limits
are a condition on the tree, `Frame.Fits`.  Within them the layout of a tree decodes to what the
tree settles into, and every byte sequence that decodes is the layout of exactly one tree.

The reader was compared with the writer (`Frame.read_matches`), so it is left to compare the writer
with the layout.  `Output.Spells` is one half of that, for every form: what is written in full is
the layout, and every length in it fits.  The other half is that a tree within the limits is written
in full, and that was the subject of `Frame.write_tooDeepIff`.
-/

namespace Relay

namespace Grammar

/-! ## Forms

Numbers have a fixed width, the lowest byte first.  A length and a count have four bytes. -/

def word (n : Nat) : List UInt8 := LittleEndian.bytes 4 n

def blob (bytes : List UInt8) : List UInt8 := word bytes.length ++ bytes

def text (s : String) : List UInt8 := blob (Write.textBytes s)

def scalar (kind : ScalarKind) (v : kind.Carrier) : List UInt8 :=
  LittleEndian.bytes kind.width (kind.toWord v)

def sequence {α : Type} (item : α → List UInt8) (items : List α) : List UInt8 :=
  word items.length ++ items.flatMap item

end Grammar

open Grammar in
mutual

/-- A payload without its tag. -/
def Payload.content : Payload → List UInt8
  | .scalar kind v => scalar kind v
  | .text v => text v
  | .charSeq v => text v.text
  | .handle v => LittleEndian.bytes 8 v.raw.toNat
  | .record r => r.layout
  | .serialized bytes => blob bytes
  | .scalarArray kind vs => sequence (scalar kind) vs
  | .textArray vs => sequence text vs
  | .charSeqArray vs => sequence (fun v => text v.text) vs
  | .recordArray rs => word rs.length ++ recordsLayout rs
  | .intList vs => sequence (scalar .int) vs
  | .textList vs => sequence text vs
  | .charSeqList vs => sequence (fun v => text v.text) vs
  | .recordList rs => word rs.length ++ recordsLayout rs
  | .sparseRecords es => word es.length ++ sparseLayout es
  | .size v => scalar .int v.width ++ scalar .int v.height
  | .sizeF v => scalar .float v.width ++ scalar .float v.height

/-- A record: the name of its type and the body of its entries. -/
def Record.layout : Record → List UInt8
  | .mk name fields => text name ++ word fields.length ++ fieldsLayout fields

def recordsLayout : List Record → List UInt8
  | [] => []
  | r :: rest => r.layout ++ recordsLayout rest

/-- Every entry is its key, the tag of its payload, and the payload. -/
def fieldsLayout : List (String × Payload) → List UInt8
  | [] => []
  | (key, p) :: rest =>
    text key ++ (Tag.payload p.category).toByte :: p.content ++ fieldsLayout rest

def sparseLayout : List (Int32 × Record) → List UInt8
  | [] => []
  | (index, r) :: rest => scalar .int index ++ r.layout ++ sparseLayout rest

end

def Payload.layout (p : Payload) : List UInt8 := (Tag.payload p.category).toByte :: p.content

/-- The bytes of a frame tree. -/
def Frame.layout (f : Frame) : List UInt8 :=
  Tag.envelope.toByte :: Grammar.word f.what.toNat ++
    match f.data with
    | some b => Tag.bundle.toByte :: Grammar.word b.entries.length ++ fieldsLayout b.entries
    | none => [Tag.noData.toByte]

/-- Every length in the tree is below the bound, and no more than the permitted number of records
stand inside one another. -/
def Frame.Fits (f : Frame) : Prop := ∀ b, f.data = some b → b.Sized ∧ b.nesting ≤ maxNesting

theorem recordsLayout_eq_flatMap (rs : List Record) :
    recordsLayout rs = rs.flatMap Record.layout := by
  induction rs with
  | nil => rfl
  | cons r rest ih => rw [recordsLayout, ih, List.flatMap_cons]

theorem fieldsLayout_eq_flatMap (es : List (String × Payload)) :
    fieldsLayout es = es.flatMap fun e => Grammar.text e.1 ++ e.2.layout := by
  induction es with
  | nil => rfl
  | cons e rest ih => rw [fieldsLayout, ih, List.flatMap_cons, Payload.layout]

theorem sparseLayout_eq_flatMap (es : List (Int32 × Record)) :
    sparseLayout es = es.flatMap fun e => Grammar.scalar .int e.1 ++ e.2.layout := by
  induction es with
  | nil => rfl
  | cons e rest ih => rw [sparseLayout, ih, List.flatMap_cons]

/-! ## What is written in full -/

namespace Output

/-- Whatever is written in full is the bytes, and then the condition holds. -/
def Spells (o : Output) (P : Prop) (bytes : List UInt8) : Prop :=
  ∀ used, o = ofBytes used → P ∧ used = bytes

variable {a b : Output} {P Q : Prop} {xs ys : List UInt8}

theorem spells_ofBytes (bytes : List UInt8) : (ofBytes bytes).Spells True bytes :=
  fun _ h => ⟨trivial, (ofBytes_inj.1 h).symm⟩

theorem Spells.append (ha : a.Spells P xs) (hb : b.Spells Q ys) :
    (a ++ b).Spells (P ∧ Q) (xs ++ ys) := by
  intro used h
  obtain ⟨front, back, hfront, hback, rfl⟩ := append_eq_ofBytes.1 h
  obtain ⟨hP, rfl⟩ := ha front hfront
  obtain ⟨hQ, rfl⟩ := hb back hback
  exact ⟨⟨hP, hQ⟩, rfl⟩

theorem Spells.imp (h : a.Spells P xs) (hPQ : P → Q) : a.Spells Q xs :=
  fun used hused => ⟨hPQ (h used hused).1, (h used hused).2⟩

end Output

namespace Write

open Output

theorem count_spells (n : Nat) : (count n).Spells (n < 4294967296) (Grammar.word n) := by
  intro used h
  unfold count at h
  split at h
  · next hn => exact ⟨hn, (ofBytes_inj.1 h).symm⟩
  · exact (stop_ne_ofBytes _ _ h).elim

theorem blob_spells (bytes : List UInt8) :
    (blob bytes).Spells (bytes.length < 4294967296) (Grammar.blob bytes) :=
  ((count_spells _).append (spells_ofBytes bytes)).imp And.left

theorem text_spells (s : String) :
    (text s).Spells (s.utf8ByteSize < 4294967296) (Grammar.text s) :=
  blob_spells _

theorem scalar_spells (kind : ScalarKind) (v : kind.Carrier) :
    (scalar kind v).Spells True (Grammar.scalar kind v) :=
  spells_ofBytes _

theorem each_spells {α : Type} {item : α → Output} {lay : α → List UInt8} {P : α → Prop}
    {xs : List α} (h : ∀ x ∈ xs, (item x).Spells (P x) (lay x)) :
    (each item xs).Spells (∀ x ∈ xs, P x) (xs.flatMap lay) := by
  induction xs with
  | nil => exact (spells_ofBytes []).imp fun _ => List.forall_mem_nil _
  | cons x xs ih =>
    rw [List.forall_mem_cons] at h
    rw [each, List.flatMap_cons]
    exact (h.1.append (ih h.2)).imp List.forall_mem_cons.2

theorem seq_spells {α : Type} {item : α → Output} {lay : α → List UInt8} {P : α → Prop}
    {xs : List α} (h : ∀ x ∈ xs, (item x).Spells (P x) (lay x)) :
    (seq item xs).Spells (xs.length < 4294967296 ∧ ∀ x ∈ xs, P x)
      (Grammar.word xs.length ++ xs.flatMap lay) :=
  (count_spells _).append (each_spells h)

theorem fields_spells {es : List (String × Payload)} {depth : Nat}
    (h : ∀ e ∈ es, (payload e.2 depth).Spells e.2.Sized e.2.layout) :
    (fields es depth).Spells
      (es.length < 4294967296 ∧ ∀ e ∈ es, e.1.utf8ByteSize < 4294967296 ∧ e.2.Sized)
      (Grammar.word es.length ++ fieldsLayout es) := by
  unfold fields
  split
  · intro used hused
    exact (stop_ne_ofBytes _ _ hused).elim
  · rw [fieldsLayout_eq_flatMap]
    exact seq_spells fun e he => (text_spells e.1).append (h e he)

/-- Whatever is written in full is the layout, and every length in it fits. -/
theorem spells_layout :
    (∀ (p : Payload) (depth : Nat), (payload p depth).Spells p.Sized p.layout) ∧
      ∀ (r : Record) (depth : Nat), (record r depth).Spells r.Sized r.layout := by
  apply Payload.nested_induction
  · intro p ih depth
    rw [payload_eq]
    refine ((spells_ofBytes _).append (?_ : (content p depth).Spells p.Sized p.content)).imp
      And.right
    cases p with
    | scalar kind v =>
      refine (scalar_spells kind v).imp fun _ => ?_
      simp [Payload.Sized, Payload.lengths]
    | handle v =>
      refine (spells_ofBytes _).imp fun _ => ?_
      simp [Payload.Sized, Payload.lengths]
    | size v =>
      refine ((scalar_spells .int v.width).append (scalar_spells .int v.height)).imp fun _ => ?_
      simp [Payload.Sized, Payload.lengths]
    | sizeF v =>
      refine ((scalar_spells .float v.width).append (scalar_spells .float v.height)).imp
        fun _ => ?_
      simp [Payload.Sized, Payload.lengths]
    | text v | charSeq v =>
      refine (text_spells _).imp fun hlen => ?_
      simpa [Payload.Sized, Payload.lengths] using hlen
    | serialized bytes =>
      refine (blob_spells bytes).imp fun hlen => ?_
      simpa [Payload.Sized, Payload.lengths] using hlen
    | scalarArray kind vs =>
      refine (seq_spells fun v _ => scalar_spells kind v).imp fun hlen => ?_
      simpa [Payload.Sized, Payload.lengths] using hlen.1
    | intList vs =>
      refine (seq_spells fun v _ => scalar_spells .int v).imp fun hlen => ?_
      simpa [Payload.Sized, Payload.lengths] using hlen.1
    | textArray vs | charSeqArray vs | textList vs | charSeqList vs =>
      refine (seq_spells fun v _ => text_spells _).imp fun hlen => ?_
      simpa [Payload.Sized, Payload.lengths] using hlen
    | record r => exact ih r (List.mem_singleton.2 rfl) depth
    | recordArray rs | recordList rs =>
      rw [Payload.content, recordsLayout_eq_flatMap]
      refine (seq_spells fun r hr => ih r hr depth).imp fun hlen => ?_
      simpa only [Payload.Sized, Payload.lengths, Payload.records, Record.Sized,
        recordsLengths_eq_flatMap, List.forall_mem_cons, List.forall_mem_flatMap] using hlen
    | sparseRecords es =>
      rw [Payload.content, sparseLayout_eq_flatMap]
      refine (seq_spells fun e he => (scalar_spells .int e.1).append
        (ih e.2 (List.mem_map_of_mem he) depth)).imp fun hlen => ?_
      simpa only [Payload.Sized, Payload.lengths, Record.Sized, sparseLengths_eq_flatMap,
        List.forall_mem_cons, List.forall_mem_flatMap, true_and] using hlen
  · intro name es ih depth
    rw [record_eq, Record.layout, List.append_assoc]
    refine ((text_spells name).append (fields_spells fun e he => ih e he (depth + 1))).imp ?_
    exact Record.sized_mk.2

end Write

namespace Frame

open Output

theorem write_spells (f : Frame) : f.write.Spells (∀ b, f.data = some b → b.Sized) f.layout := by
  obtain ⟨what, data⟩ := f
  cases data with
  | none =>
    refine ((spells_ofBytes _).append (spells_ofBytes _)).append (spells_ofBytes _) |>.imp ?_
    exact fun _ => nofun
  | some b =>
    have hbundle : (Write.bundle b).Spells b.Sized
        (Grammar.word b.entries.length ++ fieldsLayout b.entries) := by
      rw [Write.bundle_eq_fields]
      refine (Write.fields_spells fun e _ => Write.spells_layout.1 e.2 0).imp ?_
      exact Bundle.sized_iff.2
    refine (((spells_ofBytes _).append (spells_ofBytes _)).append
      ((spells_ofBytes _).append hbundle)).imp ?_
    rintro ⟨-, -, hb⟩ b' ⟨rfl⟩
    exact hb

theorem write_complete {f : Frame} (h : f.Fits) : f.write = .ofBytes f.write.bytes := by
  have hfault : f.write.fault = none := by
    obtain ⟨what, data⟩ := f
    cases data with
    | none => rfl
    | some b =>
      obtain ⟨hsized, hshallow⟩ := h b rfl
      exact (write_tooDeepIff hsized what).completes (Nat.not_lt.2 hshallow)
  rw [Output.ofBytes, ← hfault]

/-- The byte form of a frame is its layout, and those that fit have one. -/
theorem encode_eq_ok_iff_layout {f : Frame} {bytes : List UInt8} :
    f.encode = .ok bytes ↔ f.Fits ∧ f.layout = bytes := by
  rw [encode, result_eq_ok]
  constructor
  · intro h
    obtain ⟨hsized, rfl⟩ := f.write_spells bytes h
    refine ⟨fun b hb => ⟨hsized b hb, Nat.not_lt.1 fun hdeep => ?_⟩, rfl⟩
    obtain ⟨what, data⟩ := f
    obtain rfl : data = some b := hb
    have hstops := (write_tooDeepIff (hsized b rfl) what).stops hdeep
    rw [h] at hstops
    cases hstops
  · rintro ⟨hfits, rfl⟩
    have hcomplete := write_complete hfits
    rw [← (f.write_spells _ hcomplete).2]
    exact hcomplete

/-- The frame comes to the other when later entries take the place of earlier ones. -/
def Settles (f g : Frame) : Prop := f.what = g.what ∧ Option.Rel Bundle.Settles f.data g.data

theorem settles_canonical (f : Frame) : f.Settles f.canonical := by
  obtain ⟨what, data⟩ := f
  refine ⟨rfl, ?_⟩
  cases data with
  | none => exact .none
  | some b => exact .some b.settles_canonical

/-- The layout of a tree within the limits decodes to what the tree settles into, and whatever
decodes is the layout of one such tree and of no other. -/
theorem decode_layout :
    (∀ f : Frame, f.Fits → decode f.layout = .ok f.canonical ∧ f.Settles f.canonical) ∧
      ∀ bytes g, decode bytes = .ok g → ∃! f : Frame, f.Fits ∧ f.layout = bytes := by
  constructor
  · intro f hfits
    have hencode : f.encode = .ok f.layout := encode_eq_ok_iff_layout.2 ⟨hfits, rfl⟩
    exact ⟨decode_eq_ok.2 ⟨f, hencode, rfl⟩, f.settles_canonical⟩
  · intro bytes g hdecode
    obtain ⟨f, hf, -⟩ := decode_eq_ok.1 hdecode
    refine ⟨f, encode_eq_ok_iff_layout.1 hf, fun f' hf' => ?_⟩
    have hread := encode_eq_ok.1 hf
    have hread' := encode_eq_ok.1 (encode_eq_ok_iff_layout.2 hf')
    simpa using hread'.symm.trans hread

/-- A key of the frame, a key of a record and an index of a sparse map come twice. -/
def overwritten : Frame :=
  ⟨1, some ⟨[("b", .scalar .bool true),
    ("a", .sparseRecords [(7, .mk "P" []),
      (-1, .mk "P" [("x", .scalar .byte 1), ("x", .scalar .byte 2)]),
      (7, .mk "Q" [])]),
    ("b", .text "é")]⟩⟩

theorem decode_layout_overwritten :
    overwritten.Fits ∧ decode overwritten.layout =
      .ok ⟨1, some ⟨[
        ("a", .sparseRecords [(-1, .mk "P" [("x", .scalar .byte 2)]), (7, .mk "Q" [])]),
        ("b", .text "é")]⟩⟩ ∧
      ∃! f : Frame, f.Fits ∧ f.layout = overwritten.layout := by
  have hfits : overwritten.Fits := by
    rintro b ⟨rfl⟩
    exact ⟨by decide, by decide⟩
  have hdecode := (decode_layout.1 overwritten hfits).1
  exact ⟨hfits, hdecode, decode_layout.2 _ _ hdecode⟩

end Frame

end Relay
