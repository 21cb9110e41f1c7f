import Relay.Proofs.Value.Canonical
import Relay.Sample.Records
import Relay.Value.Slot

/-!
# Laws of slots

What a slot writes for a value it reads back as the value.  For records this rests on a law of the
type, that `readFields` undoes `writeFields`, and for byte forms on the law that what was written is
read; the fixed categories need nothing.  A list or sparse map of records is faithful because each
record in it is.

Only a slot of values with a byte form can refuse to write.  The condition is part of `Faithful`, so
that what is said of arguments later is said of all categories alike.
-/

namespace Relay

variable {α : Type}

/-- The fields of a value form a map, and they are read back as the value. -/
structure Recordable.Lawful (α : Type) [Recordable α] : Prop where
  canonical : ∀ v : α, (Recordable.writeFields v).Canonical
  read_write : ∀ v : α, Recordable.readFields (Recordable.writeFields v) = .ok v

/-- The byte form of a value, if it has one, is read back as the value. -/
def Serializable.Lawful (α : Type) [Serializable α] : Prop :=
  ∀ (v : α) (bytes : List UInt8), Serializable.write v = .ok bytes → Serializable.read bytes = .ok v

namespace Record

variable [Recordable α]

theorem canonical_capture (h : Recordable.Lawful α) (v : α) : (capture v).Canonical := h.canonical v

theorem restore_capture (h : Recordable.Lawful α) (v : α) : (capture v).restore = .ok v := by
  unfold restore
  rw [if_pos (show (capture v).typeName = Recordable.typeName α from rfl)]
  exact h.read_write v

theorem restoreAll_map_capture (h : Recordable.Lawful α) (vs : List α) :
    restoreAll (vs.map capture) = .ok vs := by
  induction vs with
  | nil => rfl
  | cons v vs ih =>
    rw [List.map_cons, restoreAll, restore_capture h, ih]
    rfl

theorem restoreSparse_map_capture (h : Recordable.Lawful α) (es : List (Int32 × α)) :
    restoreSparse (es.map fun e => (e.1, capture e.2)) = .ok es := by
  induction es with
  | nil => rfl
  | cons e es ih =>
    rw [List.map_cons, restoreSparse, restore_capture h, ih]
    rfl

end Record

theorem OrderedMap.ofList_entries {κ : Type} [Ord κ] [Std.TransOrd κ] (m : OrderedMap κ α) :
    OrderedMap.ofList m.entries = m := by
  obtain ⟨entries, ordered⟩ := m
  simp only [OrderedMap.ofList, Entries.ofList_eq_self ordered]

namespace Slot

/-- What is written for a value is a payload in order and is read back as the value.  The values
that cannot be written are exactly those under the condition. -/
structure Faithful (slot : Slot α) (unwritable : α → Prop) : Prop where
  canonical : ∀ v p, slot.write v = .ok p → p.Canonical
  read_write : ∀ v p, slot.write v = .ok p → slot.read p = some (.ok v)
  refuses : ∀ v, (∃ e, slot.write v = .error e) ↔ unwritable v

theorem Faithful.congr {slot : Slot α} {P Q : α → Prop} (h : slot.Faithful P)
    (hPQ : ∀ v, P v ↔ Q v) : slot.Faithful Q :=
  ⟨h.canonical, h.read_write, fun v => (h.refuses v).trans (hPQ v)⟩

/-- A slot that writes every value. -/
theorem Faithful.total {slot : Slot α} (form : α → Payload)
    (hwrite : ∀ v, slot.write v = .ok (form v)) (hcanonical : ∀ v, (form v).Canonical)
    (hread : ∀ v, slot.read (form v) = some (.ok v)) : slot.Faithful fun _ => False := by
  constructor
  · intro v p h
    obtain rfl : form v = p := by simpa [hwrite] using h
    exact hcanonical v
  · intro v p h
    obtain rfl : form v = p := by simpa [hwrite] using h
    exact hread v
  · simp [hwrite]

section Records

variable [Recordable α] (h : Recordable.Lawful α)

include h

theorem record_faithful : (record : Slot α).Faithful fun _ => False :=
  .total (fun v => .record (.capture v)) (fun _ => rfl) (Record.canonical_capture h)
    (fun v => congrArg some (Record.restore_capture h v))

theorem canonicalRecords_map_capture (vs : List α) : CanonicalRecords (vs.map Record.capture) :=
  canonicalRecords_iff.2 (List.forall_mem_map.2 fun v _ => Record.canonical_capture h v)

theorem recordArray_faithful : (recordArray : Slot (List α)).Faithful fun _ => False :=
  .total (fun vs => .recordArray (vs.map .capture)) (fun _ => rfl)
    (canonicalRecords_map_capture h) (fun vs => congrArg some (Record.restoreAll_map_capture h vs))

theorem recordList_faithful : (recordList : Slot (List α)).Faithful fun _ => False :=
  .total (fun vs => .recordList (vs.map .capture)) (fun _ => rfl)
    (canonicalRecords_map_capture h) (fun vs => congrArg some (Record.restoreAll_map_capture h vs))

theorem sparseRecords_faithful : (sparseRecords : Slot (SparseMap α)).Faithful fun _ => False := by
  refine .total (fun m => .sparseRecords (m.mapValues .capture).entries) (fun _ => rfl) ?_ ?_
  · intro m
    have hrecords : ∀ e ∈ (m.mapValues Record.capture).entries, e.2.Canonical :=
      List.forall_mem_map.2 fun e _ => Record.canonical_capture h e.2
    exact ⟨(m.mapValues Record.capture).ordered, canonicalSparse_iff.2 hrecords⟩
  · intro m
    change some ((Record.restoreSparse (m.entries.map fun e => (e.1, Record.capture e.2))).map
      OrderedMap.ofList) = some (.ok m)
    rw [Record.restoreSparse_map_capture h, Except.map, m.ofList_entries]

end Records

theorem serializable_write_eq_ok [Serializable α] {v : α} {p : Payload} :
    (serializable : Slot α).write v = .ok p ↔
      ∃ bytes, Serializable.write v = .ok bytes ∧ .serialized bytes = p := by
  simp only [serializable]
  cases Serializable.write v with
  | ok bytes =>
    constructor
    · rintro ⟨⟩
      exact ⟨bytes, rfl, rfl⟩
    · rintro ⟨_, ⟨⟩, rfl⟩
      rfl
  | error reason =>
    constructor
    · rintro ⟨⟩
    · rintro ⟨_, ⟨⟩, -⟩

theorem serializable_faithful [Serializable α] (h : Serializable.Lawful α) :
    (serializable : Slot α).Faithful fun v => ∃ reason, Serializable.write v = .error reason := by
  constructor
  · intro v p hp
    obtain ⟨bytes, -, rfl⟩ := serializable_write_eq_ok.1 hp
    trivial
  · intro v p hp
    obtain ⟨bytes, hbytes, rfl⟩ := serializable_write_eq_ok.1 hp
    simp only [serializable, h v bytes hbytes]
    rfl
  · intro v
    simp only [serializable]
    cases Serializable.write v with
    | ok bytes =>
      constructor
      · rintro ⟨_, ⟨⟩⟩
      · rintro ⟨_, ⟨⟩⟩
    | error reason => exact ⟨fun _ => ⟨reason, rfl⟩, fun _ => ⟨_, rfl⟩⟩

end Slot

/-! ## One entry of a bundle -/

namespace Bundle

theorem canonical_empty : Bundle.empty.Canonical := ⟨.nil, trivial⟩

theorem Canonical.insert {b : Bundle} {p : Payload} (hb : b.Canonical) (hp : p.Canonical)
    (key : String) : (b.insert key p).Canonical := by
  rw [Canonical, canonicalFields_iff] at hb ⊢
  refine ⟨hb.1.insert key p, fun e he => ?_⟩
  rcases Entries.mem_insert he with rfl | hold
  · exact hp
  · exact hb.2 e hold

theorem find?_insert {b : Bundle} {k key : String} {p : Payload} :
    (b.insert key p).find? k = if k = key then some p else b.find? k := by
  rw [find?, insert, Entries.find?_insert]
  simp only [Std.LawfulEqOrd.compare_eq_iff_eq]
  rfl

theorem fetch_of_find? {b : Bundle} {slot : Slot α} {key : String} {p : Payload} {v : α}
    (hfind : b.find? key = some p) (hread : slot.read p = some (.ok v)) :
    b.fetch slot key = .ok v := by
  simp only [fetch, lookup, hfind, bind, Except.bind, hread]

end Bundle

/-! ## Two sample types -/

namespace Sample

theorem point_lawful : Recordable.Lawful Point where
  canonical p := by
    have hx := Bundle.canonical_empty.insert (p := .scalar .int p.x) trivial "x"
    exact hx.insert (p := .scalar .int p.y) trivial "y"
  read_write _ := rfl

theorem grid_lawful : Serializable.Lawful Grid := by
  intro g bytes h
  change (if g.cells.isEmpty then Except.ok _ else Except.error _) = Except.ok bytes at h
  split at h
  · next hempty =>
    cases h
    obtain ⟨⟨cells, ordered⟩⟩ := g
    obtain rfl : cells = [] := List.isEmpty_iff.1 hempty
    rfl
  · cases h

end Sample

end Relay
