import Relay.Proofs.Wire.Leaves

/-!
# The layout of frames

A frame as it is read holds the entries of every level in the order of the bytes.  For such frames
reading and writing are inverse to each other: `Frame.read` matches `Frame.write`.

The recursion of the reader is on the levels that are left, the recursion of the writer on the
value.  The two meet in `fields_matches`: with `levels` levels left at depth `depth`, the sum of the
two being fixed, the fields of a record are read as they are written.  The induction is on the
levels alone, because the reader of a payload takes the reader of the fields one level down as an
argument.
-/

namespace Relay

namespace Write

/-! ## Repetition in the writer -/

theorem records_eq_each (rs : List Record) (depth : Nat) :
    records rs depth = each (fun r => record r depth) rs := by
  induction rs with
  | nil => rfl
  | cons r rest ih => rw [records, ih, each]

theorem entries_eq_each (es : List (String × Payload)) (depth : Nat) :
    entries es depth = each (fun e => text e.1 ++ payload e.2 depth) es := by
  induction es with
  | nil => rfl
  | cons e rest ih => rw [entries, ih, each]

theorem sparse_eq_each (es : List (Int32 × Record)) (depth : Nat) :
    sparse es depth = each (fun e => scalar .int e.1 ++ record e.2 depth) es := by
  induction es with
  | nil => rfl
  | cons e rest ih => rw [sparse, ih, each]

/-- What follows the tag of a payload. -/
def content (p : Payload) (depth : Nat) : Output :=
  match p with
  | .scalar kind v => scalar kind v
  | .text v => text v
  | .charSeq v => text v.text
  | .handle v => .ofBytes (LittleEndian.bytes 8 v.raw.toNat)
  | .record r => record r depth
  | .serialized bytes => blob bytes
  | .scalarArray kind vs => seq (scalar kind) vs
  | .textArray vs => seq text vs
  | .charSeqArray vs => seq (fun v => text v.text) vs
  | .recordArray rs => seq (fun r => record r depth) rs
  | .intList vs => seq (scalar .int) vs
  | .textList vs => seq text vs
  | .charSeqList vs => seq (fun v => text v.text) vs
  | .recordList rs => seq (fun r => record r depth) rs
  | .sparseRecords es => seq (fun e => scalar .int e.1 ++ record e.2 depth) es
  | .size v => scalar .int v.width ++ scalar .int v.height
  | .sizeF v => scalar .float v.width ++ scalar .float v.height

theorem payload_eq (p : Payload) (depth : Nat) :
    payload p depth = tag (.payload p.category) ++ content p depth := by
  cases p with
  | recordArray rs => rw [payload, content, seq, records_eq_each]
  | recordList rs => rw [payload, content, seq, records_eq_each]
  | sparseRecords es => rw [payload, content, seq, sparse_eq_each]
  | _ => rfl

/-- The fields of a record at a depth: nothing can be written below the last level. -/
def fields (es : List (String × Payload)) (depth : Nat) : Output :=
  if maxNesting < depth then .stop .recursionLimitExceeded
  else seq (fun e => text e.1 ++ payload e.2 depth) es

theorem fields_eq_entries {depth : Nat} (h : depth ≤ maxNesting) (es : List (String × Payload)) :
    fields es depth = count es.length ++ entries es depth := by
  rw [fields, if_neg (Nat.not_lt.2 h), entries_eq_each, seq]

theorem record_eq (name : String) (es : List (String × Payload)) (depth : Nat) :
    record (.mk name es) depth = text name ++ fields es (depth + 1) := by
  rw [record, fields, entries_eq_each, seq]

theorem bundle_eq_fields (b : Bundle) : bundle b = fields b.entries 0 := by
  rw [fields_eq_entries (Nat.zero_le _), bundle]

end Write

namespace Read

open Reader

/-! ## Repetition in the reader -/

theorem items_matchesOn {α : Type} {item : Reader α} {w : α → Output} (h : item.Matches w) (n : Nat) :
    (items item n).MatchesOn (·.length = n) (Write.each w) := by
  induction n with
  | zero =>
    intro xs bytes rest
    simp only [items, pure_eq_ok, List.length_eq_zero_iff]
    constructor
    · rintro ⟨rfl, rfl⟩
      exact ⟨rfl, [], rfl, rfl⟩
    · rintro ⟨rfl, used, hwrite, rfl⟩
      obtain rfl := Output.ofBytes_inj.1 hwrite
      exact ⟨rfl, rfl⟩
  | succ n ih =>
    intro xs bytes rest
    simp only [items, bind_eq_ok, pure_eq_ok]
    constructor
    · rintro ⟨x, mid, hitem, xs', tail, hitems, rfl, rfl⟩
      obtain ⟨front, hfront, rfl⟩ := (h _ _ _).1 hitem
      obtain ⟨hlen, back, hback, rfl⟩ := (ih _ _ _).1 hitems
      refine ⟨congrArg Nat.succ hlen, front ++ back, ?_, by simp⟩
      exact Output.append_eq_ofBytes.2 ⟨front, back, hfront, hback, rfl⟩
    · rintro ⟨hlen, used, hwrite, rfl⟩
      cases xs with
      | nil => simp at hlen
      | cons x xs =>
        obtain ⟨front, back, hfront, hback, rfl⟩ := Output.append_eq_ofBytes.1 hwrite
        have hitems := (ih xs (back ++ rest) rest).2 ⟨by simpa using hlen, back, hback, rfl⟩
        refine ⟨x, back ++ rest, ?_, xs, rest, hitems, rfl, rfl⟩
        rw [List.append_assoc]
        exact h.read hfront _

theorem seq_matches {α : Type} {item : Reader α} {w : α → Output} (h : item.Matches w) :
    (seq item).Matches (Write.seq w) := by
  intro xs bytes rest
  simp only [seq, bind_eq_ok]
  constructor
  · rintro ⟨n, mid, hcount, hitems⟩
    obtain ⟨front, hfront, rfl⟩ := (count_matches _ _ _).1 hcount
    obtain ⟨rfl, back, hback, rfl⟩ := (items_matchesOn h n _ _ _).1 hitems
    refine ⟨front ++ back, ?_, by simp⟩
    exact Output.append_eq_ofBytes.2 ⟨front, back, hfront, hback, rfl⟩
  · rintro ⟨used, hwrite, rfl⟩
    obtain ⟨front, back, hfront, hback, rfl⟩ := Output.append_eq_ofBytes.1 hwrite
    refine ⟨xs.length, back ++ rest, ?_, (items_matchesOn h _ _ _ _).2 ⟨rfl, back, hback, rfl⟩⟩
    rw [List.append_assoc]
    exact count_matches.read hfront _

/-! ## Payloads -/

theorem charSeq_matches :
    Matches (do return (⟨← text⟩ : CharSeq)) (fun v => Write.text v.text) :=
  text_matches.map (fun _ => rfl) (fun v => ⟨v.text, rfl⟩)

theorem handle_matches :
    Matches (do return (⟨(← number 8).toUInt64⟩ : Handle))
      (fun v => .ofBytes (LittleEndian.bytes 8 v.raw.toNat)) :=
  number_map_matches 8 (fun n => ⟨n.toUInt64⟩) (fun v : Handle => v.raw.toNat)
    (fun v => v.raw.toNat_lt) (by simp) (fun n hn => by simpa using Nat.mod_eq_of_lt hn)

section Levels

variable {inner : Reader (List (String × Payload))} {depth : Nat}

theorem record_matches (h : inner.Matches fun es => Write.fields es (depth + 1)) :
    (record inner).Matches fun r => Write.record r depth :=
  text_matches.map₂ h (fun name es => Write.record_eq name es depth)
    (fun r => ⟨r.typeName, r.fields.entries, by cases r; rfl⟩)

theorem sparseEntry_matches (h : inner.Matches fun es => Write.fields es (depth + 1)) :
    Matches (do let index ← scalar .int; return (index, ← record inner))
      (fun e => Write.scalar .int e.1 ++ Write.record e.2 depth) :=
  (scalar_matches .int).map₂ (record_matches h) (fun _ _ => rfl) (fun e => ⟨e.1, e.2, rfl⟩)

/-- The body that is read for a category is what is written behind the tag of the category. -/
theorem body_matchesOn (h : inner.Matches fun es => Write.fields es (depth + 1)) (c : Category) :
    (body inner c).MatchesOn (·.category = c) fun p => Write.content p depth := by
  cases c with
  | scalar kind =>
    exact (scalar_matches kind).mapOn (fun _ => ⟨rfl, rfl⟩)
      (by intro p hp; cases p <;> cases hp; exact ⟨_, rfl⟩)
  | text =>
    exact text_matches.mapOn (fun _ => ⟨rfl, rfl⟩)
      (by intro p hp; cases p <;> cases hp; exact ⟨_, rfl⟩)
  | charSeq =>
    have hbody : body inner .charSeq = (do return .charSeq (← (do return ⟨← text⟩))) :=
      (return_bind text CharSeq.mk fun v => pure (Payload.charSeq v)).symm
    rw [hbody]
    exact charSeq_matches.mapOn (fun _ => ⟨rfl, rfl⟩)
      (by intro p hp; cases p <;> cases hp; exact ⟨_, rfl⟩)
  | handle =>
    have hbody : body inner .handle =
        (do return .handle (← (do return ⟨(← number 8).toUInt64⟩))) :=
      (return_bind (number 8) (fun n => Handle.mk n.toUInt64)
        fun v => pure (Payload.handle v)).symm
    rw [hbody]
    exact handle_matches.mapOn (fun _ => ⟨rfl, rfl⟩)
      (by intro p hp; cases p <;> cases hp; exact ⟨_, rfl⟩)
  | record =>
    exact (record_matches h).mapOn (fun _ => ⟨rfl, rfl⟩)
      (by intro p hp; cases p <;> cases hp; exact ⟨_, rfl⟩)
  | serializable =>
    exact blob_matches.mapOn (fun _ => ⟨rfl, rfl⟩)
      (by intro p hp; cases p <;> cases hp; exact ⟨_, rfl⟩)
  | scalarArray kind =>
    exact (seq_matches (scalar_matches kind)).mapOn (fun _ => ⟨rfl, rfl⟩)
      (by intro p hp; cases p <;> cases hp; exact ⟨_, rfl⟩)
  | textArray | textList =>
    exact (seq_matches text_matches).mapOn (fun _ => ⟨rfl, rfl⟩)
      (by intro p hp; cases p <;> cases hp; exact ⟨_, rfl⟩)
  | charSeqArray | charSeqList =>
    exact (seq_matches charSeq_matches).mapOn (fun _ => ⟨rfl, rfl⟩)
      (by intro p hp; cases p <;> cases hp; exact ⟨_, rfl⟩)
  | recordArray | recordList =>
    exact (seq_matches (record_matches h)).mapOn (fun _ => ⟨rfl, rfl⟩)
      (by intro p hp; cases p <;> cases hp; exact ⟨_, rfl⟩)
  | intList =>
    exact (seq_matches (scalar_matches .int)).mapOn (fun _ => ⟨rfl, rfl⟩)
      (by intro p hp; cases p <;> cases hp; exact ⟨_, rfl⟩)
  | sparseRecords =>
    exact (seq_matches (sparseEntry_matches h)).mapOn (fun _ => ⟨rfl, rfl⟩)
      (by intro p hp; cases p <;> cases hp; exact ⟨_, rfl⟩)
  | size =>
    exact (scalar_matches .int).mapOn₂ (scalar_matches .int) (fun _ _ => ⟨rfl, rfl⟩)
      (by intro p hp; cases p <;> cases hp; exact ⟨_, _, rfl⟩)
  | sizeF =>
    exact (scalar_matches .float).mapOn₂ (scalar_matches .float) (fun _ _ => ⟨rfl, rfl⟩)
      (by intro p hp; cases p <;> cases hp; exact ⟨_, _, rfl⟩)

theorem payload_matches (h : inner.Matches fun es => Write.fields es (depth + 1)) :
    (payload inner).Matches fun p => Write.payload p depth := by
  intro p bytes rest
  simp only [Write.payload_eq, payload, bind_eq_ok]
  constructor
  · rintro ⟨t, mid, htag, hbody⟩
    obtain ⟨front, hfront, rfl⟩ := (tag_matches _ _ _).1 htag
    cases t with
    | payload c =>
      obtain ⟨rfl, back, hback, rfl⟩ := (body_matchesOn h c _ _ _).1 hbody
      refine ⟨front ++ back, ?_, by simp⟩
      exact Output.append_eq_ofBytes.2 ⟨front, back, hfront, hback, rfl⟩
    | bundle => exact (fail_ne_ok hbody).elim
    | noData => exact (fail_ne_ok hbody).elim
    | envelope => exact (fail_ne_ok hbody).elim
  · rintro ⟨used, hwrite, rfl⟩
    obtain ⟨front, back, hfront, hback, rfl⟩ := Output.append_eq_ofBytes.1 hwrite
    refine ⟨.payload p.category, back ++ rest, ?_, ?_⟩
    · rw [List.append_assoc]
      exact tag_matches.read hfront _
    · exact (body_matchesOn h _ _ _ _).2 ⟨rfl, back, hback, rfl⟩

end Levels

/-- With the levels that are left above the limit of the depth, fields are read as they are
written. -/
theorem fields_matches {levels depth : Nat} (hdepth : levels + depth = maxNesting + 1) :
    (fields levels).Matches fun es => Write.fields es depth := by
  induction levels generalizing depth with
  | zero =>
    intro es bytes rest
    have hdeep : maxNesting < depth := by omega
    simp [fields, Write.fields, hdeep, fail_ne_ok]
  | succ levels ih =>
    have hinner := payload_matches (ih (by omega : levels + (depth + 1) = maxNesting + 1))
    have hentry : Matches (do let key ← text; return (key, ← payload (fields levels)))
        (fun e => Write.text e.1 ++ Write.payload e.2 depth) :=
      text_matches.map₂ hinner (fun _ _ => rfl) (fun e => ⟨e.1, e.2, rfl⟩)
    have hshallow : ¬ maxNesting < depth := by omega
    simp only [Write.fields, if_neg hshallow]
    exact seq_matches hentry

end Read

namespace Frame

open Reader

/-- A frame is read, its entries in the order of the bytes, exactly from what is written for it. -/
theorem read_matches : Frame.read.Matches Frame.write := by
  intro f bytes rest
  have hfields : (Read.fields (maxNesting + 1)).Matches fun es => Write.bundle ⟨es⟩ := by
    simpa only [Write.bundle_eq_fields] using Read.fields_matches (Nat.add_zero _)
  simp only [read, write, bind_eq_ok, Output.append_eq_ofBytes]
  constructor
  · rintro ⟨first, mid, hfirst, hrest⟩
    obtain ⟨front, hfront, rfl⟩ := (Read.tag_matches _ _ _).1 hfirst
    split at hrest
    · next heq =>
      subst heq
      obtain ⟨what, mid, hwhat, hmarked⟩ := bind_eq_ok.1 hrest
      obtain ⟨id, hid, rfl⟩ := (Read.word_matches _ _ _).1 hwhat
      obtain ⟨second, mid, hsecond, hdata⟩ := bind_eq_ok.1 hmarked
      obtain ⟨middle, hmiddle, rfl⟩ := (Read.tag_matches _ _ _).1 hsecond
      cases second with
      | bundle =>
        obtain ⟨es, mid, hes, hframe⟩ := bind_eq_ok.1 hdata
        obtain ⟨rfl, rfl⟩ := pure_eq_ok.1 hframe
        obtain ⟨back, hback, rfl⟩ := (hfields _ _ _).1 hes
        exact ⟨front ++ id ++ (middle ++ back),
          ⟨front ++ id, middle ++ back, ⟨front, id, hfront, hid, rfl⟩,
            Output.append_eq_ofBytes.2 ⟨middle, back, hmiddle, hback, rfl⟩, rfl⟩, by simp⟩
      | noData =>
        obtain ⟨rfl, rfl⟩ := pure_eq_ok.1 hdata
        exact ⟨front ++ id ++ middle,
          ⟨front ++ id, middle, ⟨front, id, hfront, hid, rfl⟩, hmiddle, rfl⟩, by simp⟩
      | envelope => exact (fail_ne_ok hdata).elim
      | payload c => exact (fail_ne_ok hdata).elim
    · exact (fail_ne_ok hrest).elim
  · rintro ⟨used, ⟨_, last, ⟨front, id, hfront, hid, rfl⟩, hlast, rfl⟩, rfl⟩
    refine ⟨.envelope, id ++ (last ++ rest), ?_, ?_⟩
    · rw [List.append_assoc, List.append_assoc]
      exact Read.tag_matches.read hfront _
    · rw [if_pos rfl]
      refine bind_eq_ok.2 ⟨f.what, last ++ rest, Read.word_matches.read hid _, ?_⟩
      obtain ⟨what, data⟩ := f
      cases data with
      | some b =>
        obtain ⟨middle, back, hmiddle, hback, rfl⟩ := Output.append_eq_ofBytes.1 hlast
        refine bind_eq_ok.2 ⟨.bundle, back ++ rest, ?_, ?_⟩
        · rw [List.append_assoc]
          exact Read.tag_matches.read hmiddle _
        · exact bind_eq_ok.2 ⟨b.entries, rest, hfields.read hback rest, pure_eq_ok.2 ⟨rfl, rfl⟩⟩
      | none =>
        exact bind_eq_ok.2 ⟨.noData, rest, Read.tag_matches.read hlast rest,
          pure_eq_ok.2 ⟨rfl, rfl⟩⟩

end Frame

end Relay
