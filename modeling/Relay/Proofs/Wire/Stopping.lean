import Relay.Proofs.Wire.Limits
import Relay.Proofs.Wire.RoundTrip

/-!
# Where reading stops

The writer counts the depth up and the reader counts the levels down, and they meet the nesting
limit at the same place.  What the writer had written when it met the limit is cut off there, but
the reader does not find out that bytes are missing.  All that stands in front is read back, since
the reader matches the writer; then it is the reader's turn to open a level that is not left, and it
refuses to before it looks at another byte.

A reader *stops with* a writer when it refuses for nesting whatever the writer cut off for nesting,
with any bytes behind.  The lemmas follow the forms of the format like those of the layout.  In the
leaves there is nothing to nest, and nothing to show.
-/

namespace Relay

/-! ## Outputs that are cut off -/

namespace Output

/-- What was written when writing met the nesting limit. -/
def cut (bytes : List UInt8) : Output := ⟨bytes, some .recursionLimitExceeded⟩

theorem ofBytes_ne_cut (bytes back : List UInt8) : ofBytes bytes ≠ cut back := by
  simp [ofBytes, cut]

/-- Of two things in a row the first is cut off, or the second is behind all of the first. -/
theorem append_eq_cut {a b : Output} {bytes : List UInt8} (h : a ++ b = cut bytes) :
    a = cut bytes ∨
      ∃ front back, a = ofBytes front ∧ b = cut back ∧ bytes = front ++ back := by
  obtain ⟨aBytes, aFault⟩ := a
  change append _ b = cut bytes at h
  cases aFault with
  | none =>
    obtain ⟨bBytes, bFault⟩ := b
    simp only [append, cut, mk.injEq] at h
    obtain ⟨rfl, rfl⟩ := h
    exact .inr ⟨aBytes, bBytes, rfl, rfl, rfl⟩
  | some e => exact .inl h

end Output

namespace Write

open Output

theorem count_ne_cut (n : Nat) (bytes : List UInt8) : count n ≠ cut bytes := by
  unfold count
  split
  · exact ofBytes_ne_cut _ _
  · simp [stop, cut]

theorem blob_ne_cut (body bytes : List UInt8) : blob body ≠ cut bytes := by
  intro h
  rcases append_eq_cut h with hcount | ⟨front, back, -, hbody, -⟩
  · exact count_ne_cut _ _ hcount
  · exact ofBytes_ne_cut _ _ hbody

theorem text_ne_cut (s : String) (bytes : List UInt8) : text s ≠ cut bytes := blob_ne_cut _ _

theorem scalar_ne_cut (kind : ScalarKind) (v : kind.Carrier) (bytes : List UInt8) :
    scalar kind v ≠ cut bytes :=
  ofBytes_ne_cut _ _

end Write

/-! ## Readers that stop -/

namespace Reader

open Output

variable {α β γ : Type} {r : Reader α} {s : Reader β} {w : α → Output} {v : β → Output}

/-- The reader refuses the bytes for nesting, whatever follows them. -/
def Refuses (r : Reader α) (bytes : List UInt8) : Prop :=
  ∀ rest, (r (bytes ++ rest)).1 = .error .recursionLimitExceeded

/-- The reader refuses for nesting what the writer cut off for nesting. -/
def StopsWith (r : Reader α) (w : α → Output) : Prop :=
  ∀ a bytes, w a = cut bytes → r.Refuses bytes

theorem Refuses.bind {bytes : List UInt8} (h : r.Refuses bytes) (next : α → Reader β) :
    (r >>= next).Refuses bytes := by
  intro rest
  have hread : r (bytes ++ rest) = (.error .recursionLimitExceeded, (r (bytes ++ rest)).2) :=
    Prod.ext (h rest) rfl
  rw [bind_of_error hread]

/-- What was written in full is read back, so what is refused behind it is reached. -/
theorem Matches.refuses_bind (h : r.Matches w) {a : α} {front back : List UInt8}
    {next : α → Reader β} (hw : w a = ofBytes front) (hnext : (next a).Refuses back) :
    (r >>= next).Refuses (front ++ back) := by
  intro rest
  rw [List.append_assoc, bind_of_ok (h.read hw (back ++ rest))]
  exact hnext rest

theorem stopsWith_of_ne (h : ∀ a bytes, w a ≠ cut bytes) : r.StopsWith w :=
  fun a bytes hw => (h a bytes hw).elim

/-- Two parts in a row, of which each stops with its writer. -/
theorem StopsWith.map₂ (hr : r.StopsWith w) (hmatch : r.Matches w) (hs : s.StopsWith v)
    (f : α → β → γ) {a : α} {b : β} {bytes : List UInt8} (hw : w a ++ v b = cut bytes) :
    Refuses (do let a ← r; return f a (← s)) bytes := by
  rcases append_eq_cut hw with hfirst | ⟨front, back, hfirst, hsecond, rfl⟩
  · exact (hr a bytes hfirst).bind _
  · exact hmatch.refuses_bind hfirst ((hs b back hsecond).bind _)

end Reader

namespace Read

open Reader Output

theorem text_stopsWith : text.StopsWith Write.text := stopsWith_of_ne Write.text_ne_cut

theorem scalar_stopsWith (kind : ScalarKind) : (scalar kind).StopsWith (Write.scalar kind) :=
  stopsWith_of_ne (Write.scalar_ne_cut kind)

/-! ## Repetition -/

theorem items_refuses {α : Type} {item : Reader α} {w : α → Output} (hitem : item.StopsWith w)
    (hmatch : item.Matches w) {xs : List α} {bytes : List UInt8}
    (h : Write.each w xs = cut bytes) : (items item xs.length).Refuses bytes := by
  induction xs generalizing bytes with
  | nil => exact (ofBytes_ne_cut _ _ h).elim
  | cons x xs ih =>
    rcases append_eq_cut h with hfirst | ⟨front, back, hfirst, hrest, rfl⟩
    · exact (hitem x bytes hfirst).bind _
    · exact hmatch.refuses_bind hfirst ((ih hrest).bind _)

theorem seq_stopsWith {α : Type} {item : Reader α} {w : α → Output} (hitem : item.StopsWith w)
    (hmatch : item.Matches w) : (seq item).StopsWith (Write.seq w) := by
  intro xs bytes h
  rcases append_eq_cut h with hcount | ⟨front, back, hcount, hitems, rfl⟩
  · exact (Write.count_ne_cut _ _ hcount).elim
  · exact count_matches.refuses_bind hcount (items_refuses hitem hmatch hitems)

/-! ## Records and payloads -/

section Levels

variable {inner : Reader (List (String × Payload))} {depth : Nat}

theorem record_stopsWith (h : inner.StopsWith fun es => Write.fields es (depth + 1)) :
    (record inner).StopsWith fun r => Write.record r depth := by
  rintro ⟨name, es⟩ bytes (hw : Write.record (.mk name es) depth = cut bytes)
  rw [Write.record_eq] at hw
  exact text_stopsWith.map₂ text_matches h Record.mk hw

theorem sparseEntry_stopsWith (h : inner.StopsWith fun es => Write.fields es (depth + 1)) :
    StopsWith (do let index ← scalar .int; return (index, ← record inner))
      (fun e => Write.scalar .int e.1 ++ Write.record e.2 depth) := by
  intro e bytes hw
  exact (scalar_stopsWith .int).map₂ (scalar_matches .int) (record_stopsWith h) Prod.mk hw

theorem charSeq_stopsWith :
    StopsWith (do return (⟨← text⟩ : CharSeq)) (fun v => Write.text v.text) :=
  stopsWith_of_ne fun v => Write.text_ne_cut v.text

/-- The body that is read for the category of a payload refuses what was cut off of its content. -/
theorem body_refuses (hmatch : inner.Matches fun es => Write.fields es (depth + 1))
    (h : inner.StopsWith fun es => Write.fields es (depth + 1)) {p : Payload}
    {bytes : List UInt8} (hw : Write.content p depth = cut bytes) :
    (body inner p.category).Refuses bytes := by
  have hrecord := record_stopsWith h
  have hmatch' := record_matches hmatch
  cases p with
  | scalar kind v => exact (scalar_stopsWith kind v bytes hw).bind _
  | text v => exact (text_stopsWith v bytes hw).bind _
  | charSeq v => exact (text_stopsWith v.text bytes hw).bind _
  | handle v => exact (ofBytes_ne_cut _ _ hw).elim
  | serialized body => exact (Write.blob_ne_cut body bytes hw).elim
  | record r => exact (hrecord r bytes hw).bind _
  | scalarArray kind vs =>
    exact (seq_stopsWith (scalar_stopsWith kind) (scalar_matches kind) vs bytes hw).bind _
  | intList vs =>
    exact (seq_stopsWith (scalar_stopsWith .int) (scalar_matches .int) vs bytes hw).bind _
  | textArray vs | textList vs =>
    exact (seq_stopsWith text_stopsWith text_matches vs bytes hw).bind _
  | charSeqArray vs | charSeqList vs =>
    exact (seq_stopsWith charSeq_stopsWith charSeq_matches vs bytes hw).bind _
  | recordArray rs | recordList rs =>
    exact (seq_stopsWith hrecord hmatch' rs bytes hw).bind _
  | sparseRecords es =>
    exact (seq_stopsWith (sparseEntry_stopsWith h) (sparseEntry_matches hmatch) es bytes
      hw).bind _
  | size v =>
    exact (scalar_stopsWith .int).map₂ (scalar_matches .int) (scalar_stopsWith .int) _ hw
  | sizeF v =>
    exact (scalar_stopsWith .float).map₂ (scalar_matches .float) (scalar_stopsWith .float) _ hw

theorem payload_stopsWith (hmatch : inner.Matches fun es => Write.fields es (depth + 1))
    (h : inner.StopsWith fun es => Write.fields es (depth + 1)) :
    (payload inner).StopsWith fun p => Write.payload p depth := by
  intro p bytes (hw : Write.payload p depth = cut bytes)
  rw [Write.payload_eq] at hw
  rcases append_eq_cut hw with htag | ⟨front, back, htag, hcontent, rfl⟩
  · exact (ofBytes_ne_cut _ _ htag).elim
  · exact tag_matches.refuses_bind htag (body_refuses hmatch h hcontent)

end Levels

/-- With the levels that are left above the limit of the depth, the reader has none left where the
writer stopped. -/
theorem fields_stopsWith {levels depth : Nat} (hdepth : levels + depth = maxNesting + 1) :
    (fields levels).StopsWith fun es => Write.fields es depth := by
  induction levels generalizing depth with
  | zero => exact fun es bytes _ rest => rfl
  | succ levels ih =>
    have hinner : levels + (depth + 1) = maxNesting + 1 := by omega
    have hmatch := fields_matches hinner
    have hentry : StopsWith (do let key ← text; return (key, ← payload (fields levels)))
        (fun e => Write.text e.1 ++ Write.payload e.2 depth) := by
      intro e bytes hw
      exact text_stopsWith.map₂ text_matches (payload_stopsWith hmatch (ih hinner)) Prod.mk hw
    have hmatches : Matches (do let key ← text; return (key, ← payload (fields levels)))
        (fun e => Write.text e.1 ++ Write.payload e.2 depth) :=
      text_matches.map₂ (payload_matches hmatch) (fun _ _ => rfl) (fun e => ⟨e.1, e.2, rfl⟩)
    have hshallow : ¬ maxNesting < depth := by omega
    simp only [Write.fields, if_neg hshallow]
    exact seq_stopsWith hentry hmatches

end Read

namespace Frame

open Reader Output

theorem read_stopsWith : Frame.read.StopsWith Frame.write := by
  rintro ⟨what, data⟩ bytes hw
  rcases append_eq_cut hw with hhead | ⟨head, tail, hhead, hdata, rfl⟩
  · exact (ofBytes_ne_cut _ _ hhead).elim
  · obtain ⟨first, id, hfirst, hid, rfl⟩ := Output.append_eq_ofBytes.1 hhead
    cases data with
    | none => exact (ofBytes_ne_cut _ _ hdata).elim
    | some b =>
      rcases append_eq_cut hdata with hmark | ⟨mark, entries, hmark, hentries, rfl⟩
      · exact (ofBytes_ne_cut _ _ hmark).elim
      · rw [Write.bundle_eq_fields] at hentries
        have hfields : (Read.fields (maxNesting + 1)).Refuses entries :=
          Read.fields_stopsWith (Nat.add_zero _) b.entries entries hentries
        rw [List.append_assoc]
        refine Read.tag_matches.refuses_bind hfirst ?_
        rw [if_pos rfl]
        refine Read.word_matches.refuses_bind hid ?_
        exact Read.tag_matches.refuses_bind hmark (hfields.bind _)

theorem readCanonical_stopsWith : readCanonical.StopsWith Frame.write :=
  fun f bytes hw => (read_stopsWith f bytes hw).bind _

end Frame

namespace Envelope

open Output

variable {U : Universe}

/-- How many records stand inside one another in what the envelope brings. -/
def nesting (e : Envelope U) : Nat :=
  match e.data? with
  | some b => b.nesting
  | none => 0

/-- Writer and reader set the same limit to nesting: an envelope without live arguments, of which
every length fits, is written exactly when its records nest at most 32 deep; what is written of it
otherwise is refused by the reader for the same reason, whatever follows. -/
theorem encode_nesting {e : Envelope U} (hargs : e.hasArgs = false)
    (hsized : ∀ b, e.data? = some b → b.Sized) :
    ((∃ bytes, e.encode = .ok bytes) ↔ e.nesting ≤ 32) ∧
      (32 < e.nesting → e.encode = .error .recursionLimitExceeded ∧
        ∀ more, (Frame.readCanonical (e.write.bytes ++ more)).1 =
          .error .recursionLimitExceeded) := by
  obtain ⟨what, content⟩ := e
  cases content with
  | live args => cases hargs
  | nothing =>
    have hwritten : ∃ bytes, (⟨what, .nothing⟩ : Envelope U).encode = .ok bytes := ⟨_, rfl⟩
    exact ⟨⟨fun _ => Nat.zero_le 32, fun _ => hwritten⟩, fun h => (Nat.not_lt_zero 32 h).elim⟩
  | data b =>
    have hframe : (Frame.write ⟨what, some b⟩).TooDeepIff (32 < b.nesting) :=
      Frame.write_tooDeepIff (hsized b rfl) what
    refine ⟨⟨?_, fun h => ⟨_, hframe.result_of_not_deep (Nat.not_lt.2 h)⟩⟩, fun hdeep => ?_⟩
    · rintro ⟨bytes, hbytes⟩
      refine Nat.not_lt.1 fun hdeep => ?_
      cases (hframe.result_of_deep hdeep).symm.trans hbytes
    · have hcut : Frame.write ⟨what, some b⟩ = cut (Frame.write ⟨what, some b⟩).bytes :=
        congrArg (Output.mk _) (hframe.stops hdeep)
      exact ⟨hframe.result_of_deep hdeep, Frame.readCanonical_stopsWith _ _ hcut⟩

/-- A truth value inside a number of records, each in an array behind an empty list of records. -/
def tower : Nat → Payload
  | 0 => .scalar .bool true
  | levels + 1 => .recordArray [.mk "Floor" [("none", .recordList []), ("next", tower levels)]]

theorem nesting_tower (levels : Nat) : (tower levels).nesting = levels := by
  induction levels with
  | zero => rfl
  | succ levels ih => simp [tower, Payload.nesting, recordsNesting, Record.nesting, fieldsNesting, ih]

theorem sized_tower (levels : Nat) : (tower levels).Sized := by
  induction levels with
  | zero => exact nofun
  | succ levels ih =>
    simp only [Payload.Sized, tower, Payload.lengths, recordsLengths, Record.lengths,
      fieldsLengths, List.append_nil, List.cons_append, List.nil_append, List.forall_mem_cons,
      List.length_cons, List.length_nil]
    exact ⟨by decide, by decide, by decide, by decide, by decide, by decide, ih⟩

/-- One level decides. -/
theorem encode_nesting_tower :
    (∃ bytes, (withData 7 ⟨[("t", tower 32)]⟩ : Envelope Sample.types).encode = .ok bytes) ∧
      ∀ more, (Frame.readCanonical
        ((withData 7 ⟨[("t", tower 33)]⟩ : Envelope Sample.types).write.bytes ++ more)).1 =
          .error .recursionLimitExceeded := by
  have hsized : ∀ levels b, (withData 7 ⟨[("t", tower levels)]⟩ : Envelope Sample.types).data? =
      some b → b.Sized := by
    rintro levels b ⟨rfl⟩
    simp only [Bundle.Sized, Bundle.lengths, fieldsLengths, List.append_nil, List.forall_mem_cons,
      List.length_cons, List.length_nil]
    exact ⟨by decide, by decide, sized_tower levels⟩
  have hnesting : ∀ levels, (withData 7 ⟨[("t", tower levels)]⟩ : Envelope Sample.types).nesting =
      levels := by
    intro levels
    exact (Nat.max_zero _).trans (nesting_tower levels)
  refine ⟨(encode_nesting rfl (hsized 32)).1.2 (Nat.le_of_eq (hnesting 32)), ?_⟩
  exact ((encode_nesting rfl (hsized 33)).2 (by rw [hnesting]; decide)).2

end Envelope

end Relay
