import Relay.Proofs.Wire.RoundTrip

/-!
# Streams of frames

Frames are written one behind the other into one buffer and read from it one after the other.  A
frame says itself where it ends, so reading it leaves the bytes of the frames behind it as they are
(`Frame.read_matches`); the stream follows by induction on the list of envelopes.

An envelope with live arguments is refused before anything is written.  The converse needs that the
writer of frames never refuses for that reason: it stops at the limits of the format only
(`Output.Limited`).
-/

namespace Relay

/-! ## Why writing stops -/

namespace Output

/-- If writing stops, then at one of the limits of the format. -/
def Limited (o : Output) : Prop :=
  ∀ e, o.fault = some e → e = .recursionLimitExceeded ∨ ∃ n, e = .blobTooLarge n

variable {a b : Output}

theorem limited_ofBytes (bytes : List UInt8) : (ofBytes bytes).Limited := by
  intro e he
  cases he

theorem Limited.append (ha : a.Limited) (hb : b.Limited) : (a ++ b).Limited := by
  obtain ⟨aBytes, aFault⟩ := a
  change (Output.append _ b).Limited
  cases aFault with
  | none => exact hb
  | some e => exact ha

end Output

namespace Write

open Output

theorem count_limited (n : Nat) : (count n).Limited := by
  unfold count
  split
  · exact limited_ofBytes _
  · intro e he
    exact .inr ⟨n, (Option.some.inj he).symm⟩

theorem blob_limited (bytes : List UInt8) : (blob bytes).Limited :=
  (count_limited _).append (limited_ofBytes bytes)

theorem text_limited (s : String) : (text s).Limited := blob_limited _

theorem seq_limited {α : Type} {item : α → Output} {xs : List α}
    (h : ∀ x ∈ xs, (item x).Limited) : (seq item xs).Limited := by
  refine (count_limited _).append ?_
  induction xs with
  | nil => exact limited_ofBytes []
  | cons x xs ih =>
    rw [List.forall_mem_cons] at h
    exact h.1.append (ih h.2)

theorem fields_limited {es : List (String × Payload)} {depth : Nat}
    (h : ∀ e ∈ es, (payload e.2 depth).Limited) : (fields es depth).Limited := by
  unfold fields
  split
  · intro e he
    exact .inl (Option.some.inj he).symm
  · exact seq_limited fun e he => (text_limited e.1).append (h e he)

theorem payload_limited :
    (∀ (p : Payload) (depth : Nat), (payload p depth).Limited) ∧
      ∀ (r : Record) (depth : Nat), (record r depth).Limited := by
  apply Payload.nested_induction
  · intro p ih depth
    rw [payload_eq]
    refine (limited_ofBytes _).append ?_
    cases p with
    | scalar kind v | handle v => exact limited_ofBytes _
    | size v | sizeF v => exact (limited_ofBytes _).append (limited_ofBytes _)
    | text v | charSeq v => exact text_limited _
    | serialized bytes => exact blob_limited bytes
    | scalarArray kind vs | intList vs => exact seq_limited fun v _ => limited_ofBytes _
    | textArray vs | charSeqArray vs | textList vs | charSeqList vs =>
      exact seq_limited fun v _ => text_limited _
    | record r => exact ih r (List.mem_singleton.2 rfl) depth
    | recordArray rs | recordList rs => exact seq_limited fun r hr => ih r hr depth
    | sparseRecords es =>
      exact seq_limited fun e he =>
        (limited_ofBytes _).append (ih e.2 (List.mem_map_of_mem he) depth)
  · intro name es ih depth
    rw [record_eq]
    exact (text_limited name).append (fields_limited fun e he => ih e he (depth + 1))

end Write

open Output in
theorem Frame.write_limited (f : Frame) : f.write.Limited := by
  obtain ⟨what, data⟩ := f
  cases data with
  | none => exact limited_ofBytes _
  | some b =>
    have hbundle : (Write.bundle b).Limited := by
      rw [Write.bundle_eq_fields]
      exact Write.fields_limited fun e _ => Write.payload_limited.1 e.2 0
    exact (limited_ofBytes _).append ((limited_ofBytes _).append hbundle)

namespace Envelope

variable {U : Universe} {e : Envelope U}

/-- Live arguments are the reason exactly when there are some, and then nothing is written. -/
theorem write_of_liveArguments (h : e.write.fault = some .liveArguments) :
    e.write = .stop .liveArguments := by
  unfold write at h ⊢
  cases hframe : e.frame? with
  | none => rfl
  | some f =>
    rw [hframe] at h
    rcases f.write_limited _ h with hreason | ⟨n, hreason⟩ <;> cases hreason

/-! ## One frame of a stream -/

theorem encode_of_write (h : e.write.fault = none) : e.encode = .ok e.write.bytes := by
  rw [encode, Output.result, h]

theorem ne_nil_of_encode {bytes : List UInt8} (h : e.encode = .ok bytes) : bytes ≠ [] := by
  rintro rfl
  obtain ⟨f, -, hf⟩ := encode_eq_ok.1 h
  have hread := Frame.encode_eq_ok.1 hf
  cases hread

/-- An answer of the reader: the envelope with every level in order, which is the envelope itself,
bit for bit, when its bundle is canonical; and the number of bytes behind its byte form. -/
structure ReadAs (e : Envelope U) (left : Nat) (x : Except WireError Frame × Nat) : Prop where
  frame : ∃ f : Frame, x.1 = .ok f ∧ f.what = e.what ∧ f.data = e.data?.map Bundle.canonical ∧
    (e.Canonical → ofFrame f = e)
  left : x.2 = left

theorem readAs_front {bytes : List UInt8} (h : e.encode = .ok bytes) (rest : List UInt8) :
    ∃ f : Frame, Frame.readCanonical (bytes ++ rest) = (.ok f, rest) ∧
      e.ReadAs rest.length (.ok f, rest.length) := by
  obtain ⟨f, hdecode, hf⟩ := decode_encode h
  obtain ⟨g, hg, rfl⟩ := Frame.decode_eq_ok.1 hdecode
  refine ⟨g.canonical, ?_, ⟨_, rfl, hf⟩, rfl⟩
  have hread := Frame.read_matches.read (Output.result_eq_ok.1 hg) rest
  exact Reader.bind_of_ok hread

/-! ## All frames of a stream -/

/-- The envelopes that are not refused. -/
def sent (es : List (Envelope U)) : List (Envelope U) := es.filter fun e => e.write.fault.isNone

/-- What the envelopes write, one behind the other. -/
def buffer (es : List (Envelope U)) : List UInt8 := es.flatMap fun e => e.write.bytes

theorem faults_writeStream (es : List (Envelope U)) :
    (writeStream es).1 = es.map fun e => e.write.fault := by
  induction es with
  | nil => rfl
  | cons e rest ih => exact congrArg (e.write.fault :: ·) ih

theorem bytes_writeStream (es : List (Envelope U)) : (writeStream es).2 = buffer es := by
  induction es with
  | nil => rfl
  | cons e rest ih => exact congrArg (e.write.bytes ++ ·) ih

theorem buffer_sent_eq (es : List (Envelope U)) :
    buffer (sent es) = (es.filterMap fun e => e.encode.toOption).flatten := by
  induction es with
  | nil => rfl
  | cons e rest ih =>
    unfold sent buffer at ih ⊢
    cases hfault : e.write.fault with
    | none =>
      rw [List.filter_cons_of_pos (by rw [hfault]; rfl), List.flatMap_cons, ih,
        List.filterMap_cons_some (by rw [encode_of_write hfault]; rfl), List.flatten_cons]
    | some error =>
      have hencode : e.encode = .error error := by rw [encode, Output.result, hfault]
      rw [List.filter_cons_of_neg (by rw [hfault]; exact Bool.false_ne_true), ih,
        List.filterMap_cons_none (by rw [hencode]; rfl)]

/-- What is refused for its live arguments leaves no bytes behind. -/
theorem buffer_sent {es : List (Envelope U)}
    (hes : ∀ e ∈ es, e.write.fault = none ∨ e.write.fault = some .liveArguments) :
    buffer (sent es) = buffer es := by
  induction es with
  | nil => rfl
  | cons e rest ih =>
    rw [List.forall_mem_cons] at hes
    have hrest := ih hes.2
    unfold sent buffer at hrest ⊢
    rcases hes.1 with hnone | hlive
    · rw [List.filter_cons_of_pos (by rw [hnone]; rfl), List.flatMap_cons, List.flatMap_cons, hrest]
    · rw [List.filter_cons_of_neg (by rw [hlive]; decide), List.flatMap_cons, hrest,
        write_of_liveArguments hlive]
      rfl

theorem readStream_buffer {es : List (Envelope U)} (hes : ∀ e ∈ es, e.write.fault = none) :
    (Frame.readStream es.length (buffer es)).length = es.length ∧
      ∀ (k : Nat) (e : Envelope U), es[k]? = some e →
        ∃ x, (Frame.readStream es.length (buffer es))[k]? = some x ∧
          e.ReadAs (buffer (es.drop (k + 1))).length x := by
  induction es with
  | nil => exact ⟨rfl, nofun⟩
  | cons e rest ih =>
    rw [List.forall_mem_cons] at hes
    obtain ⟨hlength, hanswers⟩ := ih hes.2
    have hencode := encode_of_write hes.1
    obtain ⟨f, hread, hfront⟩ := readAs_front hencode (buffer rest)
    have hstream : Frame.readStream (e :: rest).length (buffer (e :: rest)) =
        (.ok f, (buffer rest).length) :: Frame.readStream rest.length (buffer rest) := by
      -- The reader goes on only while it sees a byte.
      obtain ⟨b, bytes, hbytes⟩ := List.exists_cons_of_ne_nil (ne_nil_of_encode hencode)
      have hbuffer : buffer (e :: rest) = b :: (bytes ++ buffer rest) := by
        rw [buffer, List.flatMap_cons, hbytes]
        rfl
      rw [hbytes, List.cons_append] at hread
      rw [hbuffer, List.length_cons, Frame.readStream, hread]
      exact List.cons_ne_nil _ _
    rw [hstream]
    refine ⟨by rw [List.length_cons, hlength, List.length_cons], fun k e' he' => ?_⟩
    cases k with
    | zero =>
      obtain rfl := Option.some.inj he'
      exact ⟨_, rfl, hfront⟩
    | succ k => exact hanswers k e' he'

/-- Envelopes that are sent or refused for their live arguments share one buffer: it holds the byte
forms of those that are sent, and as many frames read from it are these envelopes, in order, each
with the bytes of the later ones left. -/
theorem readStream_writeStream {es : List (Envelope U)}
    (hes : ∀ e ∈ es, e.write.fault = none ∨ e.write.fault = some .liveArguments) :
    (writeStream es).1 = es.map (fun e => e.write.fault) ∧
      (writeStream es).2 = (es.filterMap fun e => e.encode.toOption).flatten ∧
      (∀ e ∈ es, e.write.fault = some .liveArguments → e.write.bytes = []) ∧
      (Frame.readStream (sent es).length (writeStream es).2).length = (sent es).length ∧
      ∀ (k : Nat) (e : Envelope U), (sent es)[k]? = some e →
        ∃ x, (Frame.readStream (sent es).length (writeStream es).2)[k]? = some x ∧
          e.ReadAs (buffer ((sent es).drop (k + 1))).length x := by
  have hsent : ∀ e ∈ sent es, e.write.fault = none := by
    intro e he
    exact Option.isNone_iff_eq_none.1 (List.mem_filter.1 he).2
  have hbuffer := (bytes_writeStream es).trans (buffer_sent hes).symm
  refine ⟨faults_writeStream es, ?_, ?_, ?_⟩
  · rw [hbuffer, buffer_sent_eq]
  · intro e he hlive
    rw [write_of_liveArguments hlive]
    rfl
  · rw [hbuffer]
    exact readStream_buffer hsent

/-- Live arguments between two envelopes that are sent. -/
def parcel : List (Envelope Sample.types) := [specimen, .withArgs 3 ⟨[], ()⟩, .bare 9]

theorem readStream_writeStream_parcel :
    (writeStream parcel).1 = [none, some .liveArguments, none] ∧
      ∃ x y, (Frame.readStream 2 (writeStream parcel).2)[0]? = some x ∧
        (Frame.readStream 2 (writeStream parcel).2)[1]? = some y ∧
        specimen.ReadAs 6 x ∧ (Envelope.bare 9 : Envelope Sample.types).ReadAs 0 y := by
  have hsome : specimen.write.fault = none := rfl
  have hlive : (Envelope.withArgs 3 ⟨[], ()⟩ : Envelope Sample.types).write.fault =
      some .liveArguments := rfl
  have hnone : (Envelope.bare 9 : Envelope Sample.types).write.fault = none := rfl
  have hes : ∀ e ∈ parcel, e.write.fault = none ∨ e.write.fault = some .liveArguments := by
    simp only [parcel, List.forall_mem_cons]
    exact ⟨.inl hsome, .inr hlive, .inl hnone, List.forall_mem_nil _⟩
  obtain ⟨hfaults, -, -, -, hanswers⟩ := readStream_writeStream hes
  obtain ⟨x, hx, hfirst⟩ := hanswers 0 specimen rfl
  obtain ⟨y, hy, hsecond⟩ := hanswers 1 (.bare 9) rfl
  refine ⟨?_, x, y, hx, hy, hfirst, hsecond⟩
  rw [hfaults, parcel, List.map_cons, List.map_cons, List.map_singleton, hsome, hlive, hnone]

end Envelope

end Relay
