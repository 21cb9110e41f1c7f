import Relay.Delivery.Envelope
import Relay.Proofs.Value.Canonical
import Relay.Proofs.Wire.Layout
import Relay.Sample.Interfaces

/-!
# The round trip of envelopes

Decoding reads the entries of every level in the order of the bytes and then puts them in order.  So
a byte sequence decodes to a frame exactly when it is the byte form of some frame with that
canonical form (`Frame.decode_eq_ok`).  A bundle that was built by inserting is canonical: its keys
ascend strictly at every level, and the indices of its sparse maps do.  Such a bundle comes back as
it was, bit for bit.
-/

namespace Relay

namespace Frame

/-- Keys and indices strictly ascend at every level of the data. -/
def Canonical (f : Frame) : Prop := ∀ b, f.data = some b → b.Canonical

theorem canonical_canonical (f : Frame) : f.canonical.Canonical := by
  intro b hb
  obtain ⟨b', -, rfl⟩ := Option.map_eq_some_iff.1 hb
  exact b'.canonical_canonical

theorem Canonical.canonical_eq {f : Frame} (h : f.Canonical) : f.canonical = f := by
  obtain ⟨what, data⟩ := f
  cases data with
  | none => rfl
  | some b => rw [canonical, Option.map_some, (h b rfl).canonical_eq]

theorem encode_eq_ok {f : Frame} {bytes : List UInt8} :
    f.encode = .ok bytes ↔ read bytes = (.ok f, []) := by
  rw [encode, Output.result_eq_ok, read_matches f bytes []]
  simp

/-- What decodes to a frame is the byte form of a frame with the same entries, in any order and with
any that were replaced. -/
theorem decode_eq_ok {bytes : List UInt8} {g : Frame} :
    decode bytes = .ok g ↔ ∃ f : Frame, f.encode = .ok bytes ∧ f.canonical = g := by
  have hread : readCanonical bytes = (.ok g, []) ↔
      ∃ f : Frame, f.encode = .ok bytes ∧ f.canonical = g := by
    simp only [readCanonical, Reader.bind_eq_ok, Reader.pure_eq_ok, encode_eq_ok]
    constructor
    · rintro ⟨f, rest, hf, rfl, rfl⟩
      exact ⟨f, hf, rfl⟩
    · rintro ⟨f, hf, rfl⟩
      exact ⟨f, [], hf, rfl, rfl⟩
  rw [← hread]
  unfold decode
  split <;> simp_all

end Frame

namespace Envelope

variable {U : Universe}

/-- Keys and indices strictly ascend at every level of the bundle. -/
def Canonical (e : Envelope U) : Prop := ∀ b, e.data? = some b → b.Canonical

@[simp] theorem ofFrame_what (f : Frame) : (ofFrame f : Envelope U).what = f.what := by
  obtain ⟨what, data⟩ := f
  cases data <;> rfl

@[simp] theorem data?_ofFrame (f : Frame) : (ofFrame f : Envelope U).data? = f.data := by
  obtain ⟨what, data⟩ := f
  cases data <;> rfl

/-- The envelopes with a byte form are those of frames. -/
theorem encode_eq_ok {e : Envelope U} {bytes : List UInt8} :
    e.encode = .ok bytes ↔ ∃ f : Frame, ofFrame f = e ∧ f.encode = .ok bytes := by
  obtain ⟨what, content⟩ := e
  constructor
  · intro h
    cases content with
    | nothing => exact ⟨⟨what, none⟩, rfl, h⟩
    | data b => exact ⟨⟨what, some b⟩, rfl, h⟩
    | live args => cases h
  · rintro ⟨⟨what', data⟩, hf, h⟩
    cases data with
    | none =>
      cases hf
      exact h
    | some b =>
      cases hf
      exact h

/-- The byte form of an envelope decodes to the envelope with every level in order, which is the
envelope itself, bit for bit, when its bundle is canonical. -/
theorem decode_encode {e : Envelope U} {bytes : List UInt8} (h : e.encode = .ok bytes) :
    ∃ f : Frame, Frame.decode bytes = .ok f ∧ f.what = e.what ∧
      f.data = e.data?.map Bundle.canonical ∧ (e.Canonical → ofFrame f = e) := by
  obtain ⟨f, rfl, hf⟩ := encode_eq_ok.1 h
  refine ⟨f.canonical, Frame.decode_eq_ok.2 ⟨f, hf, rfl⟩, ?_, ?_, fun hcanonical => ?_⟩
  · rw [ofFrame_what]
    rfl
  · rw [data?_ofFrame]
    rfl
  · have hf : f.Canonical := by simpa [Canonical, Frame.Canonical] using hcanonical
    rw [hf.canonical_eq]

/-- A NaN that is not the usual one, and a negative zero inside a record of a sparse map. -/
def specimen : Envelope Sample.types :=
  .withData 7 ⟨[("f", .scalar .float ⟨0x7fc00001⟩),
    ("s", .sparseRecords [(-1, .mk "P" [("z", .scalar .double ⟨0x8000000000000000⟩)])])]⟩

theorem decode_encode_specimen :
    specimen.Canonical ∧ ∃ bytes, specimen.encode = .ok bytes ∧
      ∃ f : Frame, Frame.decode bytes = .ok f ∧ ofFrame f = specimen := by
  have hcanonical : specimen.Canonical := by
    have hkeys : compare "f" "s" = .lt := by decide
    rintro b ⟨rfl⟩
    simp [Bundle.Canonical, CanonicalFields, Payload.Canonical, CanonicalSparse, Record.Canonical,
      Entries.Ordered, hkeys]
  have h : specimen.encode = .ok [0x52, 7, 0, 0, 0, 0x50, 2, 0, 0, 0,
      1, 0, 0, 0, 0x66, 0x05, 1, 0, 0xc0, 0x7f,
      1, 0, 0, 0, 0x73, 0x34, 1, 0, 0, 0, 255, 255, 255, 255, 1, 0, 0, 0, 0x50, 1, 0, 0, 0,
      1, 0, 0, 0, 0x7a, 0x06, 0, 0, 0, 0, 0, 0, 0, 128] := rfl
  obtain ⟨f, hf, -, -, heq⟩ := decode_encode h
  exact ⟨hcanonical, _, h, f, hf, heq hcanonical⟩

end Envelope

end Relay
