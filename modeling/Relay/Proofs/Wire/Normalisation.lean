import Relay.Proofs.Value.Level
import Relay.Proofs.Wire.RoundTrip

/-!
# Writing what was read

Bytes that decode need not be the byte form of what they decode to: entries may come in any order,
and an entry may be replaced by a later one.  Writing the decoded frame gives bytes that decode to
the same frame, are no longer, and are the same bytes exactly when every level inside them ascends.

That putting a level in order keeps what can be written writable, and makes it no longer, is carried
through all forms by one relation between outputs, `Output.Shortens`.  A level in order is a
selection of the entries, so its weight is at most theirs (`Entries.total_ofList_le`); an entry does
not have to be found again in its new place.
-/

namespace Relay

namespace Output

/-- Whenever the second output is written in full, so is the first, in no more bytes. -/
def Shortens (a b : Output) : Prop :=
  b.fault = none → a.fault = none ∧ a.bytes.length ≤ b.bytes.length

theorem Shortens.refl (a : Output) : a.Shortens a := fun h => ⟨h, Nat.le_refl _⟩

theorem Shortens.trans {a b c : Output} (hab : a.Shortens b) (hbc : b.Shortens c) :
    a.Shortens c := by
  intro hc
  obtain ⟨hb, hlen⟩ := hbc hc
  obtain ⟨ha, hlen'⟩ := hab hb
  exact ⟨ha, Nat.le_trans hlen' hlen⟩

theorem fault_append {a b : Output} :
    (a ++ b).fault = none ↔ a.fault = none ∧ b.fault = none := by
  obtain ⟨aBytes, aFault⟩ := a
  change (append _ b).fault = none ↔ _
  cases aFault <;> simp [append]

theorem bytes_append {a b : Output} (h : a.fault = none) :
    (a ++ b).bytes = a.bytes ++ b.bytes := by
  obtain ⟨aBytes, aFault⟩ := a
  cases h
  rfl

theorem Shortens.append {a a' b b' : Output} (ha : a.Shortens a') (hb : b.Shortens b') :
    (a ++ b).Shortens (a' ++ b') := by
  intro h
  obtain ⟨ha', hb'⟩ := fault_append.1 h
  obtain ⟨haFault, haLen⟩ := ha ha'
  obtain ⟨hbFault, hbLen⟩ := hb hb'
  refine ⟨fault_append.2 ⟨haFault, hbFault⟩, ?_⟩
  rw [bytes_append haFault, bytes_append ha', List.length_append, List.length_append]
  omega

end Output

namespace Write

open Output

/-! ## Repetition -/

theorem fault_each {α : Type} {item : α → Output} {xs : List α} :
    (each item xs).fault = none ↔ ∀ x ∈ xs, (item x).fault = none := by
  induction xs with
  | nil => simp [each, ofBytes]
  | cons x xs ih => rw [each, fault_append, ih, List.forall_mem_cons]

theorem length_each {α : Type} {item : α → Output} {xs : List α}
    (h : (each item xs).fault = none) :
    (each item xs).bytes.length = total (fun x => (item x).bytes.length) xs := by
  induction xs with
  | nil => rfl
  | cons x xs ih =>
    rw [each] at h ⊢
    obtain ⟨hx, hxs⟩ := fault_append.1 h
    rw [bytes_append hx, List.length_append, ih hxs, total_cons]

theorem count_shortens {m n : Nat} (h : m ≤ n) : (count m).Shortens (count n) := by
  intro hfault
  unfold count at hfault ⊢
  split at hfault
  · next hn =>
    rw [if_pos (Nat.lt_of_le_of_lt h hn), if_pos hn]
    simp [ofBytes, LittleEndian.length_bytes]
  · cases hfault

theorem each_map_shortens {α : Type} {item : α → Output} {f : α → α} {xs : List α}
    (h : ∀ x ∈ xs, (item (f x)).Shortens (item x)) :
    (each item (xs.map f)).Shortens (each item xs) := by
  induction xs with
  | nil => exact Shortens.refl _
  | cons x xs ih =>
    rw [List.forall_mem_cons] at h
    exact h.1.append (ih h.2)

theorem seq_map_shortens {α : Type} {item : α → Output} {f : α → α} {xs : List α}
    (h : ∀ x ∈ xs, (item (f x)).Shortens (item x)) :
    (seq item (xs.map f)).Shortens (seq item xs) :=
  (count_shortens (by simp)).append (each_map_shortens h)

theorem seq_ofList_shortens {κ α : Type} [Ord κ] {item : κ × α → Output} (es : List (κ × α)) :
    (seq item (Entries.ofList es)).Shortens (seq item es) := by
  refine (count_shortens (Entries.length_ofList_le es)).append fun h => ?_
  have hfault : (each item (Entries.ofList es)).fault = none :=
    fault_each.2 fun e he => fault_each.1 h e (Entries.mem_of_mem_ofList he)
  refine ⟨hfault, ?_⟩
  rw [length_each hfault, length_each h]
  exact Entries.total_ofList_le _ es

theorem seq_ofList_map_shortens {κ α : Type} [Ord κ] {item : κ × α → Output} {f : α → α}
    {es : List (κ × α)} (h : ∀ e ∈ es, (item (e.1, f e.2)).Shortens (item e)) :
    (seq item (Entries.ofList (es.map fun e => (e.1, f e.2)))).Shortens (seq item es) :=
  (seq_ofList_shortens _).trans (seq_map_shortens h)

/-! ## Payloads and records -/

theorem fields_shortens {es : List (String × Payload)} {depth : Nat}
    (h : ∀ e ∈ es, (payload e.2.canonical depth).Shortens (payload e.2 depth)) :
    (fields (Entries.ofList (canonicalFields es)) depth).Shortens (fields es depth) := by
  unfold fields
  split
  · exact Shortens.refl _
  · rw [canonicalFields_eq_map]
    exact seq_ofList_map_shortens fun e he => (Shortens.refl _).append (h e he)

theorem canonical_shortens :
    (∀ (p : Payload) (depth : Nat), (payload p.canonical depth).Shortens (payload p depth)) ∧
      ∀ (r : Record) (depth : Nat), (record r.canonical depth).Shortens (record r depth) := by
  apply Payload.nested_induction
  · intro p ih depth
    simp only [payload_eq]
    cases p with
    | record r => exact (Shortens.refl _).append (ih r (List.mem_singleton.2 rfl) depth)
    | recordArray rs | recordList rs =>
      rw [Payload.canonical, canonicalRecords_eq_map]
      exact (Shortens.refl _).append (seq_map_shortens fun r hr => ih r hr depth)
    | sparseRecords es =>
      rw [Payload.canonical, canonicalSparse_eq_map]
      refine (Shortens.refl _).append (seq_ofList_map_shortens fun e he => ?_)
      exact (Shortens.refl _).append (ih e.2 (List.mem_map_of_mem he) depth)
    | _ => exact Shortens.refl _
  · intro name fields ih depth
    rw [Record.canonical, record_eq, record_eq]
    exact (Shortens.refl _).append (fields_shortens fun e he => ih e he (depth + 1))

end Write

namespace Frame

theorem canonical_shortens (f : Frame) : f.canonical.write.Shortens f.write := by
  obtain ⟨what, data⟩ := f
  refine (Output.Shortens.refl _).append ?_
  cases data with
  | none => exact Output.Shortens.refl _
  | some b =>
    refine (Output.Shortens.refl _).append ?_
    simp only [Write.bundle_eq_fields]
    exact Write.fields_shortens fun e _ => Write.canonical_shortens.1 e.2 0

def HasLevel (f : Frame) (l : Level) : Prop := ∃ b, f.data = some b ∧ b.HasLevel l

theorem canonical_iff_levels {f : Frame} : f.Canonical ↔ ∀ l, f.HasLevel l → l.Ascending := by
  simp only [Canonical, Bundle.canonical_iff_levels, HasLevel]
  constructor
  · rintro h l ⟨b, hb, hl⟩
    exact h b hb l hl
  · intro h b hb l hl
    exact h l ⟨b, hb, hl⟩

/-- A byte sequence is the byte form of one frame at most. -/
theorem eq_of_encode {f g : Frame} {bytes : List UInt8} (hf : f.encode = .ok bytes)
    (hg : g.encode = .ok bytes) : f = g := by
  rw [encode_eq_ok] at hf hg
  simpa using hf.symm.trans hg

end Frame

namespace Envelope

variable {U : Universe}

theorem encode_ofFrame (f : Frame) : (ofFrame f : Envelope U).encode = f.encode := by
  obtain ⟨what, data⟩ := f
  cases data <;> rfl

/-- What was decoded can be written.  The bytes written decode to the same, are no longer than the
bytes that were read, and are the same bytes exactly when every level of those ascends: `f` is the
frame as it stands in the bytes. -/
theorem encode_of_decode {bytes : List UInt8} {g : Frame} (h : Frame.decode bytes = .ok g) :
    ∃ written, (ofFrame g : Envelope U).encode = .ok written ∧
      written.length ≤ bytes.length ∧ Frame.decode written = .ok g ∧
      ∃ f, Frame.read bytes = (.ok f, []) ∧
        (written = bytes ↔ ∀ l, f.HasLevel l → l.Ascending) := by
  obtain ⟨f, hf, rfl⟩ := Frame.decode_eq_ok.1 h
  have hwrite : f.write = .ofBytes bytes := Output.result_eq_ok.1 hf
  have hfull : f.write.fault = none := by rw [hwrite]; rfl
  obtain ⟨hfault, hlen⟩ := f.canonical_shortens hfull
  have hwritten : f.canonical.encode = .ok f.canonical.write.bytes := by
    rw [Frame.encode, Output.result, hfault]
  have hfixed : f.canonical.canonical = f.canonical := f.canonical_canonical.canonical_eq
  refine ⟨_, (encode_ofFrame _).trans hwritten, by rwa [hwrite] at hlen,
    Frame.decode_eq_ok.2 ⟨_, hwritten, hfixed⟩, f, Frame.encode_eq_ok.1 hf, ?_⟩
  rw [← Frame.canonical_iff_levels]
  constructor
  · intro heq
    -- One frame has these bytes, so the frame that was read is in order already.
    have hsame : f = f.canonical := Frame.eq_of_encode hf (heq ▸ hwritten)
    exact hsame ▸ f.canonical_canonical
  · intro hcanonical
    rw [hcanonical.canonical_eq, hwrite]
    rfl

/-- A frame whose keys descend and of which one comes twice. -/
def disordered : List UInt8 :=
  [0x52, 1, 0, 0, 0, 0x50, 3, 0, 0, 0, 1, 0, 0, 0, 0x62, 0x08, 1, 1, 0, 0, 0, 0x61, 0x08, 0,
    1, 0, 0, 0, 0x62, 0x01, 5]

theorem encode_of_decode_disordered :
    Frame.decode disordered = .ok ⟨1, some ⟨[("a", .scalar .bool false), ("b", .scalar .byte 5)]⟩⟩ ∧
      ∃ g : Frame, ∃ written, (ofFrame g : Envelope Sample.types).encode = .ok written ∧
        written.length ≤ disordered.length ∧ Frame.decode written = .ok g ∧
        written ≠ disordered := by
  have h : Frame.decode disordered =
      .ok ⟨1, some ⟨[("a", .scalar .bool false), ("b", .scalar .byte 5)]⟩⟩ := rfl
  obtain ⟨written, hwritten, hlen, hdecode, f, hread, hiff⟩ := encode_of_decode h
  refine ⟨h, _, written, hwritten, hlen, hdecode, fun heq => ?_⟩
  have hraw : Frame.read disordered = (.ok ⟨1, some ⟨[("b", .scalar .bool true),
      ("a", .scalar .bool false), ("b", .scalar .byte 5)]⟩⟩, []) := rfl
  obtain rfl : _ = f := by simpa using hraw.symm.trans hread
  have hascend : Level.Ascending (.keys ["b", "a", "b"]) := hiff.1 heq _ ⟨_, rfl, .own⟩
  have hfirst : Write.textBytes "b" < Write.textBytes "a" :=
    List.rel_of_pairwise_cons hascend List.mem_cons_self
  exact absurd hfirst (by decide)

end Envelope

end Relay
