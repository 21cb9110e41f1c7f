import Relay.Proofs.Value.Extent
import Relay.Proofs.Wire.Layout

/-!
# The limits of the format

Writing stops for two reasons only.  When every length fits, one is left: writing stops at the first
record that stands inside too many others, and so a bundle can be written exactly when its records
nest no deeper than the limit.

`Output.TooDeepIff` says of an output under which condition it stops there, and goes through the
writer form by form.  For a payload at some depth the condition is that more levels are needed than
are left, `maxNesting - depth < p.nesting`.  The difference is one of natural numbers: below the last
level none is left, and what holds no record can be written there all the same.
-/

namespace Relay

namespace Output

/-- Writing stops at records that nest too deep exactly under the condition, and for no other
reason. -/
structure TooDeepIff (o : Output) (deep : Prop) : Prop where
  stops : deep → o.fault = some .recursionLimitExceeded
  completes : ¬ deep → o.fault = none

variable {a b : Output} {P Q : Prop}

theorem TooDeepIff.congr (h : a.TooDeepIff P) (hPQ : P ↔ Q) : a.TooDeepIff Q :=
  ⟨fun hQ => h.stops (hPQ.2 hQ), fun hQ => h.completes fun hP => hQ (hPQ.1 hP)⟩

theorem tooDeepIff_ofBytes (bytes : List UInt8) : (ofBytes bytes).TooDeepIff False :=
  ⟨False.elim, fun _ => rfl⟩

theorem TooDeepIff.append (ha : a.TooDeepIff P) (hb : b.TooDeepIff Q) :
    (a ++ b).TooDeepIff (P ∨ Q) := by
  obtain ⟨aBytes, aFault⟩ := a
  change (Output.append _ b).TooDeepIff (P ∨ Q)
  by_cases hP : P
  · obtain rfl : aFault = some .recursionLimitExceeded := ha.stops hP
    exact ⟨fun _ => rfl, fun h => (h (.inl hP)).elim⟩
  · obtain rfl : aFault = none := ha.completes hP
    constructor
    · intro h
      exact hb.stops (h.resolve_left hP)
    · intro h
      exact hb.completes fun hQ => h (.inr hQ)

theorem TooDeepIff.after (ha : a.TooDeepIff False) (hb : b.TooDeepIff Q) :
    (a ++ b).TooDeepIff Q :=
  (ha.append hb).congr (by simp)

theorem TooDeepIff.result_of_deep (h : a.TooDeepIff P) (hP : P) :
    a.result = .error .recursionLimitExceeded := by
  rw [result, h.stops hP]

theorem TooDeepIff.result_of_not_deep (h : a.TooDeepIff P) (hP : ¬ P) : a.result = .ok a.bytes := by
  rw [result, h.completes hP]

end Output

namespace Write

open Output

/-! ## Leaves and repetition -/

theorem count_complete {n : Nat} (h : n < 4294967296) : (count n).TooDeepIff False := by
  rw [count, if_pos h]
  exact tooDeepIff_ofBytes _

theorem blob_complete {bytes : List UInt8} (h : bytes.length < 4294967296) :
    (blob bytes).TooDeepIff False :=
  (count_complete h).after (tooDeepIff_ofBytes bytes)

theorem text_complete {s : String} (h : s.utf8ByteSize < 4294967296) :
    (text s).TooDeepIff False :=
  blob_complete h

theorem each_tooDeepIff {α : Type} {item : α → Output} {P : α → Prop} {xs : List α}
    (h : ∀ x ∈ xs, (item x).TooDeepIff (P x)) : (each item xs).TooDeepIff (∃ x ∈ xs, P x) := by
  induction xs with
  | nil => exact (tooDeepIff_ofBytes []).congr (by simp)
  | cons x xs ih =>
    rw [List.forall_mem_cons] at h
    exact (h.1.append (ih h.2)).congr (by simp)

theorem seq_tooDeepIff {α : Type} {item : α → Output} {P : α → Prop} {xs : List α}
    (hlen : xs.length < 4294967296) (h : ∀ x ∈ xs, (item x).TooDeepIff (P x)) :
    (seq item xs).TooDeepIff (∃ x ∈ xs, P x) :=
  (count_complete hlen).after (each_tooDeepIff h)

theorem seq_complete {α : Type} {item : α → Output} {xs : List α}
    (hlen : xs.length < 4294967296) (h : ∀ x ∈ xs, (item x).TooDeepIff False) :
    (seq item xs).TooDeepIff False :=
  (seq_tooDeepIff hlen h).congr (by simp)

theorem scalar_complete (kind : ScalarKind) (v : kind.Carrier) :
    (scalar kind v).TooDeepIff False :=
  tooDeepIff_ofBytes _

/-! ## Payloads and records -/

theorem fields_tooDeepIff {es : List (String × Payload)} {depth : Nat}
    (hlen : es.length < 4294967296) (hkeys : ∀ e ∈ es, e.1.utf8ByteSize < 4294967296)
    (hvalues : ∀ e ∈ es, (payload e.2 depth).TooDeepIff (maxNesting - depth < e.2.nesting)) :
    (fields es depth).TooDeepIff
      (maxNesting < depth ∨ maxNesting - depth < fieldsNesting es) := by
  unfold fields
  split
  · next hdeep => exact ⟨fun _ => rfl, fun h => (h (.inl hdeep)).elim⟩
  · next hshallow =>
    have hentries : ∀ e ∈ es, (text e.1 ++ payload e.2 depth).TooDeepIff
        (maxNesting - depth < e.2.nesting) :=
      fun e he => (text_complete (hkeys e he)).after (hvalues e he)
    refine (seq_tooDeepIff hlen hentries).congr ?_
    rw [lt_fieldsNesting]
    exact (or_iff_right hshallow).symm

/-- When every length fits, writing stops exactly where more records stand inside one another than
levels are left. -/
theorem tooDeepIff :
    (∀ p : Payload, p.Sized → ∀ depth,
      (payload p depth).TooDeepIff (maxNesting - depth < p.nesting)) ∧
    ∀ r : Record, r.Sized → ∀ depth,
      (record r depth).TooDeepIff (maxNesting - depth < r.nesting) := by
  apply Payload.nested_induction
  · intro p ih hp depth
    have hflat : False ↔ maxNesting - depth < 0 := by simp
    rw [payload_eq]
    refine (tooDeepIff_ofBytes _).after ?_
    cases p with
    | scalar kind v => exact (scalar_complete kind v).congr hflat
    | handle v => exact (tooDeepIff_ofBytes _).congr hflat
    | size v =>
      exact ((scalar_complete .int v.width).after (scalar_complete .int v.height)).congr hflat
    | sizeF v =>
      exact ((scalar_complete .float v.width).after (scalar_complete .float v.height)).congr hflat
    | text v | charSeq v =>
      simp only [Payload.Sized, Payload.lengths, List.forall_mem_cons] at hp
      exact (text_complete hp.1).congr hflat
    | serialized bytes =>
      simp only [Payload.Sized, Payload.lengths, List.forall_mem_cons] at hp
      exact (blob_complete hp.1).congr hflat
    | scalarArray kind vs =>
      simp only [Payload.Sized, Payload.lengths, List.forall_mem_cons] at hp
      exact (seq_complete hp.1 fun v _ => scalar_complete kind v).congr hflat
    | intList vs =>
      simp only [Payload.Sized, Payload.lengths, List.forall_mem_cons] at hp
      exact (seq_complete hp.1 fun v _ => scalar_complete .int v).congr hflat
    | textArray vs | charSeqArray vs | textList vs | charSeqList vs =>
      simp only [Payload.Sized, Payload.lengths, List.forall_mem_cons, List.forall_mem_map] at hp
      exact (seq_complete hp.1 fun v hv => text_complete (hp.2 v hv)).congr hflat
    | record r => exact ih r (List.mem_singleton.2 rfl) hp depth
    | recordArray rs | recordList rs =>
      simp only [Payload.Sized, Payload.lengths, recordsLengths_eq_flatMap, List.forall_mem_cons,
        List.forall_mem_flatMap] at hp
      exact (seq_tooDeepIff hp.1 fun r hr => ih r hr (hp.2 r hr) depth).congr
        lt_recordsNesting.symm
    | sparseRecords es =>
      simp only [Payload.Sized, Payload.lengths, sparseLengths_eq_flatMap, List.forall_mem_cons,
        List.forall_mem_flatMap] at hp
      have hentries : ∀ e ∈ es, (scalar .int e.1 ++ record e.2 depth).TooDeepIff
          (maxNesting - depth < e.2.nesting) := fun e he =>
        (scalar_complete .int e.1).after (ih e.2 (List.mem_map_of_mem he) (hp.2 e he) depth)
      exact (seq_tooDeepIff hp.1 hentries).congr lt_sparseNesting.symm
  · intro name es ih hr depth
    obtain ⟨hname, hlen, hentries⟩ := Record.sized_mk.1 hr
    rw [record_eq]
    have hfields := fields_tooDeepIff hlen (fun e he => (hentries e he).1)
      fun e he => ih e he (hentries e he).2 (depth + 1)
    refine ((text_complete hname).after hfields).congr ?_
    rw [Record.nesting]
    omega

theorem bundle_tooDeepIff {b : Bundle} (h : b.Sized) :
    (bundle b).TooDeepIff (maxNesting < b.nesting) := by
  obtain ⟨hlen, hentries⟩ := Bundle.sized_iff.1 h
  rw [bundle_eq_fields]
  have hfields := fields_tooDeepIff hlen (fun e he => (hentries e he).1)
    fun e he => tooDeepIff.1 e.2 (hentries e he).2 0
  exact hfields.congr (by simp [Bundle.nesting])

end Write

namespace Frame

theorem write_tooDeepIff {b : Bundle} (h : b.Sized) (what : UInt32) :
    (write ⟨what, some b⟩).TooDeepIff (maxNesting < b.nesting) :=
  ((Output.tooDeepIff_ofBytes _).after (Output.tooDeepIff_ofBytes _)).after
    ((Output.tooDeepIff_ofBytes _).after (Write.bundle_tooDeepIff h))

end Frame

end Relay
