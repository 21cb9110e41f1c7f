import Relay.Proofs.Wire.Matching

/-!
# The leaves of the byte format

The parts of a frame that hold no further payloads: bytes taken from the front, numbers of a fixed
width, tags, blobs, texts and scalars.  Each reader matches the writer of the same part, so that the
forms above them never look at bytes again.

Most scalar kinds take every number of their width for a value; `number_map_matches` covers them
all.  A character and a truth value are checked, and have proofs of their own.
-/

namespace Relay

/-! ## Bytes from the front -/

theorem splitExact_eq_some {α : Type} {n : Nat} {xs front back : List α} :
    splitExact n xs = some (front, back) ↔ front.length = n ∧ xs = front ++ back := by
  induction n generalizing xs front with
  | zero =>
    simp only [splitExact, Option.some.injEq, Prod.mk.injEq, List.length_eq_zero_iff]
    constructor
    · rintro ⟨rfl, rfl⟩
      exact ⟨rfl, rfl⟩
    · rintro ⟨rfl, rfl⟩
      exact ⟨rfl, rfl⟩
  | succ n ih =>
    cases xs with
    | nil =>
      simp only [splitExact, reduceCtorEq, false_iff, not_and]
      intro hlen h
      simp [List.append_eq_nil_iff.1 h.symm] at hlen
    | cons x xs =>
      simp only [splitExact, Option.map_eq_some_iff, Prod.exists, Prod.mk.injEq]
      constructor
      · rintro ⟨a, b, h, rfl, rfl⟩
        obtain ⟨hlen, rfl⟩ := ih.1 h
        exact ⟨by simp [hlen], rfl⟩
      · rintro ⟨hlen, h⟩
        cases front with
        | nil => simp at hlen
        | cons y front =>
          obtain ⟨rfl, rfl⟩ := List.cons.inj h
          exact ⟨front, back, ih.2 ⟨by simpa using hlen, rfl⟩, rfl, rfl⟩

/-- Bytes spell a number below the bound of their width. -/
theorem LittleEndian.value_lt (bs : List UInt8) :
    LittleEndian.value bs < Nat.pow 256 bs.length := by
  have h := LittleEndian.value_bytes bs.length (LittleEndian.value bs)
  rw [LittleEndian.bytes_value] at h
  rw [h]
  exact Nat.mod_lt _ (Nat.pow_pos (by decide))

theorem Tag.ofByte?_toByte (t : Tag) : Tag.ofByte? t.toByte = some t := by
  cases t with
  | payload category =>
    cases category with
    | scalar kind => cases kind <;> decide
    | scalarArray kind => cases kind <;> decide
    | _ => decide
  | _ => decide

theorem Tag.toByte_of_ofByte? {b : UInt8} {t : Tag} (h : Tag.ofByte? b = some t) :
    t.toByte = b := by
  simpa using List.find?_some h

namespace Read

theorem take_eq_ok {n : Nat} {taken bytes rest : List UInt8} :
    take n bytes = (.ok taken, rest) ↔ taken.length = n ∧ bytes = taken ++ rest := by
  rw [← splitExact_eq_some]
  unfold take
  cases splitExact n bytes <;> simp [Prod.ext_iff]

theorem number_eq_ok {width n : Nat} {bytes rest : List UInt8} :
    number width bytes = (.ok n, rest) ↔
      n < Nat.pow 256 width ∧ bytes = LittleEndian.bytes width n ++ rest := by
  simp only [number, Reader.bind_eq_ok, Reader.pure_eq_ok, take_eq_ok]
  constructor
  · rintro ⟨taken, mid, ⟨rfl, rfl⟩, rfl, rfl⟩
    refine ⟨LittleEndian.value_lt taken, ?_⟩
    rw [LittleEndian.bytes_value]
  · rintro ⟨hn, rfl⟩
    refine ⟨_, rest, ⟨LittleEndian.length_bytes width n, rfl⟩, ?_, rfl⟩
    rw [LittleEndian.value_bytes, Nat.mod_eq_of_lt hn]

/-- A number of four bytes and a length share one form. -/
theorem count_matches : (number 4).Matches Write.count := by
  intro n bytes rest
  have hpow : Nat.pow 256 4 = 4294967296 := rfl
  rw [number_eq_ok, hpow]
  unfold Write.count
  constructor
  · rintro ⟨hn, rfl⟩
    exact ⟨_, if_pos hn, rfl⟩
  · rintro ⟨used, hwrite, rfl⟩
    split at hwrite
    · next hn => exact ⟨hn, by rw [Output.ofBytes_inj.1 hwrite]⟩
    · simp at hwrite

theorem blob_matches : blob.Matches Write.blob := by
  intro body bytes rest
  simp only [blob, Reader.bind_eq_ok, take_eq_ok]
  constructor
  · rintro ⟨n, mid, hcount, rfl, rfl⟩
    obtain ⟨front, hwrite, rfl⟩ := (count_matches _ _ _).1 hcount
    exact ⟨front ++ body, Output.append_eq_ofBytes.2 ⟨front, body, hwrite, rfl, rfl⟩, by simp⟩
  · rintro ⟨used, hwrite, rfl⟩
    obtain ⟨front, back, hcount, hbody, rfl⟩ := Output.append_eq_ofBytes.1 hwrite
    obtain rfl := Output.ofBytes_inj.1 hbody
    refine ⟨body.length, body ++ rest, ?_, rfl, rfl⟩
    rw [List.append_assoc]
    exact count_matches.read hcount _

theorem fromUTF8?_eq_some {bytes : List UInt8} {s : String} :
    String.fromUTF8? ⟨bytes.toArray⟩ = some s ↔ Write.textBytes s = bytes := by
  unfold String.fromUTF8? Write.textBytes
  split
  · next h =>
    simp only [Option.some.injEq]
    constructor
    · rintro rfl
      simp [String.fromUTF8]
    · rintro rfl
      apply String.toByteArray_inj.1
      simp [String.fromUTF8]
  · next h =>
    simp only [reduceCtorEq, false_iff]
    rintro rfl
    exact h (by simpa using s.isValidUTF8)

theorem text_matches : text.Matches Write.text := by
  intro s bytes rest
  simp only [text, Reader.bind_eq_ok]
  constructor
  · rintro ⟨body, mid, hblob, hread⟩
    cases hs : String.fromUTF8? ⟨body.toArray⟩ with
    | none =>
      rw [hs] at hread
      exact (Reader.fail_ne_ok hread).elim
    | some s' =>
      rw [hs] at hread
      obtain ⟨rfl, rfl⟩ := Reader.pure_eq_ok.1 hread
      rw [Write.text, fromUTF8?_eq_some.1 hs]
      exact (blob_matches _ _ _).1 hblob
  · rintro ⟨used, hwrite, rfl⟩
    refine ⟨Write.textBytes s, rest, blob_matches.read hwrite rest, ?_⟩
    rw [fromUTF8?_eq_some.2 rfl]
    exact Reader.pure_eq_ok.2 ⟨rfl, rfl⟩

/-- A scalar kind whose numbers are read without a check: every number of its width is a value. -/
theorem number_map_matches {α : Type} (width : Nat) (ofNat : Nat → α) (toNat : α → Nat)
    (hlt : ∀ a, toNat a < Nat.pow 256 width) (hleft : ∀ a, ofNat (toNat a) = a)
    (hright : ∀ n, n < Nat.pow 256 width → toNat (ofNat n) = n) :
    Reader.Matches (do return ofNat (← number width))
      (fun a => .ofBytes (LittleEndian.bytes width (toNat a))) := by
  intro a bytes rest
  simp only [Reader.bind_eq_ok, Reader.pure_eq_ok, number_eq_ok, Output.ofBytes_inj]
  constructor
  · rintro ⟨n, mid, ⟨hn, rfl⟩, rfl, rfl⟩
    exact ⟨_, rfl, by rw [hright n hn]⟩
  · rintro ⟨used, rfl, rfl⟩
    exact ⟨toNat a, rest, ⟨hlt a, rfl⟩, hleft a, rfl⟩

theorem byte_matches : byte.Matches fun b => .ofBytes [b] := by
  have h := number_map_matches 1 Nat.toUInt8 UInt8.toNat (fun b => b.toNat_lt) (by simp)
    (fun n hn => by simpa using Nat.mod_eq_of_lt hn)
  simpa [byte, LittleEndian.bytes] using h

theorem word_matches : word.Matches Write.word :=
  number_map_matches 4 Nat.toUInt32 UInt32.toNat (fun n => n.toNat_lt) (by simp)
    (fun n hn => by simpa using Nat.mod_eq_of_lt hn)

theorem tag_matches : tag.Matches Write.tag := by
  intro t bytes rest
  simp only [tag, Reader.bind_eq_ok]
  constructor
  · rintro ⟨b, mid, hread, ht⟩
    obtain ⟨used, hb, rfl⟩ := (byte_matches _ _ _).1 hread
    cases hof : Tag.ofByte? b with
    | none =>
      rw [hof] at ht
      exact (Reader.fail_ne_ok ht).elim
    | some t' =>
      rw [hof] at ht
      obtain ⟨rfl, rfl⟩ := Reader.pure_eq_ok.1 ht
      refine ⟨used, ?_, rfl⟩
      rw [Write.tag, Tag.toByte_of_ofByte? hof]
      exact hb
  · rintro ⟨used, hwrite, rfl⟩
    refine ⟨t.toByte, rest, byte_matches.read hwrite rest, ?_⟩
    rw [Tag.ofByte?_toByte]
    exact Reader.pure_eq_ok.2 ⟨rfl, rfl⟩

theorem char_matches : (scalar .char).Matches (Write.scalar .char) := by
  intro c bytes rest
  simp only [scalar, Reader.bind_eq_ok]
  constructor
  · rintro ⟨point, mid, hread, hc⟩
    obtain ⟨used, hword, rfl⟩ := (word_matches _ _ _).1 hread
    split at hc
    · obtain ⟨rfl, rfl⟩ := Reader.pure_eq_ok.1 hc
      exact ⟨used, hword, rfl⟩
    · exact (Reader.fail_ne_ok hc).elim
  · rintro ⟨used, hwrite, rfl⟩
    refine ⟨c.val, rest, word_matches.read hwrite rest, ?_⟩
    rw [dif_pos c.valid]
    exact Reader.pure_eq_ok.2 ⟨rfl, rfl⟩

theorem bool_matches : (scalar .bool).Matches (Write.scalar .bool) := by
  intro b bytes rest
  simp only [scalar, Reader.bind_eq_ok]
  constructor
  · rintro ⟨n, mid, hread, hb⟩
    obtain ⟨used, hbyte, rfl⟩ := (byte_matches _ _ _).1 hread
    split at hb
    · next hn =>
      obtain ⟨rfl, rfl⟩ := Reader.pure_eq_ok.1 hb
      subst hn
      exact ⟨used, hbyte, rfl⟩
    · split at hb
      · next hn =>
        obtain ⟨rfl, rfl⟩ := Reader.pure_eq_ok.1 hb
        subst hn
        exact ⟨used, hbyte, rfl⟩
      · exact (Reader.fail_ne_ok hb).elim
  · rintro ⟨used, hwrite, rfl⟩
    cases b with
    | false =>
      have hzero : Output.ofBytes [0] = .ofBytes used := hwrite
      exact ⟨0, rest, byte_matches.read hzero rest, Reader.pure_eq_ok.2 ⟨rfl, rfl⟩⟩
    | true =>
      have hone : Output.ofBytes [1] = .ofBytes used := hwrite
      exact ⟨1, rest, byte_matches.read hone rest, Reader.pure_eq_ok.2 ⟨rfl, rfl⟩⟩

theorem scalar_matches (kind : ScalarKind) : (scalar kind).Matches (Write.scalar kind) := by
  cases kind with
  | byte =>
    exact number_map_matches 1 (fun n => n.toUInt8.toInt8) (fun v : Int8 => v.toUInt8.toNat)
      (fun v => v.toUInt8.toNat_lt) (by simp) (fun n hn => by simpa using Nat.mod_eq_of_lt hn)
  | short =>
    exact number_map_matches 2 (fun n => n.toUInt16.toInt16) (fun v : Int16 => v.toUInt16.toNat)
      (fun v => v.toUInt16.toNat_lt) (by simp) (fun n hn => by simpa using Nat.mod_eq_of_lt hn)
  | int =>
    exact number_map_matches 4 (fun n => n.toUInt32.toInt32) (fun v : Int32 => v.toUInt32.toNat)
      (fun v => v.toUInt32.toNat_lt) (by simp) (fun n hn => by simpa using Nat.mod_eq_of_lt hn)
  | long =>
    exact number_map_matches 8 (fun n => n.toUInt64.toInt64) (fun v : Int64 => v.toUInt64.toNat)
      (fun v => v.toUInt64.toNat_lt) (by simp) (fun n hn => by simpa using Nat.mod_eq_of_lt hn)
  | float =>
    exact number_map_matches 4 (fun n => ⟨n.toUInt32⟩) (fun v : Binary32 => v.bits.toNat)
      (fun v => v.bits.toNat_lt) (by simp) (fun n hn => by simpa using Nat.mod_eq_of_lt hn)
  | double =>
    exact number_map_matches 8 (fun n => ⟨n.toUInt64⟩) (fun v : Binary64 => v.bits.toNat)
      (fun v => v.bits.toNat_lt) (by simp) (fun n hn => by simpa using Nat.mod_eq_of_lt hn)
  | char => exact char_matches
  | bool => exact bool_matches

end Read
end Relay
