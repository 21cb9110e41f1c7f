import Relay.Proofs.Wire.Assembly
import Relay.Proofs.Wire.Layout
import Mathlib.Data.List.Infix

/-!
# The reader makes progress

A reader takes bytes from the front, also when it fails, so what it leaves is an end of what it was
given: the reader of a stream stands at a position inside the input, whatever it has read so far and
whatever it has complained of.  A frame starts with a tag.  Any byte at all is taken to see whether
it is one, so each call leaves fewer bytes, and the lengths and counts that the bytes declare play
no part in this.

Reading frames as long as bytes are left therefore needs no limit (`Frame.readAll`), and it makes no
more calls than there are bytes.
-/

namespace Relay

namespace Reader

variable {α β : Type} {r : Reader α} {next : α → Reader β}

/-- What the reader leaves, of success as of failure, is an end of what it was given. -/
def Drops (r : Reader α) : Prop := ∀ bytes, (r bytes).2 <:+ bytes

theorem drops_take (n : Nat) : (Read.take n).Drops := by
  intro bytes
  unfold Read.take
  cases hsplit : splitExact n bytes with
  | none => exact List.suffix_rfl
  | some parts =>
    obtain ⟨-, rfl⟩ := splitExact_eq_some.1 hsplit
    exact List.suffix_append parts.1 parts.2

theorem Drops.bind (hr : r.Drops) (hnext : ∀ a, (next a).Drops) : (r >>= next).Drops := by
  intro bytes
  have hfirst := hr bytes
  rcases hread : r bytes with ⟨e | a, rest⟩
  · rw [bind_of_error hread]
    rwa [hread] at hfirst
  · rw [bind_of_ok hread]
    rw [hread] at hfirst
    exact (hnext a rest).trans hfirst

theorem Assembled.drops (h : r.Assembled) : r.Drops := by
  induction h with
  | pure a => exact fun bytes => List.suffix_rfl
  | fail _ => exact fun bytes => List.suffix_rfl
  | take n => exact drops_take n
  | bind _ _ ihr ihnext => exact ihr.bind ihnext

/-- Where there are bytes, the reader takes some, of success as of failure. -/
def Advances (r : Reader α) : Prop := ∀ bytes, bytes ≠ [] → (r bytes).2.length < bytes.length

theorem Advances.bind (hr : r.Advances) (hnext : ∀ a, (next a).Drops) :
    (r >>= next).Advances := by
  intro bytes hbytes
  have hfirst := hr bytes hbytes
  rcases hread : r bytes with ⟨e | a, rest⟩
  · rw [bind_of_error hread]
    rwa [hread] at hfirst
  · rw [bind_of_ok hread]
    rw [hread] at hfirst
    exact (hnext a rest).length_le.trans_lt hfirst

end Reader

open Reader

theorem Read.byte_advances : Read.byte.Advances := by
  intro bytes hbytes
  obtain ⟨b, rest, rfl⟩ := List.exists_cons_of_ne_nil hbytes
  exact Nat.lt_succ_self rest.length

theorem Read.tag_advances : Read.tag.Advances := by
  refine Read.byte_advances.bind fun b => ?_
  split <;> exact fun rest => List.suffix_rfl

namespace Frame

theorem readCanonical_drops : readCanonical.Drops := readCanonical_assembled.drops

theorem readCanonical_advances : readCanonical.Advances := by
  obtain ⟨next, hread, hnext⟩ := read_eq_bind
  have hread : Frame.read.Advances := by
    rw [hread]
    exact Read.tag_advances.bind fun first => (hnext first).drops
  exact hread.bind fun f => (Assembled.pure f.canonical).drops

/-- The shortest frame is two tags and the method id between them. -/
theorem length_of_write {f : Frame} {bytes : List UInt8} (h : f.write = .ofBytes bytes) :
    6 ≤ bytes.length := by
  obtain ⟨_, data, hhead, hdata, rfl⟩ := Output.append_eq_ofBytes.1 h
  obtain ⟨first, id, hfirst, hid, rfl⟩ := Output.append_eq_ofBytes.1 hhead
  obtain rfl := Output.ofBytes_inj.1 hfirst
  obtain rfl := Output.ofBytes_inj.1 hid
  have hid := LittleEndian.length_bytes 4 f.what.toNat
  have hsecond : 1 ≤ data.length := by
    cases hcontent : f.data with
    | none =>
      rw [hcontent] at hdata
      obtain rfl := Output.ofBytes_inj.1 hdata
      exact Nat.le_refl 1
    | some b =>
      rw [hcontent] at hdata
      obtain ⟨mark, entries, hmark, -, rfl⟩ := Output.append_eq_ofBytes.1 hdata
      obtain rfl := Output.ofBytes_inj.1 hmark
      rw [List.length_append]
      exact Nat.le_add_right 1 entries.length
  simp only [List.length_append, List.length_singleton]
  omega

theorem length_of_readCanonical {bytes : List UInt8} {f : Frame}
    (h : (readCanonical bytes).1 = .ok f) :
    (readCanonical bytes).2.length + 6 ≤ bytes.length := by
  obtain ⟨g, rest, hread, -⟩ := bind_eq_ok.1 (Prod.ext h rfl : readCanonical bytes = (.ok f, _))
  obtain ⟨used, hwrite, rfl⟩ := (read_matches g bytes rest).1 hread
  have hlength := length_of_write hwrite
  have hleft : (readCanonical (used ++ rest)).2 = rest := by
    rw [readCanonical, bind_of_ok hread]
    rfl
  rw [hleft, List.length_append]
  omega

/-! ## Streams -/

/-- The bytes that can be left of an input after some calls, whatever these answered. -/
inductive Reached (input : List UInt8) : List UInt8 → Prop
  | start : Reached input input
  | next {rest : List UInt8} : Reached input rest → Reached input (readCanonical rest).2

/-- Reads frames one after the other as long as bytes are left.  Each answer comes with the number
of bytes left after it. -/
def readAll (bytes : List UInt8) : List (Except WireError Frame × Nat) :=
  if _ : bytes = [] then []
  else
    ((readCanonical bytes).1, (readCanonical bytes).2.length) :: readAll (readCanonical bytes).2
termination_by bytes.length
decreasing_by exact readCanonical_advances bytes (by assumption)

theorem readAll_nil : readAll [] = [] := by
  rw [readAll, dif_pos rfl]

theorem readAll_of_ne_nil {bytes : List UInt8} (h : bytes ≠ []) :
    readAll bytes = ((readCanonical bytes).1, (readCanonical bytes).2.length) ::
      readAll (readCanonical bytes).2 := by
  rw [readAll, dif_neg h]

/-- Induction along the calls. -/
theorem reading_induction {P : List UInt8 → Prop} (hnil : P [])
    (hcall : ∀ bytes, bytes ≠ [] → P (readCanonical bytes).2 → P bytes) (bytes : List UInt8) :
    P bytes := by
  induction bytes using readAll.induct with
  | case1 => exact hnil
  | case2 bytes h ih => exact hcall bytes h ih

theorem readStream_eq_take (limit : Nat) (bytes : List UInt8) :
    readStream limit bytes = (readAll bytes).take limit := by
  induction limit generalizing bytes with
  | zero => rw [readStream, List.take_zero]
  | succ limit ih =>
    cases bytes with
    | nil => rw [readAll_nil, readStream, List.take_nil]
    | cons b bytes =>
      rw [readAll_of_ne_nil (List.cons_ne_nil b bytes), List.take_succ_cons, ← ih]
      rfl

theorem length_readAll_le (bytes : List UInt8) : (readAll bytes).length ≤ bytes.length := by
  induction bytes using reading_induction with
  | hnil => exact Nat.le_of_eq (congrArg List.length readAll_nil)
  | hcall bytes h ih =>
    rw [readAll_of_ne_nil h, List.length_cons]
    have hadvances := readCanonical_advances bytes h
    omega

theorem getLast?_readAll {bytes : List UInt8} {x : Except WireError Frame × Nat}
    (h : (readAll bytes).getLast? = some x) : x.2 = 0 := by
  induction bytes using reading_induction with
  | hnil => simp [readAll_nil] at h
  | hcall bytes hbytes ih =>
    rw [readAll_of_ne_nil hbytes, List.getLast?_cons] at h
    by_cases hrest : (readCanonical bytes).2 = []
    · rw [hrest, readAll_nil] at h
      obtain rfl := Option.some.inj h
      rfl
    · apply ih
      rw [readAll_of_ne_nil hrest] at h ⊢
      simpa [List.getLast?_cons] using h

/-- What is known of the reader of an input at every point that it can reach. -/
structure Progress (input rest : List UInt8) : Prop where
  /-- It stands at a position inside the input, and what is left is what stands behind it. -/
  position : ∃ n, n ≤ input.length ∧ rest = input.drop n ∧ rest.length = input.length - n
  /-- A call with bytes left takes some, whatever it answers. -/
  advances : rest ≠ [] → (readCanonical rest).2.length < rest.length
  /-- A frame takes six bytes at least. -/
  frame : ∀ f, (readCanonical rest).1 = .ok f → (readCanonical rest).2.length + 6 ≤ rest.length
  /-- Reading while bytes are left ends, with nothing left, after at most as many calls as there
  were bytes. -/
  calls : (readAll rest).length ≤ rest.length
  ends : ∀ x, (readAll rest).getLast? = some x → x.2 = 0
  /-- A limit to the number of calls only cuts the reading short, and one of the number of bytes
  does not. -/
  limited : ∀ limit, readStream limit rest = (readAll rest).take limit
  unlimited : ∀ limit, rest.length ≤ limit → readStream limit rest = readAll rest

theorem Reached.suffix {input rest : List UInt8} (h : Reached input rest) : rest <:+ input := by
  induction h with
  | start => exact List.suffix_rfl
  | next _ ih => exact (readCanonical_drops _).trans ih

/-- The reader makes progress from every state that it reaches on any input. -/
theorem Reached.progress {input rest : List UInt8} (h : Reached input rest) :
    Progress input rest where
  position := by
    obtain ⟨front, rfl⟩ := h.suffix
    refine ⟨front.length, ?_, ?_, ?_⟩
    · rw [List.length_append]
      exact Nat.le_add_right ..
    · rw [List.drop_left]
    · rw [List.length_append, Nat.add_sub_cancel_left]
  advances := readCanonical_advances rest
  frame := fun _ => length_of_readCanonical
  calls := length_readAll_le rest
  ends := fun _ => getLast?_readAll
  limited := fun limit => readStream_eq_take limit rest
  unlimited := by
    intro limit hlimit
    rw [readStream_eq_take, List.take_of_length_le ((length_readAll_le rest).trans hlimit)]

/-- A frame without data, and behind it a text that declares more bytes than there are. -/
def garbled : List UInt8 := [0x52, 1, 0, 0, 0, 0x51, 0x10, 0xff, 0xff, 0xff, 0xff, 7]

/-- Behind the frame the tag of a text is refused, and each byte of the length that it declares is
then taken for the tag of a frame. -/
theorem progress_garbled :
    Progress garbled [0xff, 0xff, 0xff, 0xff, 7] ∧
      (readAll garbled).map Prod.snd = [6, 5, 4, 3, 2, 1, 0] := by
  have hreached : Reached garbled [0xff, 0xff, 0xff, 0xff, 7] := .next (.next .start)
  have hstart : Progress garbled garbled := Reached.progress .start
  refine ⟨hreached.progress, ?_⟩
  rw [← hstart.unlimited 12 (Nat.le_refl 12)]
  rfl

end Frame

end Relay
