import Relay.Wire.Reader

/-!
# How readers are put together

All that a reader of frames ever does is to take some bytes from the front, to yield a value, to
complain, and to go on with what a step has left.  A reader that is put together from these four is
called assembled.  What is shown of the four by induction (`Reader.Assembled`) then holds of
the reader of frames, and the parts of the format need to be gone through only here.

No reader complains of bytes that are left over; that is the business of `Frame.decode`.
-/

namespace Relay

namespace Reader

/-- Put together from taking bytes, values and complaints. -/
inductive Assembled : {α : Type} → Reader α → Prop
  | pure {α : Type} (a : α) : Assembled (pure a : Reader α)
  | fail {α : Type} {e : WireError} (h : ∀ n, e ≠ .trailingBytes n) :
      Assembled (fail e : Reader α)
  | take (n : Nat) : Assembled (Read.take n)
  | bind {α β : Type} {r : Reader α} {next : α → Reader β} (hr : Assembled r)
      (hnext : ∀ a, Assembled (next a)) : Assembled (r >>= next)

namespace Assembled

variable {α β γ : Type} {r : Reader α} {s : Reader β}

theorem map (hr : r.Assembled) (f : α → β) : Assembled (do return f (← r)) :=
  hr.bind fun a => .pure (f a)

theorem map₂ (hr : r.Assembled) (hs : s.Assembled) (f : α → β → γ) :
    Assembled (do let a ← r; return f a (← s)) :=
  hr.bind fun a => hs.map (f a)

end Assembled

end Reader

namespace Read

open Reader

/-! ## The leaves -/

theorem number_assembled (width : Nat) : (number width).Assembled := (Assembled.take width).map _

theorem byte_assembled : byte.Assembled := (number_assembled 1).map _

theorem word_assembled : word.Assembled := (number_assembled 4).map _

theorem tag_assembled : tag.Assembled := by
  refine byte_assembled.bind fun b => ?_
  split
  · exact .pure _
  · exact .fail nofun

theorem blob_assembled : blob.Assembled := (number_assembled 4).bind .take

theorem text_assembled : text.Assembled := by
  refine blob_assembled.bind fun bytes => ?_
  split
  · exact .pure _
  · exact .fail nofun

theorem scalar_assembled (kind : ScalarKind) : (scalar kind).Assembled := by
  cases kind with
  | byte => exact (number_assembled 1).map _
  | short => exact (number_assembled 2).map _
  | int => exact (number_assembled 4).map _
  | long => exact (number_assembled 8).map _
  | float => exact (number_assembled 4).map _
  | double => exact (number_assembled 8).map _
  | char =>
    refine word_assembled.bind fun point => ?_
    split
    · exact .pure _
    · exact .fail nofun
  | bool =>
    refine byte_assembled.bind fun b => ?_
    split
    · exact .pure _
    · split
      · exact .pure _
      · exact .fail nofun

/-! ## Repetition and nesting -/

theorem items_assembled {α : Type} {item : Reader α} (h : item.Assembled) (n : Nat) :
    (items item n).Assembled := by
  induction n with
  | zero => exact .pure []
  | succ n ih => exact h.map₂ ih List.cons

theorem seq_assembled {α : Type} {item : Reader α} (h : item.Assembled) :
    (seq item).Assembled :=
  (number_assembled 4).bind (items_assembled h)

section Levels

variable {inner : Reader (List (String × Payload))}

theorem record_assembled (h : inner.Assembled) : (record inner).Assembled :=
  text_assembled.map₂ h Record.mk

theorem body_assembled (h : inner.Assembled) (c : Category) : (body inner c).Assembled := by
  cases c with
  | scalar kind => exact (scalar_assembled kind).map _
  | text | charSeq => exact text_assembled.map _
  | handle => exact (number_assembled 8).map _
  | record => exact (record_assembled h).map _
  | serializable => exact blob_assembled.map _
  | scalarArray kind => exact (seq_assembled (scalar_assembled kind)).map _
  | textArray | textList => exact (seq_assembled text_assembled).map _
  | charSeqArray | charSeqList => exact (seq_assembled (text_assembled.map CharSeq.mk)).map _
  | recordArray | recordList => exact (seq_assembled (record_assembled h)).map _
  | intList => exact (seq_assembled (scalar_assembled .int)).map _
  | sparseRecords =>
    exact (seq_assembled ((scalar_assembled .int).map₂ (record_assembled h) Prod.mk)).map _
  | size => exact (scalar_assembled .int).map₂ (scalar_assembled .int) _
  | sizeF => exact (scalar_assembled .float).map₂ (scalar_assembled .float) _

theorem payload_assembled (h : inner.Assembled) : (payload inner).Assembled := by
  refine tag_assembled.bind fun t => ?_
  cases t with
  | payload c => exact body_assembled h c
  | _ => exact .fail nofun

end Levels

theorem fields_assembled (levels : Nat) : (fields levels).Assembled := by
  induction levels with
  | zero => exact .fail nofun
  | succ levels ih => exact seq_assembled (text_assembled.map₂ (payload_assembled ih) Prod.mk)

end Read

namespace Frame

open Reader

/-- A frame is its first tag and what an assembled reader makes of the rest. -/
theorem read_eq_bind : ∃ next : Tag → Reader Frame,
    Frame.read = Read.tag >>= next ∧ ∀ first, (next first).Assembled := by
  refine ⟨_, rfl, fun first => ?_⟩
  split
  · refine Read.word_assembled.bind fun what => Read.tag_assembled.bind fun second => ?_
    cases second with
    | bundle => exact (Read.fields_assembled _).map _
    | noData => exact .pure _
    | _ => exact .fail nofun
  · exact .fail nofun

theorem read_assembled : Frame.read.Assembled := by
  obtain ⟨next, hread, hnext⟩ := read_eq_bind
  rw [hread]
  exact Read.tag_assembled.bind hnext

theorem readCanonical_assembled : readCanonical.Assembled := read_assembled.map canonical

end Frame

end Relay
