import Relay.Proofs.Delivery.Channels
import Relay.Proofs.Delivery.Marshalling
import Relay.Proofs.Wire.Limits
import Relay.Proofs.Wire.RoundTrip
import Relay.Sample.Interfaces

/-!
# Calls across processes

A call on an open link takes one of two ways.  Either one frame is put on the link, and whichever
dispatcher of the interface gets that frame makes exactly this call on its receiver; or nothing is
put on the link and the sender counts one failure more.  Which way it takes depends on the arguments
alone: it fails when one of them has no byte form or when their records nest too deep.

The stages on the way have a lemma each: arguments to bundle (`Marshalling`), bundle to bytes
(`RoundTrip`, `Limits`), and here the envelope at both ends and the worlds it passes through.
-/

namespace Relay

variable {U : Universe}

/-! ## The envelope of a call -/

namespace SlotMethod

variable {m : SlotMethod U} {args : Tuple U m.types} {id : UInt32} {e : Envelope U}

/-- The call cannot cross: one of the arguments has no byte form, or the records of the arguments
nest too deep. -/
def Fails (m : SlotMethod U) (args : Tuple U m.types) : Prop :=
  Tuple.Unwritable m.types args ∨
    ∃ b, marshal m.params args .empty = .ok b ∧ maxNesting < b.nesting

theorem remoteEnvelope_eq_ok : m.remoteEnvelope id args = .ok e ↔
    (m.params = [] ∧ e = .bare id) ∨
      m.params ≠ [] ∧ ∃ b, marshal m.params args .empty = .ok b ∧ e = .withData id b := by
  by_cases hnil : m.params = []
  · rw [remoteEnvelope, if_pos (List.isEmpty_iff.2 hnil)]
    simp [hnil, eq_comm]
  · rw [remoteEnvelope, if_neg (mt List.isEmpty_iff.1 hnil)]
    cases marshal m.params args .empty with
    | ok b => simp [hnil, Except.map, eq_comm]
    | error error => simp [hnil, Except.map]

theorem remoteEnvelope_eq_error {error : BundleError} :
    m.remoteEnvelope id args = .error error ↔
      m.params ≠ [] ∧ marshal m.params args .empty = .error error := by
  by_cases hnil : m.params = []
  · rw [remoteEnvelope, if_pos (List.isEmpty_iff.2 hnil)]
    simp [hnil]
  · rw [remoteEnvelope, if_neg (mt List.isEmpty_iff.1 hnil)]
    cases marshal m.params args .empty with
    | ok b => simp [Except.map]
    | error error => simp [hnil, Except.map]

theorem remoteEnvelope_what (h : m.remoteEnvelope id args = .ok e) : e.what = id := by
  rcases remoteEnvelope_eq_ok.1 h with ⟨-, rfl⟩ | ⟨-, b, -, rfl⟩
  · rfl
  · rfl

theorem not_fails_of_nil (h : m.params = []) : ¬ m.Fails args := by
  obtain ⟨name, params⟩ := m
  subst h
  rintro (hunwritable | ⟨b, hb, hdeep⟩)
  · exact hunwritable
  · cases hb
    exact absurd hdeep (by decide)

section Faithful

variable (hparams : ∀ p ∈ m.params, p.slot.Faithful (p.type.Unwritable U))

include hparams

/-- The bundle of a call is in order, so that it comes back from its byte form as it was. -/
theorem canonical_remoteEnvelope (h : m.remoteEnvelope id args = .ok e) : e.Canonical := by
  intro b hb
  rcases remoteEnvelope_eq_ok.1 h with ⟨-, rfl⟩ | ⟨-, b', hmarshal, rfl⟩
  · cases hb
  · cases hb
    exact canonical_marshal hparams Bundle.canonical_empty hmarshal

/-- The receiving side makes the call that the envelope was made for. -/
theorem receive_remoteEnvelope (interface : String)
    (hnames : (m.params.map SlotParam.name).Nodup) (h : m.remoteEnvelope id args = .ok e) :
    m.receive interface e = .deliver m.name ⟨m.types, args⟩ := by
  rcases remoteEnvelope_eq_ok.1 h with ⟨hnil, rfl⟩ | ⟨hne, b, hmarshal, rfl⟩
  · obtain ⟨name, params⟩ := m
    subst hnil
    rfl
  · have hargs : unmarshal m.params (Envelope.withData id b : Envelope U).payload = .ok args :=
      unmarshal_of_marshal hparams hnames hmarshal
    rw [receive, if_neg (mt List.isEmpty_iff.1 hne), hargs]

/-- A call that does not fail has a byte form, and one that fails has none. -/
theorem encode_of_not_fails (hsized : ∀ b, marshal m.params args .empty = .ok b → b.Sized)
    (h : ¬ m.Fails args) (id : UInt32) :
    ∃ e : Envelope U, m.remoteEnvelope id args = .ok e ∧ ∃ bytes, e.encode = .ok bytes := by
  rw [Fails, not_or] at h
  by_cases hnil : m.params = []
  · exact ⟨.bare id, remoteEnvelope_eq_ok.2 (.inl ⟨hnil, rfl⟩), _, rfl⟩
  · cases hmarshal : marshal m.params args .empty with
    | ok b =>
      have hshallow : ¬ maxNesting < b.nesting := fun hdeep => h.2 ⟨b, hmarshal, hdeep⟩
      exact ⟨.withData id b, remoteEnvelope_eq_ok.2 (.inr ⟨hnil, b, hmarshal, rfl⟩), _,
        (Frame.write_tooDeepIff (hsized b hmarshal) id).result_of_not_deep hshallow⟩
    | error error => exact (h.1 ((marshal_eq_error_iff hparams).1 ⟨error, hmarshal⟩)).elim

theorem encode_of_fails (hsized : ∀ b, marshal m.params args .empty = .ok b → b.Sized)
    (h : m.Fails args) (id : UInt32) :
    (∃ error, m.remoteEnvelope id args = .error error) ∨
      ∃ (e : Envelope U) (error : WireError),
        m.remoteEnvelope id args = .ok e ∧ e.encode = .error error := by
  have hne : m.params ≠ [] := fun hnil => not_fails_of_nil hnil h
  rcases h with hunwritable | ⟨b, hmarshal, hdeep⟩
  · obtain ⟨error, hmarshal⟩ := (marshal_eq_error_iff hparams).2 hunwritable
    exact .inl ⟨error, remoteEnvelope_eq_error.2 ⟨hne, hmarshal⟩⟩
  · exact .inr ⟨.withData id b, .recursionLimitExceeded,
      remoteEnvelope_eq_ok.2 (.inr ⟨hne, b, hmarshal, rfl⟩),
      (Frame.write_tooDeepIff (hsized b hmarshal) id).result_of_deep hdeep⟩

end Faithful

end SlotMethod

/-! ## The worlds that a call passes through -/

namespace World

variable {w : World U}

/-- An item that is posted into an open channel goes behind those that wait there. -/
theorem post_open {c : Nat} {channel : Channel U} (item : Item U)
    (hchannel : w.channels[c]? = some channel) (hopen : channel.isOpen = true) :
    w.post c item =
      ((w.modifyChannel c fun ch => { ch with items := ch.items ++ [item] }).wake c, true) :=
  post_of_some item (inbox?_eq_some.2 ⟨channel, hchannel, hopen, rfl⟩)

section Sending

variable {sender : RemoteSender} {id : UInt32} {m : SlotMethod U} {args : Tuple U m.types}
  {e : Envelope U}

theorem callRemote_of_frame {c : Nat} {channel : Channel U} {bytes : List UInt8}
    (henvelope : m.remoteEnvelope id args = .ok e) (hencode : e.encode = .ok bytes)
    (hlink : sender.link = .channel c) (hchannel : w.channels[c]? = some channel)
    (hopen : channel.isOpen = true) :
    w.callRemote sender id m args = ((w.post c (.frame bytes)).1, sender) := by
  simp only [callRemote, henvelope, sendRemote, hencode, hlink, sendFrame,
    post_open (.frame bytes) hchannel hopen]

theorem callRemote_of_marshal_error {error : BundleError}
    (henvelope : m.remoteEnvelope id args = .error error) :
    w.callRemote sender id m args = w.report sender id (.marshal error) := by
  rw [callRemote, henvelope]

theorem callRemote_of_encode_error {error : WireError}
    (henvelope : m.remoteEnvelope id args = .ok e) (hencode : e.encode = .error error) :
    w.callRemote sender id m args = w.report sender id (.encoding error) := by
  rw [callRemote, henvelope]
  simp only [sendRemote, hencode, SlotMethod.remoteEnvelope_what henvelope]

end Sending

end World

/-- A frame that spells an envelope for a method makes the call that the method makes of it. -/
theorem SlotInterface.handle_frame {s : SlotInterface U} {m : SlotMethod U} {f : Frame}
    {bytes : List UInt8} {args : LiveArgs U} (hdecode : Frame.decode bytes = .ok f)
    (hmethod : numbered? s.methods f.what = some m)
    (hreceive : m.receive s.name (.ofFrame f) = .deliver m.name args) :
    (Surface.across s).handle true (.frame bytes) = .deliver m.name args := by
  simp only [Surface.handle, Surface.deliver, hdecode, Surface.dispatch, if_true,
    Surface.receive, Envelope.ofFrame_what, hmethod, hreceive]

/-! ## From the call to the receiver -/

/-- Whichever dispatcher of the interface gets the bytes while its receiver is there makes exactly
one call, and nothing else happens. -/
def SlotInterface.Delivers (s : SlotInterface U) (bytes : List UInt8) (call : Call U) : Prop :=
  ∀ (w : World U) (d : Dispatcher U), d.surface = .across s → w.resolves d.hold = true →
    w.handle d (.frame bytes) = (w.modifyReceiver d.hold.receiver fun r =>
      { r with calls := r.calls ++ [call] }, .delivered)

section Frames

variable {s : SlotInterface U} {m : SlotMethod U} {args : Tuple U m.types} {id : UInt32}
  {e : Envelope U} {bytes : List UInt8}
  (hparams : ∀ p ∈ m.params, p.slot.Faithful (p.type.Unwritable U))
  (hnames : (m.params.map SlotParam.name).Nodup) (hmethod : numbered? s.methods id = some m)
  (henvelope : m.remoteEnvelope id args = .ok e) (hencode : e.encode = .ok bytes)

include hparams hnames hmethod henvelope hencode

theorem SlotMethod.handle_frame :
    (Surface.across s).handle true (.frame bytes) = .deliver m.name ⟨m.types, args⟩ := by
  obtain ⟨f, rfl, hframe⟩ := Envelope.encode_eq_ok.1 hencode
  have hcanonical : f.Canonical := by
    simpa [Envelope.Canonical, Frame.Canonical] using
      canonical_remoteEnvelope hparams henvelope
  have hdecode : Frame.decode bytes = .ok f :=
    Frame.decode_eq_ok.2 ⟨f, hframe, hcanonical.canonical_eq⟩
  have hwhat : f.what = id := by
    rw [← Envelope.ofFrame_what (U := U) f]
    exact remoteEnvelope_what henvelope
  exact SlotInterface.handle_frame hdecode (hwhat ▸ hmethod)
    (receive_remoteEnvelope hparams s.name hnames henvelope)

theorem SlotMethod.delivers : s.Delivers bytes ⟨m.name, ⟨m.types, args⟩⟩ := by
  intro w d hsurface hlive
  have hhandle : d.surface.handle (w.resolves d.hold) (.frame bytes) =
      .deliver m.name ⟨m.types, args⟩ := by
    rw [hsurface, hlive]
    exact handle_frame hparams hnames hmethod henvelope hencode
  simp only [World.handle, hhandle, Handling.deliver, List.append_nil]

end Frames

/-- A call on an open link puts one frame on it, which makes the same call at the other end, or puts
nothing on it and is counted. -/
theorem World.callRemote_open {i : Interface U} {s : SlotInterface U} {id : UInt32}
    {m : SlotMethod U} {args : Tuple U m.types} {w : World U} {sender : RemoteSender} {c : Nat}
    {channel : Channel U} (hslots : i.slot? = some s) (hmethod : numbered? s.methods id = some m)
    (hnames : (m.params.map SlotParam.name).Nodup) (hlawful : ∀ p ∈ m.params, p.type.Lawful U)
    (hsized : ∀ b, marshal m.params args .empty = .ok b → b.Sized)
    (hlink : sender.link = .channel c) (hchannel : w.channels[c]? = some channel)
    (hopen : channel.isOpen = true) :
    (¬ m.Fails args → ∃ bytes,
      (w.callRemote sender id m args).1.channels =
        w.channels.modify c (fun ch => { ch with items := ch.items ++ [.frame bytes] }) ∧
      (w.callRemote sender id m args).2 = sender ∧
      s.Delivers bytes ⟨m.name, ⟨m.types, args⟩⟩) ∧
    (m.Fails args →
      (w.callRemote sender id m args).1.channels = w.channels ∧
      (w.callRemote sender id m args).2 = { sender with failures := sender.failures + 1 }) := by
  have hparams : ∀ p ∈ m.params, p.slot.Faithful (p.type.Unwritable U) := fun p hp =>
    ArgType.slot?_faithful (Interface.proper_of_slot? hslots m (mem_of_numbered? hmethod) p hp)
      (hlawful p hp)
  constructor
  · intro hwritable
    obtain ⟨e, henvelope, bytes, hencode⟩ :=
      SlotMethod.encode_of_not_fails hparams hsized hwritable id
    have hcall := callRemote_of_frame henvelope hencode hlink hchannel hopen
    have hdelivers := SlotMethod.delivers hparams hnames hmethod henvelope hencode
    refine ⟨bytes, ?_, by rw [hcall], hdelivers⟩
    rw [hcall, post_open _ hchannel hopen, wake_channels]
    rfl
  · intro hfails
    rcases SlotMethod.encode_of_fails hparams hsized hfails id with
      ⟨error, henvelope⟩ | ⟨e, error, henvelope, hencode⟩
    · rw [callRemote_of_marshal_error henvelope]
      exact ⟨rfl, rfl⟩
    · rw [callRemote_of_encode_error henvelope hencode]
      exact ⟨rfl, rfl⟩

/-! ## A record, a byte form and a NaN on their way -/

namespace Sample

/-- An interface whose second method takes a sparse map of records, a type with a byte form and a
floating-point number. -/
def ferry : Interface types where
  name := "Ferry"
  methods := [⟨"noop", []⟩, ⟨"load", [param "spots" (.sparse (.declared .point)),
    param "cells" (.declared .grid), param "ratio" (.scalar .double)]⟩]

def load : SlotMethod types where
  name := "load"
  params := [⟨"spots", .sparse (.declared .point), (Slot.sparseRecords : Slot (SparseMap Point))⟩,
    ⟨"cells", .declared .grid, (Slot.serializable : Slot Grid)⟩,
    ⟨"ratio", .scalar .double, .scalar .double⟩]

def ferrySlots : SlotInterface types := ⟨"Ferry", [⟨"noop", []⟩, load]⟩

/-- Arguments with a NaN that is not the usual one. -/
def freight (cells : OrderedMap Cell Int32) : Tuple types load.types :=
  (.ofList [(-1, ⟨3, 4⟩)], ⟨cells⟩, ⟨0x7ff8000000000001⟩, ())

def quay : World types := { World.empty with channels := [⟨[], 1, true⟩] }

def ferryman : RemoteSender := ⟨"Ferry", .channel 0, 0⟩

theorem load_lawful : ∀ p ∈ load.params, p.type.Lawful types := by
  have hpoint : (ArgType.declared TypeName.point).Lawful types :=
    ⟨fun _ h => Option.some.inj h ▸ point_lawful, nofun⟩
  have hgrid : (ArgType.declared TypeName.grid).Lawful types :=
    ⟨nofun, fun _ _ h => Option.some.inj h ▸ grid_lawful⟩
  simp only [load, List.forall_mem_cons]
  exact ⟨hpoint, hgrid, trivial, List.forall_mem_nil _⟩

end Sample

open Sample in
/-- The first call crosses; the second does not, since only the empty grid has a byte form. -/
theorem World.callRemote_open_ferry :
    (∃ bytes, (quay.callRemote ferryman 2 load (freight .empty)).1.channels =
        [⟨[.frame bytes], 1, true⟩] ∧
      ferrySlots.Delivers bytes ⟨"load", ⟨load.types, freight .empty⟩⟩) ∧
    (quay.callRemote ferryman 2 load (freight (.ofList [(⟨0, 0⟩, 1)]))).1.channels =
      [⟨[], 1, true⟩] := by
  have hslots : ferry.slot? = some ferrySlots := rfl
  have hmethod : numbered? ferrySlots.methods 2 = some load := rfl
  have hnames : (load.params.map SlotParam.name).Nodup := by decide
  have hlink : ferryman.link = .channel 0 := rfl
  have hchannel : quay.channels[0]? = some ⟨[], 1, true⟩ := rfl
  constructor
  · have hsized : ∀ b, marshal load.params (freight .empty) .empty = .ok b → b.Sized := by
      intro b hb
      cases hb
      decide
    have hwritable : ¬ load.Fails (freight .empty) := by
      rintro ((h | ⟨-, inst, hinst, reason, hreason⟩ | h | h) | ⟨b, hb, hdeep⟩)
      · exact h
      · cases hinst
        cases hreason
      · exact h
      · exact h
      · cases hb
        exact absurd hdeep (by decide)
    obtain ⟨bytes, hchannels, -, hdelivers⟩ :=
      (callRemote_open hslots hmethod hnames load_lawful hsized hlink hchannel rfl).1 hwritable
    exact ⟨bytes, hchannels, hdelivers⟩
  · have hsized : ∀ b, marshal load.params (freight (.ofList [(⟨0, 0⟩, 1)])) .empty = .ok b →
        b.Sized := nofun
    have hfails : load.Fails (freight (.ofList [(⟨0, 0⟩, 1)])) :=
      .inl (.inr (.inl ⟨rfl, _, rfl, _, rfl⟩))
    exact ((callRemote_open hslots hmethod hnames load_lawful hsized hlink hchannel rfl).2
      hfails).1

end Relay
