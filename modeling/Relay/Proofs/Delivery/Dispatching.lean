import Relay.Proofs.Delivery.Draining
import Relay.Proofs.Wire.RoundTrip
import Relay.Sample.Interfaces

/-!
# Dispatching bytes

What the dispatcher of a cross-process interface makes of a byte sequence, whatever the sequence is.
`SlotInterface.Answers` gives the condition of every outcome, of the call and of the events.  The
conditions exclude each other, and `deliver_cases` is the proof that there is no case beside them:
the bytes are no frame, the receiver is gone, no method has the id, a parameter cannot be read, or
all parameters can.
-/

namespace Relay

variable {U : Universe}

/-! ## Numbered methods -/

theorem numbered?_eq_none_iff {α : Type} {xs : List α} {id : UInt32} :
    numbered? xs id = none ↔ ¬ (1 ≤ id.toNat ∧ id.toNat ≤ xs.length) := by
  unfold numbered?
  split
  · next hzero => simp [hzero]
  · next n hsucc =>
    rw [hsucc, List.getElem?_eq_none_iff]
    omega

theorem range_of_numbered? {α : Type} {xs : List α} {id : UInt32} {x : α}
    (h : numbered? xs id = some x) : 1 ≤ id.toNat ∧ id.toNat ≤ xs.length := by
  by_contra hrange
  simp [numbered?_eq_none_iff.2 hrange] at h

/-! ## Parameters in a bundle -/

/-- The entries under the names of the parameters are read as the arguments, in order. -/
def Bundle.Reads (b : Bundle) :
    (params : List (SlotParam U)) → Tuple U (params.map SlotParam.type) → Prop
  | [], _ => True
  | p :: rest, args => b.fetch p.slot p.name = .ok args.1 ∧ b.Reads rest args.2

/-- Some parameter cannot be read, and the first such parameter is refused with the error. -/
def Bundle.Refuses (b : Bundle) (params : List (SlotParam U)) (error : BundleError) : Prop :=
  ∃ before p after, params = before ++ p :: after ∧
    (∀ q ∈ before, ∃ v, b.fetch q.slot q.name = .ok v) ∧ b.fetch p.slot p.name = .error error

section Parameters

variable {b b' : Bundle} {params : List (SlotParam U)}

theorem unmarshal_cons {p : SlotParam U} :
    unmarshal (p :: params) b = (b.fetch p.slot p.name).bind fun value =>
      (unmarshal params b).map (Prod.mk value) := by
  rw [unmarshal]
  cases b.fetch p.slot p.name with
  | error error => rfl
  | ok value => cases unmarshal params b <;> rfl

theorem unmarshal_eq_ok {args : Tuple U (params.map SlotParam.type)} :
    unmarshal params b = .ok args ↔ b.Reads params args := by
  induction params with
  | nil => exact ⟨fun _ => trivial, fun _ => rfl⟩
  | cons p rest ih =>
    obtain ⟨value, values⟩ := args
    rw [unmarshal_cons, Bundle.Reads, ← ih]
    cases b.fetch p.slot p.name with
    | error error => simp [Except.bind]
    | ok value' =>
      cases unmarshal rest b with
      | error error => simp [Except.bind, Except.map]
      | ok values' => simp [Except.bind, Except.map]

theorem refuses_cons {p : SlotParam U} {error : BundleError} :
    b.Refuses (p :: params) error ↔ b.fetch p.slot p.name = .error error ∨
      (∃ v, b.fetch p.slot p.name = .ok v) ∧ b.Refuses params error := by
  constructor
  · rintro ⟨before, q, after, hsplit, hbefore, hq⟩
    cases before with
    | nil =>
      obtain ⟨rfl, rfl⟩ := List.cons.inj hsplit
      exact .inl hq
    | cons p' before =>
      obtain ⟨rfl, rfl⟩ := List.cons.inj hsplit
      rw [List.forall_mem_cons] at hbefore
      exact .inr ⟨hbefore.1, before, q, after, rfl, hbefore.2, hq⟩
  · rintro (hp | ⟨hp, before, q, after, rfl, hbefore, hq⟩)
    · exact ⟨[], p, params, rfl, List.forall_mem_nil _, hp⟩
    · exact ⟨p :: before, q, after, rfl, List.forall_mem_cons.2 ⟨hp, hbefore⟩, hq⟩

theorem unmarshal_eq_error {error : BundleError} :
    unmarshal params b = .error error ↔ b.Refuses params error := by
  induction params with
  | nil => simp [unmarshal, Bundle.Refuses]
  | cons p rest ih =>
    rw [unmarshal_cons, refuses_cons, ← ih]
    cases b.fetch p.slot p.name with
    | error error' => simp [Except.bind]
    | ok value => cases unmarshal rest b <;> simp [Except.bind, Except.map]

theorem unmarshal_congr (h : ∀ p ∈ params, b.find? p.name = b'.find? p.name) :
    unmarshal params b = unmarshal params b' := by
  induction params with
  | nil => rfl
  | cons p rest ih =>
    rw [List.forall_mem_cons] at h
    have hfetch : b.fetch p.slot p.name = b'.fetch p.slot p.name := by
      simp only [Bundle.fetch, Bundle.lookup, h.1]
    rw [unmarshal_cons, unmarshal_cons, hfetch, ih h.2]

end Parameters

/-! ## The cases of a delivery -/

/-- The entries that a frame brings; none when it brings no data. -/
def Frame.payload (f : Frame) : Bundle := f.data.getD .empty

theorem Envelope.payload_ofFrame (f : Frame) : (ofFrame f : Envelope U).payload = f.payload := by
  rw [payload, data?_ofFrame, Frame.payload]

namespace SlotMethod

variable {m : SlotMethod U} {interface : String} {e e' : Envelope U}

theorem receive_of_reads {args : Tuple U m.types} (h : e.payload.Reads m.params args) :
    m.receive interface e = .deliver m.name ⟨m.types, args⟩ := by
  obtain ⟨name, params⟩ := m
  cases params with
  | nil => rfl
  | cons p rest =>
    rw [receive, if_neg (by simp), unmarshal_eq_ok.2 h]

theorem receive_of_refuses {error : BundleError} (h : e.payload.Refuses m.params error) :
    m.receive interface e = .malformed interface e.what error := by
  have hne : m.params ≠ [] := by
    obtain ⟨before, p, after, hsplit, -, -⟩ := h
    simp [hsplit]
  rw [receive, if_neg (mt List.isEmpty_iff.1 hne), unmarshal_eq_error.2 h]

theorem receive_congr (hwhat : e.what = e'.what)
    (h : ∀ p ∈ m.params, e.payload.find? p.name = e'.payload.find? p.name) :
    m.receive interface e = m.receive interface e' := by
  rw [receive, receive, unmarshal_congr h, hwhat]

end SlotMethod

namespace SlotInterface

variable {s : SlotInterface U} {live : Bool} {bytes bytes' : List UInt8}

theorem deliver_cases (s : SlotInterface U) (live : Bool) (bytes : List UInt8) :
    (∃ error, Frame.decode bytes = .error error ∧
      (Surface.across s).deliver live bytes = .undecodable error) ∨
    ∃ f, Frame.decode bytes = .ok f ∧
      (live = false ∧ (Surface.across s).deliver live bytes = .disposed s.name f.what ∨
      live = true ∧
        (numbered? s.methods f.what = none ∧
            (Surface.across s).deliver live bytes = .unknown s.name f.what ∨
          ∃ m, numbered? s.methods f.what = some m ∧
            ((∃ error, f.payload.Refuses m.params error ∧
                (Surface.across s).deliver live bytes = .malformed s.name f.what error) ∨
              ∃ args, f.payload.Reads m.params args ∧
                (Surface.across s).deliver live bytes = .deliver m.name ⟨m.types, args⟩))) := by
  cases hdecode : Frame.decode bytes with
  | error error =>
    left
    exact ⟨error, rfl, by rw [Surface.deliver, hdecode]⟩
  | ok f =>
    right
    have hdeliver : (Surface.across s).deliver live bytes =
        (Surface.across s).dispatch live (.ofFrame f) := by
      rw [Surface.deliver, hdecode]
    refine ⟨f, rfl, ?_⟩
    rw [hdeliver]
    cases live with
    | false =>
      left
      exact ⟨rfl, by simp [Surface.dispatch, Surface.name]⟩
    | true =>
      right
      refine ⟨rfl, ?_⟩
      simp only [Surface.dispatch, if_true, Surface.receive, Envelope.ofFrame_what]
      cases hmethod : numbered? s.methods f.what with
      | none => exact .inl ⟨rfl, rfl⟩
      | some m =>
        right
        refine ⟨m, rfl, ?_⟩
        rw [← Envelope.payload_ofFrame (U := U) f]
        cases hargs : unmarshal m.params (Envelope.ofFrame f : Envelope U).payload with
        | error error =>
          left
          have hrefuses := unmarshal_eq_error.1 hargs
          refine ⟨error, hrefuses, ?_⟩
          rw [← Envelope.ofFrame_what (U := U) f]
          exact SlotMethod.receive_of_refuses hrefuses
        | ok args =>
          right
          have hreads := unmarshal_eq_ok.1 hargs
          exact ⟨args, hreads, SlotMethod.receive_of_reads hreads⟩

/-- What the bytes spell is answered alike when the entries under the names of the parameters are
the same; others do not matter. -/
theorem deliver_congr {f f' : Frame} (hf : Frame.decode bytes = .ok f)
    (hf' : Frame.decode bytes' = .ok f') (hwhat : f.what = f'.what)
    (h : ∀ m, numbered? s.methods f.what = some m →
      ∀ p ∈ m.params, f.payload.find? p.name = f'.payload.find? p.name) :
    (Surface.across s).deliver live bytes = (Surface.across s).deliver live bytes' := by
  simp only [Surface.deliver, hf, hf', Surface.dispatch, Envelope.ofFrame_what, hwhat,
    Surface.receive]
  split
  · cases hmethod : numbered? s.methods f'.what with
    | none => rfl
    | some m =>
      apply SlotMethod.receive_congr
      · rw [Envelope.ofFrame_what, Envelope.ofFrame_what, hwhat]
      · simp only [Envelope.payload_ofFrame]
        exact h m (hwhat ▸ hmethod)
  · rfl

end SlotInterface

/-! ## Conditions of the answers -/

def Discard.level : Discard → String
  | receiverDisposed => "TRACE"
  | unknownMethod _ => "DEBUG"
  | malformed _ _ => "WARN"
  | undecodable _ => "WARN"

def Event.AtLevel (e : Event) (level : String) : Prop := ∃ message, e.line = level ++ " " ++ message

/-- The answer to bytes: the conditions of every outcome, of the call and of the events. -/
structure SlotInterface.Answers (s : SlotInterface U) (live : Bool) (bytes : List UInt8)
    (h : Handling U) : Prop where
  undecodable : ∀ error,
    h.outcome = .discarded (.undecodable error) ↔ Frame.decode bytes = .error error
  disposed : h.outcome = .discarded .receiverDisposed ↔
    live = false ∧ ∃ f, Frame.decode bytes = .ok f
  unknown : ∀ what, h.outcome = .discarded (.unknownMethod what) ↔
    live = true ∧ ∃ f, Frame.decode bytes = .ok f ∧ f.what = what ∧
      ¬ (1 ≤ f.what.toNat ∧ f.what.toNat ≤ s.methods.length)
  malformed : ∀ what error, h.outcome = .discarded (.malformed what error) ↔
    live = true ∧ ∃ f m, Frame.decode bytes = .ok f ∧ f.what = what ∧
      numbered? s.methods f.what = some m ∧ f.payload.Refuses m.params error
  delivered : h.outcome = .delivered ↔ h.call.isSome
  call : ∀ call, h.call = some call ↔
    live = true ∧ ∃ f m args, Frame.decode bytes = .ok f ∧
      numbered? s.methods f.what = some m ∧ f.payload.Reads m.params args ∧
        call = ⟨m.name, ⟨m.types, args⟩⟩
  events : match h.outcome with
    | .delivered => h.events = []
    | .discarded why => ∃ event, h.events = [event] ∧ event.AtLevel why.level

namespace Event

variable {interface : String} {what : UInt32}

theorem atLevel_of_line {e : Event} {level first rest : String} (message : String)
    (hline : e.line = first ++ rest) (hfirst : first = level ++ " " ++ message) :
    e.AtLevel level :=
  ⟨message ++ rest, by rw [hline, hfirst, String.append_assoc]⟩

theorem atLevel_disposed : (disposed interface what).AtLevel "TRACE" :=
  atLevel_of_line "receiver disposed, envelope dropped" rfl (by decide)

theorem atLevel_unknown : (unknown interface what).AtLevel "DEBUG" :=
  atLevel_of_line "no method for envelope id" rfl (by decide)

theorem atLevel_malformed {error : BundleError} :
    (malformed interface what error).AtLevel "WARN" := by
  have hline : (malformed interface what error).line =
      "WARN could not read envelope arguments" ++
        (addressed interface what ++ " error=" ++ error.message) := by
    change _ ++ addressed interface what ++ " error=" ++ error.message = _
    simp only [String.append_assoc]
  exact atLevel_of_line "could not read envelope arguments" hline (by decide)

theorem atLevel_undecodable {error : WireError} : (undecodable error).AtLevel "WARN" :=
  atLevel_of_line "dropping undecodable frame error=" rfl (by decide)

end Event

namespace SlotInterface

variable {s : SlotInterface U} {live : Bool} {bytes : List UInt8} {f : Frame}

theorem answers_undecodable {error : WireError} (h : Frame.decode bytes = .error error) :
    s.Answers live bytes (.undecodable error) := by
  constructor
  case events => exact ⟨_, rfl, Event.atLevel_undecodable⟩
  all_goals simp [Handling.undecodable, h]

theorem answers_disposed (h : Frame.decode bytes = .ok f) :
    s.Answers false bytes (.disposed s.name f.what) := by
  constructor
  case events => exact ⟨_, rfl, Event.atLevel_disposed⟩
  all_goals simp [Handling.disposed, h]

theorem answers_unknown (h : Frame.decode bytes = .ok f)
    (hmethod : numbered? s.methods f.what = none) :
    s.Answers true bytes (.unknown s.name f.what) := by
  have hrange := numbered?_eq_none_iff.1 hmethod
  constructor
  case events => exact ⟨_, rfl, Event.atLevel_unknown⟩
  case unknown => simpa [Handling.unknown, h] using hrange
  all_goals simp [Handling.unknown, h, hmethod]

section Numbered

variable {m : SlotMethod U} (h : Frame.decode bytes = .ok f)
  (hmethod : numbered? s.methods f.what = some m)

include h hmethod

theorem answers_malformed {error : BundleError} (hrefuses : f.payload.Refuses m.params error) :
    s.Answers true bytes (.malformed s.name f.what error) := by
  have hrange := range_of_numbered? hmethod
  have hargs := unmarshal_eq_error.2 hrefuses
  constructor
  case events => exact ⟨_, rfl, Event.atLevel_malformed⟩
  all_goals
    simp [Handling.malformed, h, hmethod, hrange, ← unmarshal_eq_ok, ← unmarshal_eq_error, hargs]

theorem answers_delivered {args : Tuple U m.types} (hreads : f.payload.Reads m.params args) :
    s.Answers true bytes (.deliver m.name ⟨m.types, args⟩) := by
  have hrange := range_of_numbered? hmethod
  have hargs := unmarshal_eq_ok.2 hreads
  constructor
  case events => rfl
  case call =>
    intro call
    constructor
    · intro hcall
      exact ⟨rfl, f, m, args, h, hmethod, hreads, (Option.some.inj hcall).symm⟩
    · rintro ⟨-, f', m', args', hf', hmethod', hreads', rfl⟩
      obtain rfl := Except.ok.inj (h.symm.trans hf')
      obtain rfl := Option.some.inj (hmethod.symm.trans hmethod')
      have hsame : args = args' := Except.ok.inj (hargs.symm.trans (unmarshal_eq_ok.2 hreads'))
      rw [hsame]
      rfl
  all_goals simp [Handling.deliver, h, hmethod, hrange, ← unmarshal_eq_error, hargs]

end Numbered

theorem answers_deliver (s : SlotInterface U) (live : Bool) (bytes : List UInt8) :
    s.Answers live bytes ((Surface.across s).deliver live bytes) := by
  rcases s.deliver_cases live bytes with ⟨error, hdecode, h⟩ | ⟨f, hdecode, ⟨rfl, h⟩ | ⟨rfl,
    ⟨hmethod, h⟩ | ⟨m, hmethod, ⟨error, hrefuses, h⟩ | ⟨args, hreads, h⟩⟩⟩⟩
  · exact h ▸ answers_undecodable hdecode
  · exact h ▸ answers_disposed hdecode
  · exact h ▸ answers_unknown hdecode hmethod
  · exact h ▸ answers_malformed hdecode hmethod hrefuses
  · exact h ▸ answers_delivered hdecode hmethod hreads

end SlotInterface

/-! ## At the receiver -/

/-- Any bytes are answered under the conditions of `Answers`, and the receiver gets the call of the
answer and no other.  Bytes with the same method id and the same entries under the names of its
parameters are answered alike wherever the receiver is as live. -/
theorem World.handle_bytes (w : World U) (s : SlotInterface U) (hold : Hold)
    (bytes : List UInt8) :
    ∃ h : Handling U, s.Answers (w.resolves hold) bytes h ∧
      w.handle ⟨.across s, hold⟩ (.frame bytes) = (w.handled hold.receiver [h], h.outcome) ∧
      ∀ (w' : World U) (hold' : Hold) (bytes' : List UInt8) (f f' : Frame),
        w'.resolves hold' = w.resolves hold → Frame.decode bytes = .ok f →
        Frame.decode bytes' = .ok f' → f.what = f'.what →
        (∀ m, numbered? s.methods f.what = some m →
          ∀ p ∈ m.params, f.payload.find? p.name = f'.payload.find? p.name) →
        w'.handle ⟨.across s, hold'⟩ (.frame bytes') =
          (w'.handled hold'.receiver [h], h.outcome) := by
  refine ⟨(Surface.across s).deliver (w.resolves hold) bytes, s.answers_deliver _ _,
    handle_eq w _ _, ?_⟩
  intro w' hold' bytes' f f' hlive hf hf' hwhat hentries
  rw [handle_eq]
  simp only [Surface.handle]
  rw [hlive, SlotInterface.deliver_congr hf hf' hwhat hentries]

namespace Sample

/-- A method with one parameter. -/
def desk : SlotInterface types := ⟨"Desk", [⟨"greet", [⟨"name", .text, Slot.text⟩]⟩]⟩

def lobby : World types := { World.empty with receivers := [⟨1, []⟩] }

def greeting : Frame := ⟨1, some ⟨[("name", .text "Ada")]⟩⟩

/-- A greeting with an entry under a name that is no parameter. -/
def longGreeting : Frame := ⟨1, some ⟨[("mood", .scalar .bool true), ("name", .text "Ada")]⟩⟩

end Sample

open Sample in
/-- The entry more changes nothing. -/
theorem World.handle_bytes_greeting :
    ∃ bytes bytes', greeting.encode = .ok bytes ∧ longGreeting.encode = .ok bytes' ∧
      (lobby.handle ⟨.across desk, ⟨0, true⟩⟩ (.frame bytes)).2 = .delivered ∧
      lobby.handle ⟨.across desk, ⟨0, true⟩⟩ (.frame bytes') =
        lobby.handle ⟨.across desk, ⟨0, true⟩⟩ (.frame bytes) := by
  obtain ⟨bytes, hbytes⟩ : ∃ bytes, greeting.encode = .ok bytes := ⟨_, rfl⟩
  obtain ⟨bytes', hbytes'⟩ : ∃ bytes', longGreeting.encode = .ok bytes' := ⟨_, rfl⟩
  have hdecode : Frame.decode bytes = .ok greeting := Frame.decode_eq_ok.2 ⟨_, hbytes, rfl⟩
  have hdecode' : Frame.decode bytes' = .ok longGreeting :=
    Frame.decode_eq_ok.2 ⟨_, hbytes', rfl⟩
  obtain ⟨h, hanswers, hhandle, hsame⟩ := lobby.handle_bytes desk ⟨0, true⟩ bytes
  have hcall : h.call.isSome := by
    rw [(hanswers.call ⟨"greet", ⟨[.text], ("Ada", ())⟩⟩).2
      ⟨rfl, greeting, _, ("Ada", ()), hdecode, rfl, ⟨rfl, trivial⟩, rfl⟩]
    rfl
  refine ⟨bytes, bytes', hbytes, hbytes', ?_, ?_⟩
  · rw [hhandle]
    exact hanswers.delivered.2 hcall
  · rw [hhandle]
    apply hsame lobby ⟨0, true⟩ bytes' greeting longGreeting rfl hdecode hdecode' rfl
    intro m hm p hp
    obtain rfl := Option.some.inj hm
    obtain rfl := List.mem_singleton.1 hp
    rfl

end Relay
