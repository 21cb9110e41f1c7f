import Relay.Proofs.Delivery.Accounting
import Relay.Proofs.Delivery.Prospects
import Relay.Proofs.Delivery.RemoteCall

/-!
# The two flavors agree

The same calls, made once through a proxy of this process and once through a cross-process proxy,
reach the two receivers alike, except for those that the cross-process proxy has counted as failed.
These are the calls that cannot cross.

Between two requests the receivers may be at different points, since the mailboxes are pumped at
different times.  So the induction on the requests does not compare what the receivers have got but
what they will have got (`World.prospect`), to which a call adds itself at once and which a pump
leaves alone.  Only the last two pumps turn it into what was got.
-/

namespace Relay

variable {U : Universe}

/-! ## Numbers of methods -/

section Numbers

variable {α β : Type} {test : α → Bool} {first id : UInt32} {x : α} {xs : List α} {ys : List β}

theorem numberOf?_eq_some (h : numberOf? test first xs = some (id, x))
    (hlength : first.toNat + xs.length ≤ 4294967296) :
    test x ∧ first.toNat ≤ id.toNat ∧ xs[id.toNat - first.toNat]? = some x := by
  induction xs generalizing first with
  | nil => cases h
  | cons y rest ih =>
    rw [numberOf?] at h
    split at h
    · next hy =>
      cases h
      simp [hy]
    · rw [List.length_cons] at hlength
      have hrest : rest ≠ [] := by
        rintro rfl
        cases h
      have hpos := List.length_pos_of_ne_nil hrest
      -- Some method is still to come, so counting on does not wrap.
      have hnext : (first + 1).toNat = first.toNat + 1 := by
        rw [UInt32.toNat_add]
        exact Nat.mod_eq_of_lt (by simp; omega)
      obtain ⟨hx, hle, hget⟩ := ih h (by omega)
      rw [hnext] at hle hget
      refine ⟨hx, by omega, ?_⟩
      rwa [show id.toNat - first.toNat = id.toNat - (first.toNat + 1) + 1 by omega,
        List.getElem?_cons_succ]

/-- The number that is found for a method is the one that finds it. -/
theorem numbered?_of_numberOf? (h : numberOf? test 1 xs = some (id, x))
    (hlength : xs.length < 4294967296) : test x ∧ numbered? xs id = some x := by
  have hone : (1 : UInt32).toNat = 1 := rfl
  obtain ⟨hx, hle, hget⟩ := numberOf?_eq_some h (by omega)
  refine ⟨hx, ?_⟩
  rw [hone] at hle hget
  unfold numbered?
  split
  · omega
  · next n hn => rwa [hn] at hget

theorem numberOf?_of_forall₂ {R : α → β → Prop} {test' : β → Bool} (h : List.Forall₂ R xs ys)
    (htest : ∀ x y, R x y → test' y = test x) (hx : numberOf? test first xs = some (id, x)) :
    ∃ y, R x y ∧ numberOf? test' first ys = some (id, y) := by
  induction h generalizing first with
  | nil => cases hx
  | @cons x' y' xs ys hR hrest ih =>
    rw [numberOf?] at hx ⊢
    rw [htest x' y' hR]
    split at hx
    · next hx' =>
      cases hx
      exact ⟨y', hR, by rw [if_pos hx']⟩
    · next hx' =>
      rw [if_neg hx']
      exact ih hx

end Numbers

theorem Method.types_of_slot? {m : Method U} {m' : SlotMethod U} (h : m.slot? = some m') :
    m'.name = m.name ∧ m.types = m'.types := by
  obtain ⟨params, hparams, rfl⟩ := Option.map_eq_some_iff.1 h
  refine ⟨rfl, ?_⟩
  rw [Method.types, SlotMethod.types, ← List.forall₂_eq_eq_eq, List.forall₂_map_left_iff,
    List.forall₂_map_right_iff]
  refine (forall₂_of_mapM hparams).imp fun p q hq => ?_
  obtain ⟨slot, -, rfl⟩ := Option.map_eq_some_iff.1 hq
  rfl

/-! ## Calls of an interface -/

/-- The call is of a method of the interface, with arguments of its types. -/
def Interface.Fits (i : Interface U) (call : Call U) : Prop :=
  ∃ id m args, numberOf? (fun m' => m'.name == m.name) 1 i.methods = some (id, m) ∧
    call = ⟨m.name, ⟨m.types, args⟩⟩

/-- The same for an interface with slots. -/
def SlotInterface.Fits (s : SlotInterface U) (call : Call U) : Prop :=
  ∃ id m args, numberOf? (fun m' => m'.name == m.name) 1 s.methods = some (id, m) ∧
    call = ⟨m.name, ⟨m.types, args⟩⟩

/-- The arguments can be serialized, in lengths that the format has room for, and their records nest
no deeper than it allows. -/
def SlotMethod.Portable (m : SlotMethod U) (args : Tuple U m.types) : Prop :=
  ∃ b, marshal m.params args .empty = .ok b ∧ b.Sized ∧ b.nesting ≤ maxNesting

/-- The call is of a method of the interface, with arguments that can cross. -/
def SlotInterface.Portable (s : SlotInterface U) (call : Call U) : Prop :=
  ∃ id m args, numberOf? (fun m' => m'.name == m.name) 1 s.methods = some (id, m) ∧
    call = ⟨m.name, ⟨m.types, args⟩⟩ ∧ m.Portable args

section Slots

variable {i : Interface U} {s : SlotInterface U} (hslots : i.slot? = some s)

include hslots

theorem Interface.length_of_slot? : s.methods.length = i.methods.length := by
  obtain ⟨methods, hmethods, rfl⟩ := Option.map_eq_some_iff.1 hslots
  exact (forall₂_of_mapM hmethods).length_eq.symm

theorem Interface.Fits.slots {call : Call U} (h : i.Fits call) : s.Fits call := by
  obtain ⟨id, m, args, hm, rfl⟩ := h
  obtain ⟨methods, hmethods, rfl⟩ := Option.map_eq_some_iff.1 hslots
  have htest : ∀ (x : Method U) (y : SlotMethod U), x.slot? = some y →
      (y.name == m.name) = (x.name == m.name) := fun x y hy => by
    rw [(Method.types_of_slot? hy).1]
  obtain ⟨m', hm', hnumber⟩ := numberOf?_of_forall₂ (forall₂_of_mapM hmethods) htest hm
  obtain ⟨hname, htypes⟩ := Method.types_of_slot? hm'
  have hcast : ∀ {types : List (ArgType U.Name)}, m.types = types →
      ∃ args' : Tuple U types,
        (⟨m.name, ⟨m.types, args⟩⟩ : Call U) = ⟨m.name, ⟨types, args'⟩⟩ := by
    rintro _ rfl
    exact ⟨args, rfl⟩
  obtain ⟨args', hcall⟩ := hcast htypes
  exact ⟨id, m', args', hname ▸ hnumber, hname ▸ hcall⟩

end Slots

theorem SlotMethod.attempt_eq_ok {m : SlotMethod U} {args : Tuple U m.types} {id : UInt32}
    {bytes : List UInt8} (h : (m.attempt id args).bytes = .ok bytes) :
    ∃ e : Envelope U, m.remoteEnvelope id args = .ok e ∧ e.encode = .ok bytes := by
  unfold SlotMethod.attempt at h
  cases henvelope : m.remoteEnvelope id args with
  | error error =>
    rw [henvelope] at h
    cases h
  | ok e =>
    rw [henvelope] at h
    refine ⟨e, rfl, ?_⟩
    cases hencode : e.encode <;> simp_all [Envelope.attempt, Except.mapError]

theorem SlotMethod.portable_of_nil {m : SlotMethod U} (h : m.params = [])
    (args : Tuple U m.types) : m.Portable args := by
  obtain ⟨name, params⟩ := m
  subst h
  exact ⟨.empty, rfl, by decide, by decide⟩

/-- A call has bytes to send exactly when its arguments can cross. -/
theorem SlotMethod.attempt_ok_iff {m : SlotMethod U} {args : Tuple U m.types} (id : UInt32) :
    (∃ bytes, (m.attempt id args).bytes = .ok bytes) ↔ m.Portable args := by
  constructor
  · rintro ⟨bytes, h⟩
    obtain ⟨e, henvelope, hencode⟩ := attempt_eq_ok h
    have hfits : ∃ f, e.frame? = some f ∧ f.Fits := by
      rw [← Envelope.attempt_ok_iff]
      exact ⟨bytes, by rw [Envelope.attempt, hencode]; rfl⟩
    obtain ⟨f, hf, hfits⟩ := hfits
    rcases remoteEnvelope_eq_ok.1 henvelope with ⟨hnil, -⟩ | ⟨-, b, hmarshal, rfl⟩
    · exact portable_of_nil hnil args
    · cases hf
      exact ⟨b, hmarshal, hfits b rfl⟩
  · rintro ⟨b, hmarshal, hfits⟩
    obtain ⟨e, henvelope, f, hf, hfits⟩ : ∃ e : Envelope U, m.remoteEnvelope id args = .ok e ∧
        ∃ f, e.frame? = some f ∧ f.Fits := by
      by_cases hnil : m.params = []
      · refine ⟨.bare id, remoteEnvelope_eq_ok.2 (.inl ⟨hnil, rfl⟩), ⟨id, none⟩, rfl, ?_⟩
        rintro _ ⟨⟩
      · refine ⟨.withData id b, remoteEnvelope_eq_ok.2 (.inr ⟨hnil, b, hmarshal, rfl⟩),
          ⟨id, some b⟩, rfl, ?_⟩
        rintro _ ⟨⟩
        exact hfits
    rw [attempt, henvelope]
    exact Envelope.attempt_ok_iff.2 ⟨f, hf, hfits⟩

theorem Method.handle_localEnvelope {i : Interface U} {m : Method U} {id : UInt32}
    (args : Tuple U m.types) (hm : numbered? i.methods id = some m) :
    (Surface.within i).handle true (.envelope (m.localEnvelope id args)) =
      .deliver m.name ⟨m.types, args⟩ := by
  obtain ⟨name, params⟩ := m
  simp only [Surface.handle, Surface.dispatch, if_true, Surface.receive, what_localEnvelope, hm]
  cases params with
  | nil => rfl
  | cons p rest => simp [receive, localEnvelope, Envelope.args?, Envelope.withArgs]

/-! ## The two proxies -/

namespace World

variable {w v : World U} {i : Interface U} {s : SlotInterface U} {name box : String}
  {m : Mailbox U} {sender : RemoteSender}

/-- The names stand for a proxy of this process and its mailbox, and the receiver is there. -/
structure Attached (w : World U) (i : Interface U) (name box : String) (m : Mailbox U) : Prop
    extends w.Serves box m where
  proxy : w.find? name = some (.handler i m.channel)
  surface : m.dispatcher.surface = .within i

/-- The names stand for a cross-process proxy and its mailbox, and the receiver is there. -/
structure Hosted (w : World U) (s : SlotInterface U) (name box : String) (m : Mailbox U)
    (sender : RemoteSender) : Prop extends w.Serves box m where
  proxy : w.find? name = some (.messenger s sender)
  link : sender.link = .channel m.channel
  surface : m.dispatcher.surface = .across s

theorem Attached.post (h : w.Attached i name box m) (c : Nat) (item : Item U) :
    (w.post c item).1.Attached i name box m :=
  ⟨h.toServes.post c item, by rw [find?_post, h.proxy], h.surface⟩

theorem Attached.pump (h : w.Attached i name box m) (m' : Mailbox U) :
    (w.pump m').1.Attached i name box m := by
  refine ⟨h.toServes.pump m', ?_, h.surface⟩
  rw [find?, things_pump]
  exact h.proxy

theorem Attached.note (h : w.Attached i name box m) (e : Event) :
    (w.note e).Attached i name box m :=
  ⟨h.toServes.note e, h.proxy, h.surface⟩

theorem Attached.update {other : String} {old t : Thing U} (h : w.Attached i name box m)
    (hother : w.find? other = some old) (hproxy : ∀ j c, old ≠ .handler j c)
    (hbox : ∀ m', old ≠ .mailbox m') : (w.update other t).Attached i name box m := by
  refine ⟨h.toServes.update ?_ t, ?_, h.surface⟩
  · rintro rfl
    exact hbox m (Option.some.inj (hother.symm.trans h.named))
  · rw [find?_update, if_neg, h.proxy]
    rintro rfl
    exact hproxy i m.channel (Option.some.inj (hother.symm.trans h.proxy))

theorem Hosted.post (h : w.Hosted s name box m sender) (c : Nat) (item : Item U) :
    (w.post c item).1.Hosted s name box m sender :=
  ⟨h.toServes.post c item, by rw [find?_post, h.proxy], h.link, h.surface⟩

theorem Hosted.pump (h : w.Hosted s name box m sender) (m' : Mailbox U) :
    (w.pump m').1.Hosted s name box m sender := by
  refine ⟨h.toServes.pump m', ?_, h.link, h.surface⟩
  rw [find?, things_pump]
  exact h.proxy

theorem Hosted.update {sender' : RemoteSender} (h : w.Hosted s name box m sender)
    (hlink : sender'.link = sender.link) :
    (w.update name (.messenger s sender')).Hosted s name box m sender' := by
  refine ⟨h.toServes.update ?_ _, ?_, hlink.trans h.link, h.surface⟩
  · rintro rfl
    cases h.named.symm.trans h.proxy
  · rw [find?_update, if_pos rfl]

/-- A call through a proxy of this process is posted. -/
theorem Attached.callThrough {id : UInt32} {method : Method U} {args : Tuple U method.types}
    (h : w.Attached i name box m)
    (hm : numberOf? (fun m' => m'.name == method.name) 1 i.methods = some (id, method)) :
    w.callThrough name method.name ⟨method.types, args⟩ =
      some (w.post m.channel (.envelope (method.localEnvelope id args))).1 := by
  obtain ⟨items, hitems⟩ := Option.isSome_iff_exists.1 h.isOpen
  simp only [World.callThrough, h.proxy, Option.bind_eq_bind, Option.bind_some, hm, sendLocal,
    post_of_some _ hitems]
  rfl

theorem Hosted.callThrough {id : UInt32} {method : SlotMethod U} {args : Tuple U method.types}
    (h : w.Hosted s name box m sender)
    (hm : numberOf? (fun m' => m'.name == method.name) 1 s.methods = some (id, method)) :
    w.callThrough name method.name ⟨method.types, args⟩ =
      some ((w.callRemote sender id method args).1.update name
        (.messenger s (w.callRemote sender id method args).2)) := by
  simp only [World.callThrough, h.proxy, Option.bind_eq_bind, Option.bind_some, hm]
  rfl

end World

/-! ## One request -/

/-- The call that a request makes through a name. -/
def Request.called? (name : String) : Request U → Option (Call U)
  | .call proxy method args => if proxy = name then some ⟨method, args⟩ else none
  | _ => none

/-- The request is a call of the interface through one of two proxies, or a pump of one of their
mailboxes. -/
inductive Request.Exercises (i : Interface U) (near nearBox far farBox : String) :
    Request U → Prop
  | near {call : Call U} (h : i.Fits call) :
    Exercises i near nearBox far farBox (.call near call.method call.args)
  | far {call : Call U} (h : i.Fits call) :
    Exercises i near nearBox far farBox (.call far call.method call.args)
  | pumpNear : Exercises i near nearBox far farBox (.pump nearBox)
  | pumpFar : Exercises i near nearBox far farBox (.pump farBox)

/-- The arguments of every method are read back as they were written. -/
structure SlotInterface.Exact (s : SlotInterface U) : Prop where
  count : s.methods.length < 4294967296
  names : ∀ m ∈ s.methods, (m.params.map SlotParam.name).Nodup
  faithful : ∀ m ∈ s.methods, ∀ p ∈ m.params, p.slot.Faithful (p.type.Unwritable U)

namespace World

variable {w v : World U} {i : Interface U} {s : SlotInterface U} {m m' : Mailbox U}
  {near nearBox far farBox : String} {sender : RemoteSender}

/-- A call through a cross-process proxy is posted when it can cross, and the receiver will get it.
Otherwise it is counted. -/
theorem Hosted.call {call : Call U} (hs : s.Exact) (h : w.Hosted s far farBox m' sender)
    (hfits : s.Fits call) :
    (∃ item, w.callThrough far call.method call.args =
        some ((w.post m'.channel item).1.update far (.messenger s sender)) ∧
      (m'.dispatcher.surface.handle true item).call = some call ∧ s.Portable call) ∨
    ∃ event, w.callThrough far call.method call.args = some ((w.note event).update far
        (.messenger s { sender with failures := sender.failures + 1 })) ∧ ¬ s.Portable call := by
  obtain ⟨id, m, args, hm, rfl⟩ := hfits
  rw [h.callThrough hm]
  have hnumbered := (numbered?_of_numberOf? hm hs.count).2
  have hmem := mem_of_numbered? hnumbered
  have hcarried := carried_callRemote w sender id m args
  generalize w.callRemote sender id m args = result at hcarried ⊢
  obtain ⟨u, sender'⟩ := result
  cases hcarried with
  | @posted c bytes hlink hbytes hopen =>
    left
    obtain rfl : m'.channel = c := Link.channel.inj (h.link.symm.trans hlink)
    obtain ⟨e, henvelope, hencode⟩ := SlotMethod.attempt_eq_ok hbytes
    have hportable := (SlotMethod.attempt_ok_iff id).1 ⟨bytes, hbytes⟩
    refine ⟨.frame bytes, rfl, ?_, id, m, args, hm, rfl, hportable⟩
    rw [h.surface, SlotMethod.handle_frame (hs.faithful m hmem) (hs.names m hmem) hnumbered
      henvelope hencode]
    rfl
  | @failed error hrefusal =>
    right
    refine ⟨_, rfl, ?_⟩
    rintro ⟨id', method, args', hm', hcall, hportable⟩
    obtain ⟨hname, hargs⟩ := Call.mk.inj hcall
    rw [← hname] at hm'
    obtain ⟨rfl, rfl⟩ := Prod.mk.inj (Option.some.inj (hm.symm.trans hm'))
    obtain rfl := eq_of_heq (LiveArgs.mk.inj hargs).2
    obtain ⟨bytes, hbytes⟩ := (SlotMethod.attempt_ok_iff id).2 hportable
    simp [refusal?, hbytes, h.link, h.isOpen] at hrefusal

/-- What one request adds to what the two receivers will have got. -/
theorem exists_answer {r : Request U} (hslots : i.slot? = some s) (hs : s.Exact)
    (hapart : m.Apart m') (hnear : w.Attached i near nearBox m)
    (hfar : w.Hosted s far farBox m' sender) (hr : r.Exercises i near nearBox far farBox) :
    ∃ v a sender', w.answer r = some (v, a) ∧ v.Attached i near nearBox m ∧
      v.Hosted s far farBox m' sender' ∧
      v.prospect m = w.prospect m ++ (r.called? near).toList ∧
      (sender'.failures = sender.failures ∧
          v.prospect m' = w.prospect m' ++ (r.called? far).toList ∧
          (∀ call, r.called? far = some call → s.Portable call) ∨
        sender'.failures = sender.failures + 1 ∧ v.prospect m' = w.prospect m' ∧
          ∃ call, r.called? far = some call ∧ ¬ s.Portable call) := by
  have hne : near ≠ far := by
    rintro rfl
    cases hnear.proxy.symm.trans hfar.proxy
  cases hr with
  | @near call hfits =>
    obtain ⟨id, method, args, hm, rfl⟩ := hfits
    have hcount : i.methods.length < 4294967296 :=
      Interface.length_of_slot? hslots ▸ hs.count
    have hhandle := Method.handle_localEnvelope args (numbered?_of_numberOf? hm hcount).2
    rw [← hnear.surface] at hhandle
    refine ⟨_, .done, sender, by rw [answer, hnear.callThrough hm]; rfl, hnear.post _ _,
      hfar.post _ _, ?_, .inl ⟨rfl, ?_, by simp [Request.called?, hne]⟩⟩
    · rw [prospect_post hnear.toServes, if_pos rfl, hhandle]
      simp [Request.called?, Handling.deliver]
    · rw [prospect_post hfar.toServes, if_neg hapart.channel]
      simp [Request.called?, hne]
  | @far call hfits =>
    have hother (t : Thing U) {u : World U} (hu : u.Attached i near nearBox m)
        (hu' : u.Hosted s far farBox m' sender) : (u.update far t).Attached i near nearBox m :=
      hu.update hu'.proxy (by rintro j c ⟨⟩) (by rintro m' ⟨⟩)
    rcases hfar.call hs (hfits.slots hslots) with
      ⟨item, hcall, hhandle, hportable⟩ | ⟨event, hcall, hfails⟩
    · have hnear' := hnear.post m'.channel item
      have hfar' := hfar.post m'.channel item
      refine ⟨_, .done, sender, by rw [answer, hcall]; rfl, hother _ hnear' hfar',
        hfar'.update rfl, ?_, .inl ⟨rfl, ?_, ?_⟩⟩
      · rw [prospect_update, prospect_post hnear.toServes, if_neg hapart.channel.symm]
        simp [Request.called?, hne.symm]
      · rw [prospect_update, prospect_post hfar.toServes, if_pos rfl, hhandle]
        simp [Request.called?]
      · rintro _ hcalled
        rw [Request.called?, if_pos rfl] at hcalled
        cases hcalled
        exact hportable
    · have hnear' := hnear.note event
      have hfar' : (w.note event).Hosted s far farBox m' sender :=
        ⟨hfar.toServes.note event, hfar.proxy, hfar.link, hfar.surface⟩
      refine ⟨_, .done, { sender with failures := sender.failures + 1 },
        by rw [answer, hcall]; rfl, hother _ hnear' hfar', hfar'.update rfl, ?_,
        .inr ⟨rfl, ?_, call, ?_, hfails⟩⟩
      · rw [prospect_update, prospect_note]
        simp [Request.called?, hne.symm]
      · rw [prospect_update, prospect_note]
      · simp [Request.called?]
  | pumpNear =>
    refine ⟨_, _, sender, answer_pump hnear.named, hnear.pump m, hfar.pump m, ?_,
      .inl ⟨rfl, ?_, by rintro _ ⟨⟩⟩⟩
    · rw [prospect_pump]
      simp [Request.called?]
    · rw [prospect_pump_apart w hapart.symm]
      simp [Request.called?]
  | pumpFar =>
    refine ⟨_, _, sender, answer_pump hfar.named, hnear.pump m', hfar.pump m', ?_,
      .inl ⟨rfl, ?_, by rintro _ ⟨⟩⟩⟩
    · rw [prospect_pump_apart w hapart]
      simp [Request.called?]
    · rw [prospect_pump]
      simp [Request.called?]

end World

/-! ## All requests -/

/-- The number of calls that the sender under a name has counted as failed. -/
def World.failures? (w : World U) (name : String) : Option UInt64 :=
  (w.sender? name).map RemoteSender.failures

/-- The sender under the name has counted the request as failed. -/
def Exchange.counted (name : String) (x : Exchange U) : Bool :=
  x.after.failures? name != x.before.failures? name

/-- The call that a request makes through a name, unless the sender there has counted it. -/
def Exchange.crossed? (name : String) (x : Exchange U) : Option (Call U) :=
  if x.counted name then none else x.request.called? name

theorem Interface.exact_of_slot? {i : Interface U} {s : SlotInterface U}
    (hslots : i.slot? = some s) (hcount : i.methods.length < 4294967296)
    (hnames : ∀ m ∈ s.methods, (m.params.map SlotParam.name).Nodup)
    (hlawful : ∀ m ∈ s.methods, ∀ p ∈ m.params, p.type.Lawful U) : s.Exact where
  count := length_of_slot? hslots ▸ hcount
  names := hnames
  faithful m hm p hp :=
    ArgType.slot?_faithful (proper_of_slot? hslots m hm p hp) (hlawful m hm p hp)

namespace World

variable {w v : World U} {i : Interface U} {s : SlotInterface U} {m m' : Mailbox U}
  {near nearBox far farBox : String} {sender : RemoteSender} {rs : List (Request U)}

theorem Hosted.failures? (h : w.Hosted s far farBox m' sender) :
    w.failures? far = some sender.failures := by
  rw [World.failures?, sender?, h.proxy]
  rfl

theorem exists_perform (hslots : i.slot? = some s) (hs : s.Exact) (hapart : m.Apart m')
    (hnear : w.Attached i near nearBox m) (hfar : w.Hosted s far farBox m' sender)
    (hrs : ∀ r ∈ rs, r.Exercises i near nearBox far farBox) :
    ∃ v xs sender', w.perform rs = some (v, xs) ∧ v.Attached i near nearBox m ∧
      v.Hosted s far farBox m' sender' ∧
      v.prospect m = w.prospect m ++ rs.filterMap (Request.called? near) ∧
      v.prospect m' = w.prospect m' ++ xs.filterMap (Exchange.crossed? far) ∧
      sender'.failures = sender.failures + .ofNat (xs.countP (Exchange.counted far)) ∧
      ∀ x ∈ xs, x.counted far ↔
        ∃ call, x.request.called? far = some call ∧ ¬ s.Portable call := by
  induction rs generalizing w sender with
  | nil =>
    exact ⟨w, [], sender, rfl, hnear, hfar, by simp, by simp, (UInt64.add_zero _).symm,
      List.forall_mem_nil _⟩
  | cons r rs ih =>
    rw [List.forall_mem_cons] at hrs
    obtain ⟨w', a, sender', hanswer, hnear', hfar', hprospect, hprospect'⟩ :=
      exists_answer hslots hs hapart hnear hfar hrs.1
    obtain ⟨v, xs, sender'', hperform, hnear'', hfar'', hrest, hrest', hfailures, hcounted⟩ :=
      ih hnear' hfar' hrs.2
    have hcount : Exchange.counted far ⟨w, r, a, w'⟩ =
        (some sender'.failures != some sender.failures) := by
      rw [Exchange.counted, hfar'.failures?, hfar.failures?]
    have hperform' : w.perform (r :: rs) = some (v, ⟨w, r, a, w'⟩ :: xs) := by
      simp [perform, hanswer, hperform]
    refine ⟨v, ⟨w, r, a, w'⟩ :: xs, sender'', hperform', hnear'', hfar'', ?_, ?_⟩
    · rw [hrest, hprospect, List.append_assoc]
      cases hcall : r.called? near <;> simp [hcall]
    · rw [List.forall_mem_cons]
      rcases hprospect' with ⟨hsame, hgot, hcrosses⟩ | ⟨hmore, hgot, hcall⟩
      · have hkept : Exchange.counted far ⟨w, r, a, w'⟩ = false := by simp [hcount, hsame]
        refine ⟨?_, ?_, ?_, hcounted⟩
        · rw [hrest', hgot, List.append_assoc]
          cases hcall : r.called? far <;> simp [Exchange.crossed?, hkept, hcall]
        · rw [hfailures, hsame, List.countP_cons_of_neg (by simp [hkept])]
        · rw [hkept]
          constructor
          · rintro ⟨⟩
          · rintro ⟨call, hcall, hfails⟩
            exact absurd (hcrosses call hcall) hfails
      · have hlost : Exchange.counted far ⟨w, r, a, w'⟩ = true := by simp [hcount, hmore]
        refine ⟨?_, ?_, ⟨fun _ => hcall, fun _ => hlost⟩, hcounted⟩
        · rw [hrest', hgot, List.filterMap_cons_none (by simp [Exchange.crossed?, hlost])]
        · rw [hfailures, hmore, List.countP_cons_of_pos hlost, Nat.add_comm, UInt64.ofNat_add,
            ← UInt64.add_assoc]
          rfl

theorem filterMap_called {xs : List (Exchange U)} (h : w.perform rs = some (v, xs)) (name : String) :
    xs.filterMap (fun x => x.request.called? name) = rs.filterMap (Request.called? name) := by
  rw [← (Run.of_perform h).2, List.filterMap_map]
  rfl

section Counted

variable {xs : List (Exchange U)} (hcounted : ∀ x ∈ xs, x.counted far ↔
  ∃ call, x.request.called? far = some call ∧ ¬ s.Portable call)

include hcounted

/-- When all calls can cross, none is taken away. -/
theorem crossed_of_portable
    (hportable : ∀ call ∈ xs.filterMap (fun x => x.request.called? far), s.Portable call) :
    xs.filterMap (Exchange.crossed? far) = xs.filterMap fun x => x.request.called? far := by
  apply List.filterMap_congr
  intro x hx
  have hkept : x.counted far = false := by
    by_contra hlost
    obtain ⟨call, hcall, hfails⟩ := (hcounted x hx).1 (by simpa using hlost)
    exact hfails (hportable call (List.mem_filterMap.2 ⟨x, hx, hcall⟩))
  rw [Exchange.crossed?, hkept]
  rfl

/-- When none can cross, all are taken away and counted. -/
theorem crossed_of_not_portable
    (hfails : ∀ call ∈ xs.filterMap (fun x => x.request.called? far), ¬ s.Portable call) :
    xs.filterMap (Exchange.crossed? far) = [] ∧
      xs.countP (Exchange.counted far) =
        (xs.filterMap fun x => x.request.called? far).length := by
  have hlost : ∀ x ∈ xs, x.counted far = (x.request.called? far).isSome := by
    intro x hx
    rw [Bool.eq_iff_iff, hcounted x hx, Option.isSome_iff_exists]
    refine exists_congr fun call => and_iff_left_of_imp fun hcall => ?_
    exact hfails call (List.mem_filterMap.2 ⟨x, hx, hcall⟩)
  constructor
  · rw [List.filterMap_eq_nil_iff]
    intro x hx
    rw [Exchange.crossed?, hlost x hx]
    cases x.request.called? far <;> rfl
  · rw [List.length_filterMap_eq_countP]
    exact List.countP_congr fun x hx => by rw [hlost x hx]

end Counted

/-- After a last pump of both mailboxes the one receiver has got every call through its proxy, and
the other every call but those that its proxy has counted. -/
theorem exists_drained (hslots : i.slot? = some s) (hs : s.Exact) (hapart : m.Apart m')
    (hnear : w.Attached i near nearBox m) (hfar : w.Hosted s far farBox m' sender)
    (hempty : w.queue m.channel = []) (hempty' : w.queue m'.channel = [])
    (hrs : ∀ r ∈ rs, r.Exercises i near nearBox far farBox) :
    ∃ v xs u ys, w.perform rs = some (v, xs) ∧
      v.perform [.pump nearBox, .pump farBox] = some (u, ys) ∧
      u.callsOf m.dispatcher.hold.receiver =
        w.callsOf m.dispatcher.hold.receiver ++ rs.filterMap (Request.called? near) ∧
      u.callsOf m'.dispatcher.hold.receiver =
        w.callsOf m'.dispatcher.hold.receiver ++ xs.filterMap (Exchange.crossed? far) ∧
      u.failures? far = some (sender.failures + .ofNat (xs.countP (Exchange.counted far))) ∧
      ∀ x ∈ xs, x.counted far ↔
        ∃ call, x.request.called? far = some call ∧ ¬ s.Portable call := by
  obtain ⟨v, xs, sender', hperform, hnear', hfar', hgot, hgot', hfailures, hcounted⟩ :=
    exists_perform hslots hs hapart hnear hfar hrs
  rw [prospect_of_empty hempty] at hgot
  rw [prospect_of_empty hempty'] at hgot'
  have hpump := answer_pump hnear'.named
  have hpump' := answer_pump (hfar'.pump m).named
  obtain ⟨ys, hlast⟩ : ∃ ys, v.perform [.pump nearBox, .pump farBox] =
      some (((v.pump m).1.pump m').1, ys) :=
    ⟨_, by simp only [perform, hpump, Option.bind_eq_bind, Option.bind_some, hpump']; rfl⟩
  refine ⟨v, xs, _, ys, hperform, hlast, ?_, ?_, ?_, hcounted⟩
  · rw [callsOf_pump_apart _ hapart, ← hgot, ← prospect_pump, prospect_of_empty (queue_pump v m)]
  · rw [← hgot', ← prospect_pump_apart v hapart.symm, ← prospect_pump,
      prospect_of_empty (queue_pump _ m')]
  · rw [((hfar'.pump m).pump m').failures?, hfailures]

/-- The same calls are made through a proxy of this process and through a cross-process proxy, in
any order relative to each other and to pumps of the two mailboxes.  After a last pump of both, the
one receiver has got all of them, and the other all but those that its proxy has counted as failed.
It counts those of which an argument has no byte form, whose records nest too deep, or in which a
length does not fit into its field, and no others. -/
theorem flavors_agree {calls : List (Call U)} (hslots : i.slot? = some s)
    (hcount : i.methods.length < 4294967296)
    (hnames : ∀ m ∈ s.methods, (m.params.map SlotParam.name).Nodup)
    (hlawful : ∀ m ∈ s.methods, ∀ p ∈ m.params, p.type.Lawful U) (hapart : m.Apart m')
    (hnear : w.Attached i near nearBox m) (hfar : w.Hosted s far farBox m' sender)
    (hempty : w.queue m.channel = []) (hempty' : w.queue m'.channel = [])
    (hrs : ∀ r ∈ rs, r.Exercises i near nearBox far farBox)
    (hcalls : rs.filterMap (Request.called? near) = calls)
    (hcalls' : rs.filterMap (Request.called? far) = calls) :
    ∃ v xs u ys, w.perform rs = some (v, xs) ∧
      v.perform [.pump nearBox, .pump farBox] = some (u, ys) ∧
      u.callsOf m.dispatcher.hold.receiver = w.callsOf m.dispatcher.hold.receiver ++ calls ∧
      xs.filterMap (fun x => x.request.called? far) = calls ∧
      u.callsOf m'.dispatcher.hold.receiver =
        w.callsOf m'.dispatcher.hold.receiver ++ xs.filterMap (Exchange.crossed? far) ∧
      u.failures? far = some (sender.failures + .ofNat (xs.countP (Exchange.counted far))) ∧
      (∀ x ∈ xs, x.counted far ↔
        ∃ call, x.request.called? far = some call ∧ ¬ s.Portable call) ∧
      ((∀ call ∈ calls, s.Portable call) →
        u.callsOf m'.dispatcher.hold.receiver =
          w.callsOf m'.dispatcher.hold.receiver ++ calls) := by
  have hs := Interface.exact_of_slot? hslots hcount hnames hlawful
  obtain ⟨v, xs, u, ys, hperform, hlast, hgot, hgot', hfailures, hcounted⟩ :=
    exists_drained hslots hs hapart hnear hfar hempty hempty' hrs
  have hissued : xs.filterMap (fun x => x.request.called? far) = calls :=
    (filterMap_called hperform far).trans hcalls'
  refine ⟨v, xs, u, ys, hperform, hlast, hcalls ▸ hgot, hissued, hgot', hfailures, hcounted, ?_⟩
  intro hportable
  rw [hgot', crossed_of_portable hcounted (hissued.symm ▸ hportable), hissued]

end World

namespace Sample

/-- Two receivers, one with a proxy of this process and one with a cross-process proxy. -/
def mooring (i : Interface types) (s : SlotInterface types) : List (Request types) :=
  [.receiver "a", .receiver "b", .attach i "a" "near" "nearBox", .host s "b" "far" "farBox"]

/-- The world to which `mooring` leads. -/
def harbour (i : Interface types) (s : SlotInterface types) : World types where
  things := [("farBox", .mailbox ⟨1, ⟨.across s, ⟨1, true⟩⟩⟩),
    ("far", .messenger s ⟨s.name, .channel 1, 0⟩),
    ("nearBox", .mailbox ⟨0, ⟨.within i, ⟨0, false⟩⟩⟩), ("near", .handler i 0),
    ("b", .receiver 1), ("a", .receiver 0)]
  receivers := [⟨1, []⟩, ⟨2, []⟩]
  channels := [⟨[], 1, true⟩, ⟨[], 1, true⟩]
  tasks := []
  ready := []
  log := []

section Moored

variable (i : Interface types) (s : SlotInterface types)

theorem perform_mooring : (World.empty.perform (mooring i s)).map Prod.fst = some (harbour i s) :=
  rfl

theorem attached_harbour :
    (harbour i s).Attached i "near" "nearBox" ⟨0, .within i, ⟨0, false⟩⟩ :=
  ⟨⟨rfl, rfl, rfl⟩, rfl, rfl⟩

theorem hosted_harbour :
    (harbour i s).Hosted s "far" "farBox" ⟨1, .across s, ⟨1, true⟩⟩ ⟨s.name, .channel 1, 0⟩ :=
  ⟨⟨rfl, rfl, rfl⟩, rfl, rfl, rfl⟩

end Moored

def loads : List (Call types) :=
  [⟨"load", ⟨load.types, freight .empty⟩⟩,
    ⟨"load", ⟨load.types, freight (.ofList [(⟨0, 0⟩, 1)])⟩⟩, ⟨"noop", ⟨[], ()⟩⟩]

/-- The loads over both proxies, each at a pace of its own. -/
def crossings : List (Request types) :=
  [.call "far" "load" ⟨load.types, freight .empty⟩,
    .call "near" "load" ⟨load.types, freight .empty⟩,
    .call "near" "load" ⟨load.types, freight (.ofList [(⟨0, 0⟩, 1)])⟩, .pump "nearBox",
    .call "far" "load" ⟨load.types, freight (.ofList [(⟨0, 0⟩, 1)])⟩,
    .call "far" "noop" ⟨[], ()⟩, .pump "farBox", .call "near" "noop" ⟨[], ()⟩]

theorem crossings_exercise :
    ∀ r ∈ crossings, r.Exercises ferry "near" "nearBox" "far" "farBox" := by
  have hload (cells : OrderedMap Cell Int32) :
      ferry.Fits ⟨"load", ⟨load.types, freight cells⟩⟩ :=
    ⟨2, ferry.methods.get ⟨1, by decide⟩, freight cells, rfl, rfl⟩
  have hnoop : ferry.Fits ⟨"noop", ⟨[], ()⟩⟩ :=
    ⟨1, ferry.methods.get ⟨0, by decide⟩, (), rfl, rfl⟩
  simp only [crossings, List.forall_mem_cons]
  exact ⟨.far (hload _), .near (hload _), .near (hload _), .pumpNear, .far (hload _), .far hnoop,
    .pumpFar, .near hnoop, List.forall_mem_nil _⟩

theorem ferry_lawful : ∀ m ∈ ferrySlots.methods, ∀ p ∈ m.params, p.type.Lawful types := by
  simp only [ferrySlots, List.forall_mem_cons]
  exact ⟨List.forall_mem_nil _, load_lawful, List.forall_mem_nil _⟩

end Sample

open Sample in
/-- The second load is counted, and only the receiver in this process gets it. -/
theorem World.flavors_agree_harbour :
    (World.empty.perform (mooring ferry ferrySlots)).map Prod.fst =
        some (harbour ferry ferrySlots) ∧
      ∃ v xs u ys, (harbour ferry ferrySlots).perform crossings = some (v, xs) ∧
        v.perform [.pump "nearBox", .pump "farBox"] = some (u, ys) ∧
        u.callsOf 0 = loads ∧ u.callsOf 1 = loads.eraseIdx 1 ∧ u.failures? "far" = some 1 := by
  have hnames : ∀ m ∈ ferrySlots.methods, (m.params.map SlotParam.name).Nodup := by
    simp only [ferrySlots, List.forall_mem_cons]
    exact ⟨.nil, by decide, List.forall_mem_nil _⟩
  have hslots : ferry.slot? = some ferrySlots := rfl
  have hcount : ferry.methods.length < 4294967296 := by decide
  have hcalls : crossings.filterMap (Request.called? "near") = loads := rfl
  have hcalls' : crossings.filterMap (Request.called? "far") = loads := rfl
  obtain ⟨v, xs, u, ys, hperform, hlast, hgot, -, hgot', hfailures, -, -⟩ :=
    flavors_agree hslots hcount hnames ferry_lawful ⟨by decide, by decide⟩
      (attached_harbour ferry ferrySlots) (hosted_harbour ferry ferrySlots) rfl rfl
      crossings_exercise hcalls hcalls'
  have hseen : ((harbour ferry ferrySlots).perform crossings).map (fun p =>
      (p.2.filterMap (Exchange.crossed? "far"), p.2.countP (Exchange.counted "far"))) =
        some (loads.eraseIdx 1, 1) := rfl
  rw [hperform] at hseen
  obtain ⟨hcrossed, hcounted⟩ := Prod.mk.inj (Option.some.inj hseen)
  rw [hcrossed] at hgot'
  rw [hcounted] at hfailures
  exact ⟨perform_mooring _ _, v, xs, u, ys, hperform, hlast, hgot, hgot', hfailures⟩

/-! ## Where the two proxies part -/

namespace Sample

/-- The interface of the desk as it is declared. -/
def bureau : Interface types := ⟨"Desk", [⟨"greet", [param "name" .text]⟩]⟩

def greets (name : String) : Call types := ⟨"greet", ⟨[.text], (name, ())⟩⟩

/-- The same greeting over both proxies. -/
def greetings (name : String) : List (Request types) :=
  [.call "near" "greet" (greets name).args, .call "far" "greet" (greets name).args]

/-- A name of as many letters. -/
def letters (n : Nat) : String := String.ofList (List.replicate n 'a')

theorem utf8ByteSize_letters (n : Nat) : (letters n).utf8ByteSize = n := by
  rw [letters]
  induction n with
  | zero => rfl
  | succ n ih =>
    rw [List.replicate_succ, String.ofList_cons, String.utf8ByteSize_append, ih,
      String.utf8ByteSize_singleton, Nat.add_comm]
    rfl

theorem greetings_exercise (name : String) :
    ∀ r ∈ greetings name, r.Exercises bureau "near" "nearBox" "far" "farBox" := by
  have hfits : bureau.Fits (greets name) :=
    ⟨1, bureau.methods.get ⟨0, by decide⟩, (name, ()), rfl, rfl⟩
  simp only [greetings, List.forall_mem_cons]
  exact ⟨.near hfits, .far hfits, List.forall_mem_nil _⟩

theorem desk_exact : desk.Exact where
  count := by decide
  names := by
    simp only [desk, List.forall_mem_cons]
    exact ⟨by decide, List.forall_mem_nil _⟩
  faithful := by
    simp only [desk, List.forall_mem_cons]
    have hslot : ArgType.slot? types .text = some Slot.text := rfl
    exact ⟨⟨ArgType.slot?_faithful hslot trivial, List.forall_mem_nil _⟩, List.forall_mem_nil _⟩

/-- A name that is too long for its field cannot cross. -/
theorem not_portable_greets {name : String} (h : 4294967296 ≤ name.utf8ByteSize) :
    ¬ desk.Portable (greets name) := by
  rintro ⟨id, m, args, hm, hcall, b, hmarshal, hsized, -⟩
  obtain ⟨hname, hargs⟩ := Call.mk.inj hcall
  rw [← hname] at hm
  obtain ⟨-, rfl⟩ := Prod.mk.inj (Option.some.inj hm)
  obtain rfl := eq_of_heq (LiveArgs.mk.inj hargs).2
  cases hmarshal
  have hlong : name.utf8ByteSize < 4294967296 := hsized _ (.tail _ (.tail _ (.head _)))
  omega

/-- What becomes of a greeting with a name that is too long for its field. -/
theorem greetings_of_long {name : String} (h : 4294967296 ≤ name.utf8ByteSize) :
    ∃ v xs u ys, (harbour bureau desk).perform (greetings name) = some (v, xs) ∧
      v.perform [.pump "nearBox", .pump "farBox"] = some (u, ys) ∧
      u.callsOf 0 = [greets name] ∧ u.callsOf 1 = [] ∧ u.failures? "far" = some 1 := by
  obtain ⟨v, xs, u, ys, hperform, hlast, hgot, hgot', hfailures, hcounted⟩ :=
    World.exists_drained rfl desk_exact ⟨by decide, by decide⟩ (attached_harbour bureau desk)
      (hosted_harbour bureau desk) rfl rfl (greetings_exercise name)
  have hissued : xs.filterMap (fun x => x.request.called? "far") = [greets name] :=
    World.filterMap_called hperform "far"
  have hfails : ∀ call ∈ xs.filterMap (fun x => x.request.called? "far"),
      ¬ desk.Portable call := by
    rw [hissued, List.forall_mem_singleton]
    exact not_portable_greets h
  obtain ⟨hcrossed, hcount⟩ := World.crossed_of_not_portable hcounted hfails
  rw [hcrossed] at hgot'
  rw [hcount, hissued] at hfailures
  exact ⟨v, xs, u, ys, hperform, hlast, hgot, hgot', hfailures⟩

end Sample

open Sample in
/-- A greeting that can be serialized and nests nothing is lost on the way when its text is too
long.  And a greeting through another proxy on the link reaches the one receiver only, though
neither proxy counts a failure. -/
theorem World.flavors_part_letters :
    bureau.slot? = some desk ∧
    (World.empty.perform (mooring bureau desk)).map Prod.fst = some (harbour bureau desk) ∧
    (∃ b, marshal (U := types) [⟨"name", .text, Slot.text⟩] (letters 4294967296, ()) .empty =
      .ok b ∧ b.nesting ≤ maxNesting) ∧
    (∃ v xs u ys, (harbour bureau desk).perform (greetings (letters 4294967296)) = some (v, xs) ∧
      v.perform [.pump "nearBox", .pump "farBox"] = some (u, ys) ∧
      u.callsOf 0 = [greets (letters 4294967296)] ∧ u.callsOf 1 = [] ∧
      u.failures? "far" = some 1) ∧
    ∃ u xs, (harbour bureau desk).perform (greetings "hi" ++ [.connect desk "other" "far",
        .call "other" "greet" (greets "yo").args, .pump "nearBox", .pump "farBox"]) =
          some (u, xs) ∧
      u.callsOf 0 = [greets "hi"] ∧ u.callsOf 1 = [greets "hi", greets "yo"] ∧
      u.failures? "far" = some 0 ∧ u.failures? "other" = some 0 :=
  ⟨rfl, perform_mooring _ _, ⟨_, rfl, by decide⟩,
    greetings_of_long (Nat.le_of_eq (utf8ByteSize_letters _).symm), _, _, rfl, rfl, rfl, rfl, rfl⟩

end Relay
