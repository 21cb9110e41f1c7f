import Relay.Proofs.Delivery.Dispatching
import Relay.Proofs.Delivery.Flavors
import Relay.Proofs.Generator.Halves

/-!
# Extending an interface

Methods are numbered in the order of their declaration, so a method that is appended takes a number
that was free and moves no other.  What is planned and emitted for the old methods stays as it was,
and a dispatcher of either version makes the same of a frame of the shorter one.  A frame for an
appended method has a number that the shorter version does not know.

All of this goes back to one fact, that the numbered methods of the shorter version are a prefix of
those of the longer one.
-/

namespace Relay

/-! ## Numbers -/

theorem numbered?_append_left {α : Type} {xs : List α} {id : UInt32} (ys : List α)
    (h : id.toNat ≤ xs.length) : numbered? (xs ++ ys) id = numbered? xs id := by
  unfold numbered?
  split
  · rfl
  · next n hn => rw [List.getElem?_append_left (by omega)]

namespace Registry

variable {i : Declared.Interface}

theorem map_method_ofInterface (i : Declared.Interface) :
    (ofInterface i).methods.map Registered.method = i.methods := map_method_number

theorem length_ofInterface (i : Declared.Interface) :
    (ofInterface i).methods.length = i.methods.length := by
  rw [← map_method_ofInterface i, List.length_map]

/-- The methods have the numbers from one on, in the order of declaration, and a number in this
range is that of one method. -/
structure Dense (i : Declared.Interface) : Prop where
  methods : (ofInterface i).methods.map Registered.method = i.methods
  ids : (ofInterface i).methods.map (fun r => r.id.toNat) = List.range' 1 i.methods.length
  lastId : (ofInterface i).lastId.toNat = i.methods.length
  isSome : ∀ id : UInt32,
    ((ofInterface i).get? id).isSome ↔ 1 ≤ id.toNat ∧ id.toNat ≤ i.methods.length
  get? : ∀ (id : UInt32) (r : Registered), (ofInterface i).get? id = some r →
    r.id = id ∧ i.methods[id.toNat - 1]? = some r.method
  idOf? : (i.methods.map Declared.Method.name).Nodup → ∀ m ∈ i.methods,
    ∃ id r, (ofInterface i).idOf? m.name = some id ∧ (ofInterface i).get? id = some r ∧
      r.method = m

section Dense

variable (h : i.methods.length < UInt32.size)

include h

theorem toNat_id {k : Nat} {r : Registered} (hr : (ofInterface i).methods[k]? = some r) :
    r.id.toNat = k + 1 ∧ i.methods[k]? = some r.method := by
  rw [getElem?_ofInterface] at hr
  obtain ⟨m, hm, rfl⟩ := Option.map_eq_some_iff.1 hr
  have hk := (List.getElem?_eq_some_iff.1 hm).1
  exact ⟨UInt32.toNat_ofNat_of_lt' (by omega), hm⟩

theorem get?_of_getElem? {k : Nat} {r : Registered} (hr : (ofInterface i).methods[k]? = some r) :
    (ofInterface i).get? r.id = some r := by
  have hid := (toNat_id h hr).1
  unfold get? numbered?
  rw [hid]
  exact hr

theorem toNat_ids :
    (ofInterface i).methods.map (fun r => r.id.toNat) = List.range' 1 i.methods.length := by
  refine List.ext_getElem (by rw [List.length_map, length_ofInterface, List.length_range'])
    fun k hk hk' => ?_
  rw [List.length_map] at hk
  rw [List.getElem_map, List.getElem_range', (toNat_id h (List.getElem?_eq_getElem hk)).1]
  omega

theorem eq_of_get? {id : UInt32} {r : Registered} (hr : (ofInterface i).get? id = some r) :
    r.id = id ∧ i.methods[id.toNat - 1]? = some r.method := by
  unfold get? numbered? at hr
  split at hr
  · cases hr
  · next n hn =>
    obtain ⟨hid, hmethod⟩ := toNat_id h hr
    rw [hn]
    exact ⟨UInt32.toNat_inj.1 (hid.trans hn.symm), hmethod⟩

theorem get?_idOf? (hnames : (i.methods.map Declared.Method.name).Nodup) {m : Declared.Method}
    (hm : m ∈ i.methods) :
    ∃ id r, (ofInterface i).idOf? m.name = some id ∧ (ofInterface i).get? id = some r ∧
      r.method = m := by
  have hmem : ∀ r ∈ (ofInterface i).methods, r.method ∈ i.methods := by
    intro r hr
    rw [← map_method_ofInterface i]
    exact List.mem_map_of_mem hr
  rw [← map_method_ofInterface i] at hm
  obtain ⟨r₀, hr₀, rfl⟩ := List.mem_map.1 hm
  cases hfind : (ofInterface i).methods.find? fun r => r.method.name == r₀.method.name with
  | none => simpa using List.find?_eq_none.1 hfind r₀ hr₀
  | some r =>
    have hr := List.mem_of_find?_eq_some hfind
    have hname : r.method.name = r₀.method.name := by
      simpa using List.find?_some hfind
    obtain ⟨k, hk⟩ := List.getElem?_of_mem hr
    refine ⟨r.id, r, ?_, get?_of_getElem? h hk, ?_⟩
    · rw [idOf?, hfind, Option.map_some]
    · exact List.inj_on_of_nodup_map hnames (hmem r hr) (hmem r₀ hr₀) hname

theorem dense : Dense i where
  methods := map_method_ofInterface i
  ids := toNat_ids h
  lastId := by
    rw [lastId_ofInterface]
    exact UInt32.toNat_ofNat_of_lt' h
  isSome := by
    intro id
    rw [get?, Option.isSome_iff_ne_none, Ne, numbered?_eq_none_iff, Decidable.not_not,
      length_ofInterface]
  get? := fun id r hr => eq_of_get? h hr
  idOf? := fun hnames m hm => get?_idOf? h hnames hm

end Dense

end Registry

/-! ## Code -/

theorem Registry.number_prefix (first : UInt32) (ms more : List Declared.Method) :
    number first ms <+: number first (ms ++ more) := by
  induction ms generalizing first with
  | nil => exact List.nil_prefix
  | cons m rest ih => exact List.cons_prefix_cons.2 ⟨rfl, ih (first + 1)⟩

namespace Declared.Interface

/-- The interface with more methods behind its own. -/
def extend (i : Interface) (more : List Method) : Interface :=
  { i with methods := i.methods ++ more }

variable {i : Interface} {more : List Method} {t : Transport} {outputName : Option String}
  {position : Option Position} {runtime : PathExpr} {o' : Generated}

theorem registered_prefix (i : Interface) (more : List Method) :
    (Registry.ofInterface i).methods <+: (Registry.ofInterface (i.extend more)).methods :=
  Registry.number_prefix 1 i.methods more

theorem idOf?_extend {m : Method} (hm : m ∈ i.methods) :
    (Registry.ofInterface (i.extend more)).idOf? m.name =
      (Registry.ofInterface i).idOf? m.name := by
  obtain ⟨rest, hrest⟩ := registered_prefix i more
  rw [← Registry.map_method_ofInterface i] at hm
  obtain ⟨r, hr, rfl⟩ := List.mem_map.1 hm
  have hsome : ((Registry.ofInterface i).methods.find?
      fun r' => r'.method.name == r.method.name).isSome :=
    List.find?_isSome.2 ⟨r, hr, beq_self_eq_true _⟩
  rw [Registry.idOf?, Registry.idOf?, ← hrest, List.find?_append, Option.or_of_isSome hsome]

/-- What is wrong with an interface is wrong with every extension of it. -/
theorem problems_of_extend (h : (i.extend more).problems t outputName position = []) :
    i.problems t outputName position = [] := by
  obtain ⟨rest, hrest⟩ := registered_prefix i more
  simp only [problems, violations, Registry.paramProblems, ← hrest, List.append_eq_nil_iff,
    List.flatMap_append] at h ⊢
  obtain ⟨⟨⟨⟨⟨hgeneric, hother⟩, hmethods⟩, hparams⟩, hname⟩, hproxy⟩ := h
  have hmethods' : (i.methods ++ more).flatMap (Method.violations i.name) = [] := hmethods
  rw [List.flatMap_append, List.append_eq_nil_iff] at hmethods'
  exact ⟨⟨⟨⟨⟨hgeneric, hother⟩, hmethods'.1⟩, hparams.1⟩, hname⟩, hproxy⟩

/-- The code of an extension begins with that of the interface. -/
theorem emit?_of_extend (h : (i.extend more).emit? t outputName runtime = some o') :
    ∃ o, i.emit? t outputName runtime = some o ∧ o.plans <+: o'.plans ∧
      o.emission.methods <+: o'.emission.methods := by
  obtain ⟨rest, hrest⟩ := registered_prefix i more
  obtain ⟨trait, proxy, methods, htrait, hproxy, hmethods, rfl⟩ := emit?_eq_some.1 h
  rw [← hrest, List.map_append, List.mapM_append] at hmethods
  simp only [Option.bind_eq_bind, Option.bind_eq_some_iff, Option.pure_def,
    Option.some.injEq] at hmethods
  obtain ⟨front, hfront, back, -, rfl⟩ := hmethods
  refine ⟨_, emit?_eq_some.2 ⟨trait, proxy, front, htrait, hproxy, hfront, rfl⟩, ?_,
    List.prefix_append _ _⟩
  exact ⟨_, (hrest ▸ List.map_append.symm)⟩

/-- Extending an interface leaves the numbers of its methods alone, and what is planned and emitted
for them. -/
structure Stable (i : Interface) (more : List Method) : Prop where
  numbers : (Registry.ofInterface i).methods <+: (Registry.ofInterface (i.extend more)).methods
  idOf? : ∀ m ∈ i.methods, (Registry.ofInterface (i.extend more)).idOf? m.name =
    (Registry.ofInterface i).idOf? m.name
  /-- With an extension the interface is accepted too. -/
  code : ∀ (runtime : PathExpr) (d : Declaration) (o' : Generated),
    d.content = .interface (i.extend more) → d.generate runtime = .accepted o' →
      ∃ o, { d with content := .interface i }.generate runtime = .accepted o ∧
        o.plans <+: o'.plans ∧ o.emission.methods <+: o'.emission.methods ∧
        o.emission.methods.map Emission.idConstant <+:
          o'.emission.methods.map Emission.idConstant

theorem stable (i : Interface) (more : List Method) : i.Stable more where
  numbers := registered_prefix i more
  idOf? := fun m hm => idOf?_extend hm
  code := by
    intro runtime d o' hcontent h
    obtain ⟨hproblems, hemit⟩ := Declaration.accepted_of_generate hcontent h
    obtain ⟨o, ho, hplans, hmethods⟩ := emit?_of_extend hemit
    refine ⟨o, ?_, hplans, hmethods, hmethods.map _⟩
    simp only [Declaration.generate, problems_of_extend hproblems, List.isEmpty_nil, if_true, ho]

end Declared.Interface

/-! ## Frames -/

variable {U : Universe}

namespace SlotInterface

/-- The interface with more methods behind its own. -/
def extend (s : SlotInterface U) (more : List (SlotMethod U)) : SlotInterface U :=
  { s with methods := s.methods ++ more }

/-- The messenger of the interface sends the bytes for a call of the method with the number. -/
def Sends (s : SlotInterface U) (id : UInt32) (bytes : List UInt8) : Prop :=
  ∃ m args e, numbered? s.methods id = some m ∧ m.remoteEnvelope id args = .ok e ∧
    e.encode = .ok bytes

variable {s : SlotInterface U} {more : List (SlotMethod U)} {id : UInt32} {bytes : List UInt8}

/-- What a call puts on the link of a messenger is such a frame. -/
theorem sends_of_offer {sender : RemoteSender} {proxy method : String} {args : LiveArgs U}
    {c : Nat} {item : Item U} (hlength : s.methods.length < UInt32.size)
    (h : (Thing.messenger s sender).offer? (.call proxy method args) = some (c, item)) :
    ∃ id bytes, item = .frame bytes ∧ s.Sends id bytes := by
  obtain ⟨attempt, hattempt, hitem⟩ := Option.bind_eq_some_iff.1 h
  simp only [Thing.attempt?, Option.bind_eq_bind, Option.bind_eq_some_iff] at hattempt
  obtain ⟨⟨id, m⟩, hm, hattempt⟩ := hattempt
  simp only at hattempt
  split at hattempt
  · obtain rfl := Option.some.inj hattempt
    obtain ⟨c', -, hposted⟩ := Option.bind_eq_some_iff.1 hitem
    obtain ⟨bytes, hbytes, hposted⟩ := Option.map_eq_some_iff.1 hposted
    obtain rfl := (Prod.mk.inj hposted).2
    cases hresult : (m.attempt id _).bytes with
    | error error =>
      rw [hresult] at hbytes
      cases hbytes
    | ok bytes' =>
      rw [hresult] at hbytes
      obtain rfl := Option.some.inj hbytes
      obtain ⟨e, henvelope, hencode⟩ := SlotMethod.attempt_eq_ok hresult
      exact ⟨id, _, rfl, m, _, e, (numbered?_of_numberOf? hm hlength).2, henvelope, hencode⟩
  · cases hattempt

theorem Sends.decode (h : s.Sends id bytes) :
    ∃ f : Frame, Frame.decode bytes = .ok f ∧ f.what = id := by
  obtain ⟨m, args, e, -, henvelope, hencode⟩ := h
  obtain ⟨f, hdecode, hwhat, -⟩ := Envelope.decode_encode hencode
  exact ⟨f, hdecode, hwhat.trans (SlotMethod.remoteEnvelope_what henvelope)⟩

theorem Sends.numbered? (h : s.Sends id bytes) : ∃ m, numbered? s.methods id = some m := by
  obtain ⟨m, -, -, hm, -, -⟩ := h
  exact ⟨m, hm⟩

theorem handle_of_decode {f : Frame} (h : Frame.decode bytes = .ok f) (live : Bool) :
    (Surface.across s).handle live (.frame bytes) =
      (Surface.across s).dispatch live (.ofFrame f) := by
  simp only [Surface.handle, Surface.deliver, h]

/-- A frame of the interface is handled in the same way by the dispatcher of an extension. -/
theorem handle_extend (h : s.Sends id bytes) (more : List (SlotMethod U)) (live : Bool) :
    (Surface.across (s.extend more)).handle live (.frame bytes) =
      (Surface.across s).handle live (.frame bytes) := by
  obtain ⟨f, hdecode, hwhat⟩ := h.decode
  obtain ⟨m, hm⟩ := h.numbered?
  have hrange := range_of_numbered? hm
  have hsame : Relay.numbered? (s.extend more).methods id = some m :=
    (numbered?_append_left more hrange.2).trans hm
  rw [handle_of_decode hdecode, handle_of_decode hdecode]
  cases live with
  | false => rfl
  | true =>
    simp only [Surface.dispatch, if_true, Surface.receive, Envelope.ofFrame_what, hwhat, hm, hsame]
    rfl

/-- A frame for an appended method is discarded; the receiver is looked for first. -/
theorem handle_appended (h : (s.extend more).Sends id bytes) (hid : s.methods.length < id.toNat)
    (live : Bool) :
    (Surface.across s).handle live (.frame bytes) =
      if live then .unknown s.name id else .disposed s.name id := by
  obtain ⟨f, hdecode, hwhat⟩ := h.decode
  have hnone : Relay.numbered? s.methods id = none := numbered?_eq_none_iff.2 (by omega)
  rw [handle_of_decode hdecode]
  simp only [Surface.dispatch, Surface.receive, Envelope.ofFrame_what, hwhat, hnone]
  rfl

/-- What the dispatchers of an interface and of an extension make of the frames of the other. -/
structure Compatible (s : SlotInterface U) (more : List (SlotMethod U)) : Prop where
  /-- A call through the messenger sends such a frame, if it sends anything. -/
  sent : s.methods.length < UInt32.size → ∀ (sender : RemoteSender) (proxy method : String)
    (args : LiveArgs U) (c : Nat) (item : Item U),
    (Thing.messenger s sender).offer? (.call proxy method args) = some (c, item) →
      ∃ id bytes, item = .frame bytes ∧ s.Sends id bytes
  kept : ∀ id bytes, s.Sends id bytes → ∀ (w : World U) (h : Hold),
    w.handle ⟨.across (s.extend more), h⟩ (.frame bytes) = w.handle ⟨.across s, h⟩ (.frame bytes)
  unknown : ∀ id bytes, (s.extend more).Sends id bytes → s.methods.length < id.toNat →
    ∀ (w : World U) (h : Hold), w.resolves h = true →
      (w.handle ⟨.across s, h⟩ (.frame bytes)).2 = .discarded (.unknownMethod id)
  disposed : ∀ id bytes, (s.extend more).Sends id bytes → s.methods.length < id.toNat →
    ∀ (w : World U) (h : Hold), w.resolves h = false →
      (w.handle ⟨.across s, h⟩ (.frame bytes)).2 = .discarded .receiverDisposed
  /-- In both cases no receiver is touched. -/
  untouched : ∀ id bytes, (s.extend more).Sends id bytes → s.methods.length < id.toNat →
    ∀ (w : World U) (h : Hold), (w.handle ⟨.across s, h⟩ (.frame bytes)).1.receivers = w.receivers

theorem compatible (s : SlotInterface U) (more : List (SlotMethod U)) : s.Compatible more where
  sent := fun hlength _ _ _ _ _ _ h => sends_of_offer hlength h
  kept := by
    intro id bytes hsends w h
    simp only [World.handle, handle_extend hsends more]
  unknown := by
    intro id bytes hsends hid w h hlive
    simp only [World.handle, handle_appended hsends hid, hlive, if_true]
    rfl
  disposed := by
    intro id bytes hsends hid w h hgone
    simp only [World.handle, handle_appended hsends hid, hgone]
    rfl
  untouched := by
    intro id bytes hsends hid w h
    simp only [World.handle, handle_appended hsends hid]
    cases w.resolves h <;> rfl

end SlotInterface

/-- Numbers are dense and do not move when methods are appended: what is planned and emitted for the
methods of an interface stays as it was, and so does what becomes of their frames.  Frames for the
appended methods are discarded by the dispatcher of the interface. -/
theorem extension_compatible {i : Declared.Interface} (h : i.methods.length < UInt32.size)
    (more : List Declared.Method) (s : SlotInterface U) (moreSlots : List (SlotMethod U)) :
    Registry.Dense i ∧ i.Stable more ∧ s.Compatible moreSlots :=
  ⟨Registry.dense h, i.stable more, s.compatible moreSlots⟩

namespace Sample

def flash : Declared.Method :=
  ⟨"flash", [⟨"times", .scalar .int, none, none, none⟩], none, none, none⟩

def wave : SlotMethod types := ⟨"wave", []⟩

/-- What a messenger sends for a wave that was appended to the desk. -/
def waving : List UInt8 := [0x52, 2, 0, 0, 0, 0x51]

theorem sends_waving : (desk.extend [wave]).Sends 2 waving := ⟨wave, (), .bare 2, rfl, rfl, rfl⟩

/-- The lobby after its receiver has gone. -/
def deserted : World types := { World.empty with receivers := [⟨0, []⟩] }

end Sample

open Sample in
/-- The old desk does not know the wave, and the beacon keeps its code when it learns to flash. -/
theorem extension_compatible_desk :
    (lobby.handle ⟨.across desk, ⟨0, true⟩⟩ (.frame waving)).2 = .discarded (.unknownMethod 2) ∧
      ∃ o o', (Declaration.ofInterface beacon .crossProcess).generate Declaration.defaultRuntime =
          .accepted o ∧
        (Declaration.ofInterface (beacon.extend [flash]) .crossProcess).generate
          Declaration.defaultRuntime = .accepted o' ∧
        o.plans <+: o'.plans := by
  obtain ⟨-, hstable, hcompatible⟩ :=
    extension_compatible (i := beacon) (by decide) [flash] desk [wave]
  refine ⟨hcompatible.unknown 2 waving sends_waving (by decide) lobby _ rfl, ?_⟩
  have haccepted : ((Declaration.ofInterface (beacon.extend [flash]) .crossProcess).generate
      Declaration.defaultRuntime).output?.isSome = true := by
    decide +kernel
  cases h : (Declaration.ofInterface (beacon.extend [flash]) .crossProcess).generate
      Declaration.defaultRuntime with
  | accepted o' =>
    obtain ⟨o, ho, hplans, -⟩ := hstable.code _ _ o' rfl h
    exact ⟨o, o', ho, rfl, hplans⟩
  | _ =>
    rw [h] at haccepted
    cases haccepted

open Sample in
/-- When the receiver has gone, the old desk does not get to look for the wave. -/
theorem appended_disposed :
    (desk.extend [wave]).Sends 2 waving ∧ desk.methods.length < (2 : UInt32).toNat ∧
      (deserted.handle ⟨.across desk, ⟨0, false⟩⟩ (.frame waving)).2 =
        .discarded .receiverDisposed ∧
      (deserted.handle ⟨.across desk, ⟨0, false⟩⟩ (.frame waving)).2 ≠
        .discarded (.unknownMethod 2) := by
  have hdisposed : (deserted.handle ⟨.across desk, ⟨0, false⟩⟩ (.frame waving)).2 =
      .discarded .receiverDisposed := rfl
  refine ⟨sends_waving, by decide, hdisposed, ?_⟩
  rw [hdisposed]
  nofun

end Relay
