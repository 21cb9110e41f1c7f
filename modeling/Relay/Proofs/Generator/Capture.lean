import Relay.Proofs.Generator.Bindings
import Relay.Proofs.Generator.Surfaces

/-!
# Names in dispatchers

The dispatcher stands in two blocks that are generic over the type of the receiver, and both have
the same word for it.  The name of the trait and the types of the parameters are put into these
blocks as they were written.  A path means what it meant outside of the blocks unless it starts with
that word.  So a declaration that has a path of this kind is captured, and no other one is.
-/

namespace Relay

/-! ## What paths start with -/

/-- What stands in front of a token, as far as it says whether a path can start there. -/
inductive Lead where
  | open
  /-- The first half of `::`. -/
  | colon
  /-- A separator of segments, or the quote of a lifetime. -/
  | bound
  | bang

def Lead.next : Lead → Token → Lead
  | .colon, .punct ':' _ _ => .bound
  | _, .punct ':' true _ => .colon
  | _, .punct '\'' _ _ => .bound
  | _, .punct '!' _ _ => .bang
  | _, _ => .open

/-- What makes the word in front of it the name of a parameter, an associated type or a macro. -/
def isLabel : List Token → Bool
  | .punct ':' joint _ :: _ => !joint
  | .punct '=' _ _ :: _ => true
  | .punct '!' _ _ :: _ => true
  | _ => false

mutual

def Token.heads (lead : Lead) (rest : List Token) : Token → List String
  | .word w _ =>
    match lead with
    | .bound => []
    | _ => if isLabel rest || !isName w then [] else [plainName w]
  | .group .brace _ _ => []
  | .group _ body _ =>
    match lead with
    | .bang => []
    | _ => headsFrom .open body
  | _ => []

def headsFrom (lead : Lead) : List Token → List String
  | [] => []
  | .punct ';' _ _ :: _ => []
  | t :: rest => t.heads lead rest ++ headsFrom (lead.next t) rest

end

/-- The words that paths start with in a spelled signature.  Lengths, constants and what is given to
macros are no part of it. -/
def headsOfSpelling (spelling : List Token) : List String := headsFrom .open spelling

mutual

/-- The words that paths start with in a type, without their `r#`. -/
def TypeExpr.heads : TypeExpr → List String
  | .path p => p.heads
  | .qualified self rest => self.heads ++ headsOfSegments rest
  | .projected self via rest => self.heads ++ via.heads ++ headsOfSegments rest
  | .reference _ _ elem => elem.heads
  | .pointer _ elem => elem.heads
  | .slice elem => elem.heads
  | .array elem _ => elem.heads
  | .tuple elems _ => headsOfTypes elems
  | .paren elem => elem.heads
  | .group elem => elem.heads
  | .function spelling => headsOfSpelling spelling
  | .object _ bounds _ => headsOfBounds bounds
  | .implement bounds _ => headsOfBounds bounds
  | .never => []
  | .infer => []
  | .invocation _ _ => []
  | .verbatim spelling => headsOfSpelling spelling

def headsOfTypes : List TypeExpr → List String
  | [] => []
  | t :: rest => t.heads ++ headsOfTypes rest

/-- A rooted path starts with no word. -/
def PathExpr.heads : PathExpr → List String
  | .mk rooted segments =>
    (if rooted then [] else (segments.take 1).map fun s => plainName s.name) ++
      headsOfSegments segments

def headsOfSegments : List Segment → List String
  | [] => []
  | s :: rest => s.heads ++ headsOfSegments rest

def Segment.heads : Segment → List String
  | .mk _ args => args.heads

def Arguments.heads : Arguments → List String
  | .angle _ args _ => headsOfArguments args
  | .signature spelling => headsOfSpelling spelling
  | .none => []

def headsOfArguments : List Argument → List String
  | [] => []
  | a :: rest => a.heads ++ headsOfArguments rest

def Argument.heads : Argument → List String
  | .lifetime _ => []
  | .type t => t.heads
  | .const _ => []
  | .binding segment t => segment.heads ++ t.heads
  | .constBinding segment _ => segment.heads
  | .constraint segment bounds _ => segment.heads ++ headsOfBounds bounds

def Bound.heads : Bound → List String
  | .lifetime _ => []
  | .trait _ _ path => path.heads
  | .verbatim _ => []

def headsOfBounds : List Bound → List String
  | [] => []
  | b :: rest => b.heads ++ headsOfBounds rest

end

/-! ## Code in a row -/

theorem stretches_ne_nil (cs : List Char) : stretches cs ≠ [] := by
  fun_cases stretches cs <;> simp

theorem stretches_append (cs ds : List Char) :
    stretches (cs ++ ' ' :: ds) = stretches cs ++ stretches ds := by
  fun_induction stretches cs with
  | case1 => rfl
  | case2 rest ih => rw [List.cons_append, stretches, ih, List.cons_append]
  | case3 c rest hblank hnil ih => exact absurd hnil (stretches_ne_nil rest)
  | case4 c rest hblank first more hrest ih =>
    rw [hrest, List.cons_append] at ih
    rw [List.cons_append, stretches, ih]
    · rfl
    · exact hblank

theorem code_append (first second : String) :
    code (first ++ " " ++ second) = code first ++ code second := by
  have htoList : (first ++ " " ++ second).toList = first.toList ++ ' ' :: second.toList := by
    simp
  rw [code, htoList, stretches_append, List.flatMap_append]
  rfl

theorem tokensOfTypes_eq_map (ts : List TypeExpr) : tokensOfTypes ts = ts.map TypeExpr.tokens := by
  induction ts with
  | nil => rfl
  | cons t rest ih => rw [tokensOfTypes, ih, List.map_cons]

/-! ## Code inside of code -/

/-- The tokens stand in a row somewhere in a piece of code, perhaps inside of groups. -/
inductive Occurs (ts : List Token) : List Token → Prop
  | here (front rest : List Token) : Occurs ts (front ++ ts ++ rest)
  | inside (front rest : List Token) {body : List Token} (d : Delimiter) (p : Option Position)
      (h : Occurs ts body) : Occurs ts (front ++ Token.group d body p :: rest)

namespace Occurs

variable {ts us : List Token}

theorem self : Occurs ts ts := by
  have hwhole : Occurs ts ([] ++ ts ++ []) := here [] []
  rwa [List.nil_append, List.append_nil] at hwhole

theorem append_left (front : List Token) (h : Occurs ts us) : Occurs ts (front ++ us) := by
  cases h with
  | here front' rest =>
    rw [List.append_assoc, ← List.append_assoc, ← List.append_assoc]
    exact here (front ++ front') rest
  | inside front' rest d p h =>
    rw [← List.append_assoc]
    exact inside (front ++ front') rest d p h

theorem append_right (rest : List Token) (h : Occurs ts us) : Occurs ts (us ++ rest) := by
  cases h with
  | here front rest' =>
    rw [List.append_assoc]
    exact here front (rest' ++ rest)
  | inside front rest' d p h =>
    rw [List.append_assoc, List.cons_append]
    exact inside front (rest' ++ rest) d p h

theorem trans {vs : List Token} (h : Occurs ts us) (h' : Occurs us vs) : Occurs ts vs := by
  induction h' with
  | here front rest => exact (h.append_left front).append_right rest
  | inside front rest d p _ ih => exact inside front rest d p ih

theorem paren (h : Occurs ts us) : Occurs ts (Token.paren us) := inside [] [] .paren none h

theorem brace (h : Occurs ts us) : Occurs ts (Token.brace us) := inside [] [] .brace none h

theorem flatMap {α : Type} {f : α → List Token} {xs : List α} {x : α} (hx : x ∈ xs)
    (h : Occurs ts (f x)) : Occurs ts (xs.flatMap f) := by
  obtain ⟨front, rest, rfl⟩ := List.append_of_mem hx
  rw [List.flatMap_append, List.flatMap_cons]
  exact (h.append_right _).append_left _

end Occurs

/-! ## The blocks of a dispatcher -/

/-- A block that is generic over one type. -/
structure BlockCode where
  /-- The word for the type. -/
  binder : String
  bounds : List Token
  /-- What the block is for. -/
  head : List Token
  body : List Token

namespace BlockCode

/-- The part of the block in which the word means the type. -/
def scope (b : BlockCode) : List Token := b.head ++ Token.brace b.body

def tokens (b : BlockCode) : List Token :=
  code "impl <" ++ codeWord b.binder ++ b.bounds ++ code ">" ++ b.scope

/-- A type stands in the block, and one of its paths means something else there. -/
def Captures (b : BlockCode) (t : TypeExpr) : Prop :=
  Occurs t.tokens b.scope ∧ plainName b.binder ∈ t.heads

end BlockCode

namespace Emission

variable (e : Emission)

/-- The type of the dispatcher, in which nothing of the declaration is mentioned. -/
def dispatcherStruct : List Token :=
  codeDoc ("Delivers envelopes addressed to [`" ++ e.interface ++ "`] to a receiver.") ++
    e.visibility.tokens ++ code "struct" ++ codeWord e.dispatcher ++ receiverParam ++
    Token.brace (code "receiver :" ++ e.receiverHandle ++ code ",")

/-- The functions of the dispatcher, and its part in the runtime library. -/
def dispatcherBlocks : List BlockCode :=
  [⟨receiverWord, code ": ? Sized", e.dispatcherType, e.dispatcherFunctions ++ e.dispatcherMembers⟩,
    ⟨receiverWord, [], e.library ["Dispatch"] ++ code "for" ++ e.dispatcherType ++ code "where" ++
      e.bounds ++ code ",", e.dispatchFunction⟩]

theorem dispatcherCode_eq : e.dispatcherCode =
    e.dispatcherStruct ++ e.dispatcherBlocks.flatMap BlockCode.tokens := by
  have himpl : code "impl <" = code "impl" ++ code "<" := code_append "impl" "<"
  have hparam : code "<" ++ codeWord receiverWord ++ code ": ? Sized" ++ code ">" =
      receiverParam := by
    have hbounds : code ": ? Sized >" = code ": ? Sized" ++ code ">" := code_append ": ? Sized" ">"
    rw [receiverParam, hbounds, List.append_assoc]
  have hfirst : (⟨receiverWord, code ": ? Sized", e.dispatcherType,
      e.dispatcherFunctions ++ e.dispatcherMembers⟩ : BlockCode).tokens =
        code "impl" ++ receiverParam ++ e.dispatcherType ++
          Token.brace (e.dispatcherFunctions ++ e.dispatcherMembers) := by
    rw [BlockCode.tokens, himpl, ← hparam]
    simp only [BlockCode.scope, List.append_assoc]
  rw [dispatcherBlocks, List.flatMap_cons, List.flatMap_singleton, hfirst]
  unfold dispatcherCode dispatcherStruct dispatcherFunctions BlockCode.tokens BlockCode.scope
  simp only [List.append_assoc, List.nil_append]

variable {e} {m : MethodCode}

theorem plainName_binder {b : BlockCode} (hb : b ∈ e.dispatcherBlocks) :
    b.binder = receiverWord ∧ plainName b.binder = receiverWord := by
  have hbinder : b.binder = receiverWord := by
    rw [dispatcherBlocks, List.mem_cons, List.mem_singleton] at hb
    rcases hb with rfl | rfl <;> rfl
  have hplain : plainName receiverWord = receiverWord := by decide
  exact ⟨hbinder, hbinder ▸ hplain⟩

theorem occurs_tuple {p : ParamCode} (hp : p ∈ m.params) : Occurs p.type.tokens m.tuple.tokens := by
  have hitem : p.type.tokens ∈ tokensOfTypes (m.params.map ParamCode.type) := by
    rw [tokensOfTypes_eq_map]
    exact List.mem_map_of_mem (List.mem_map_of_mem hp)
  rw [MethodCode.tuple, TypeExpr.tokens, commaSeparated_true]
  exact (Occurs.flatMap (f := fun item => item ++ code ",") hitem (Occurs.self.append_right _)).paren

theorem occurs_unmarshal (m : MethodCode) : Occurs m.tuple.tokens (e.unmarshal m) := by
  unfold unmarshal
  exact ((((Occurs.self.append_left _).append_right _).append_right _).append_right _).append_right _

theorem occurs_receive (ht : e.transport = .sameProcess) (hm : m.params ≠ []) :
    Occurs m.tuple.tokens (e.receive m) := by
  have hsome : m.params.isEmpty = false := List.isEmpty_eq_false_iff.2 hm
  simp only [receive, hsome, ht, Bool.false_eq_true, if_false]
  exact (((Occurs.self.append_left _).append_right _).append_right _).append_right _

theorem occurs_dispatchFunction (hm : m ∈ e.methods) :
    Occurs (e.receive m) e.dispatchFunction := by
  have harm : Occurs (e.receive m) (e.arm m) := (Occurs.self.append_left _).append_right _
  unfold dispatchFunction
  refine Occurs.append_left _ (Occurs.brace (Occurs.append_left _ ?_))
  exact (((((Occurs.flatMap hm harm).append_right _).append_right _).append_right _).append_right _).brace

/-- The types of all parameters stand in a block of the dispatcher. -/
theorem exists_block_of_param {p : ParamCode} (hm : m ∈ e.methods) (hp : p ∈ m.params) :
    ∃ b ∈ e.dispatcherBlocks, Occurs p.type.tokens b.scope := by
  have hsome : m.params ≠ [] := List.ne_nil_of_mem hp
  cases ht : e.transport with
  | sameProcess =>
    refine ⟨_, List.mem_cons_of_mem _ List.mem_cons_self, Occurs.append_left _ (Occurs.brace ?_)⟩
    exact (occurs_tuple hp).trans ((occurs_receive ht hsome).trans (occurs_dispatchFunction hm))
  | crossProcess =>
    have hcarrying : m ∈ e.methods.filter fun m => !m.params.isEmpty := by
      simp [hm, hsome]
    refine ⟨_, List.mem_cons_self, Occurs.append_left _ (Occurs.brace (Occurs.append_left _ ?_))⟩
    rw [dispatcherMembers, ht]
    exact Occurs.flatMap hcarrying ((occurs_tuple hp).trans (occurs_unmarshal m))

/-- The trait stands in a block of the dispatcher. -/
theorem exists_block_of_trait (e : Emission) :
    ∃ b ∈ e.dispatcherBlocks, Occurs (codeWord e.trait) b.scope := by
  refine ⟨_, List.mem_cons_of_mem _ List.mem_cons_self, Occurs.append_right _ ?_⟩
  have hbounds : Occurs (codeWord e.trait) e.bounds := (Occurs.self.append_left _).append_right _
  exact (hbounds.append_left _).append_right _

end Emission

/-! ## Declarations -/

/-- What a dispatcher has from an interface: its trait, given the word for it, and the types of all
parameters. -/
def Declared.Interface.mentioned (i : Interface) (runtime : PathExpr) (trait : String) :
    List TypeExpr :=
  .path (.ofNames false [trait]) ::
    i.methods.flatMap fun m => m.params.map (Param.codeType runtime)

namespace Declaration

variable {runtime : PathExpr} {d : Declaration} {i : Declared.Interface} {o : Generated}

theorem exists_block_of_mentioned (hcontent : d.content = .interface i)
    (h : d.generate runtime = .accepted o) : ∀ t ∈ i.mentioned runtime o.emission.trait,
      ∃ b ∈ o.emission.dispatcherBlocks, Occurs t.tokens b.scope := by
  rw [Declared.Interface.mentioned, List.forall_mem_cons, List.forall_mem_flatMap]
  refine ⟨o.emission.exists_block_of_trait, fun m hm => ?_⟩
  rw [← i.map_snd_numbered] at hm
  obtain ⟨⟨id, _⟩, hnumbered, rfl⟩ := List.mem_map.1 hm
  obtain ⟨k, hk⟩ := List.mem_iff_getElem?.1 hnumbered
  obtain ⟨c, hc, hcode⟩ := exists_getElem?_of_forall₂ (codes_of_accepted hcontent h) hk
  rw [← hcode.types, List.forall_mem_map]
  exact fun p hp => Emission.exists_block_of_param (List.mem_of_getElem? hc) hp

/-- The dispatcher of an accepted interface consists of a type and of two blocks with one and the
same word for the type of the receiver.  The blocks have in them all that is taken from the
interface.  Some of it means something else there if and only if that word starts a path in it. -/
theorem captures_iff (hcontent : d.content = .interface i)
    (h : d.generate runtime = .accepted o) :
    Source.readName i.name = .ok o.emission.trait ∧
    o.emission.dispatcherCode =
      o.emission.dispatcherStruct ++ o.emission.dispatcherBlocks.flatMap BlockCode.tokens ∧
    (∀ b ∈ o.emission.dispatcherBlocks, b.binder = Emission.receiverWord) ∧
    (∀ t ∈ i.mentioned runtime o.emission.trait,
      ∃ b ∈ o.emission.dispatcherBlocks, Occurs t.tokens b.scope) ∧
    ((∃ b ∈ o.emission.dispatcherBlocks, ∃ t ∈ i.mentioned runtime o.emission.trait,
        b.Captures t) ↔
      ∃ t ∈ i.mentioned runtime o.emission.trait, Emission.receiverWord ∈ t.heads) := by
  have hblock := exists_block_of_mentioned hcontent h
  obtain ⟨-, -, -, -, htrait⟩ := emission_of_accepted hcontent h
  refine ⟨htrait, o.emission.dispatcherCode_eq, fun b hb => (Emission.plainName_binder hb).1,
    hblock, ?_⟩
  constructor
  · rintro ⟨b, hb, t, ht, -, hhead⟩
    rw [(Emission.plainName_binder hb).2] at hhead
    exact ⟨t, ht, hhead⟩
  · rintro ⟨t, ht, hhead⟩
    obtain ⟨b, hb, hoccurs⟩ := hblock t ht
    exact ⟨b, hb, t, ht, hoccurs, (Emission.plainName_binder hb).2 ▸ hhead⟩

end Declaration

namespace Sample

/-- An interface whose one method takes a value of a type that goes by a single word. -/
def passing (type : String) : Declared.Interface where
  name := "Pass"
  visibility := .inherited
  methods := [⟨"pass", [⟨"item", .named type .none, some (.path (.ofNames false [type])), none,
    none⟩], none, none, none⟩]
  isGeneric := false
  otherItems := []
  position := none

end Sample

namespace Declaration

open Sample

theorem accepted_passing : ∀ type ∈ ["Parcel", "R"],
    ((ofInterface (passing type) .sameProcess).generate defaultRuntime).output?.map
      (fun o => o.emission.trait) = some "Pass" := by
  decide +kernel

theorem captures_iff_parcel :
    ∃ o, (ofInterface (passing "Parcel") .sameProcess).generate defaultRuntime = .accepted o ∧
      ¬ ∃ b ∈ o.emission.dispatcherBlocks,
        ∃ t ∈ (passing "Parcel").mentioned defaultRuntime o.emission.trait, b.Captures t := by
  obtain ⟨o, ho, htrait⟩ := Option.map_eq_some_iff.1 (accepted_passing "Parcel" (by decide))
  rw [Generation.output?_eq_some] at ho
  refine ⟨o, ho, ?_⟩
  obtain ⟨-, -, -, -, hcaptures⟩ := captures_iff rfl ho
  have hheads : ∀ t ∈ (passing "Parcel").mentioned defaultRuntime "Pass",
      Emission.receiverWord ∉ t.heads := by
    change ∀ t ∈ [TypeExpr.path (.ofNames false ["Pass"]), .path (.ofNames false ["Parcel"])], _
    simp only [List.forall_mem_cons]
    decide
  rw [hcaptures, htrait]
  rintro ⟨t, ht, hhead⟩
  exact hheads t ht hhead

/-- A type that is called like the type of a receiver is captured. -/
theorem captured_receiver :
    ∃ o, (ofInterface (passing "R") .sameProcess).generate defaultRuntime = .accepted o ∧
      ∃ b ∈ o.emission.dispatcherBlocks,
        ∃ t ∈ (passing "R").mentioned defaultRuntime o.emission.trait, b.Captures t := by
  obtain ⟨o, ho, -⟩ := Option.map_eq_some_iff.1 (accepted_passing "R" (by decide))
  rw [Generation.output?_eq_some] at ho
  have hmentioned : TypeExpr.path (.ofNames false ["R"]) ∈
      (passing "R").mentioned defaultRuntime o.emission.trait :=
    List.mem_cons_of_mem _ List.mem_cons_self
  obtain ⟨b, hb, hoccurs⟩ := exists_block_of_mentioned rfl ho _ hmentioned
  refine ⟨o, ho, b, hb, _, hmentioned, hoccurs, ?_⟩
  rw [(Emission.plainName_binder hb).2]
  decide

end Declaration

end Relay
