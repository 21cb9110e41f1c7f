import Relay.Interface.Description

/-!
# Types written in another way

The same type can be written in several ways: in parentheses or without, with the whole path of a
name or with its end.  To take a way of writing out of a type, all types and paths in it are
rewritten, those inside first.

A description looks at one segment only, the last one of a path, and goes into the arguments of that
segment only if they are those of a container.  So two descriptions are compared by their last
segments: `Segment.describe_related` takes a relation from what is under the two segments to their
descriptors, whatever is listed.
-/

namespace Relay

/-! ## Rewriting -/

/-- What becomes of a type and of a path after everything inside was rewritten, and of what is kept
as tokens. -/
structure Rewriting where
  type : TypeExpr → TypeExpr
  path : PathExpr → PathExpr
  spelling : List Token → List Token

mutual

/-- The type with all types and paths in it rewritten, those inside first. -/
def TypeExpr.rewrite (w : Rewriting) : TypeExpr → TypeExpr
  | .path p => w.type (.path (p.rewrite w))
  | .qualified self rest => w.type (.qualified (self.rewrite w) (rewriteSegments w rest))
  | .projected self via rest =>
    w.type (.projected (self.rewrite w) (via.rewrite w) (rewriteSegments w rest))
  | .reference lifetime isMut elem => w.type (.reference lifetime isMut (elem.rewrite w))
  | .pointer isMut elem => w.type (.pointer isMut (elem.rewrite w))
  | .slice elem => w.type (.slice (elem.rewrite w))
  | .array elem length => w.type (.array (elem.rewrite w) (w.spelling length))
  | .tuple elems trailing => w.type (.tuple (rewriteTypes w elems) trailing)
  | .paren elem => w.type (.paren (elem.rewrite w))
  | .group elem => w.type (.group (elem.rewrite w))
  | .function spelling => w.type (.function (w.spelling spelling))
  | .object isMarked bounds trailing =>
    w.type (.object isMarked (rewriteBounds w bounds) trailing)
  | .implement bounds trailing => w.type (.implement (rewriteBounds w bounds) trailing)
  | .never => w.type .never
  | .infer => w.type .infer
  | .invocation path body => w.type (.invocation (path.rewrite w) body)
  | .verbatim spelling => w.type (.verbatim (w.spelling spelling))

def rewriteTypes (w : Rewriting) : List TypeExpr → List TypeExpr
  | [] => []
  | t :: rest => t.rewrite w :: rewriteTypes w rest

def PathExpr.rewrite (w : Rewriting) : PathExpr → PathExpr
  | .mk rooted segments => w.path (.mk rooted (rewriteSegments w segments))

def rewriteSegments (w : Rewriting) : List Segment → List Segment
  | [] => []
  | s :: rest => s.rewrite w :: rewriteSegments w rest

def Segment.rewrite (w : Rewriting) : Segment → Segment
  | .mk name args => .mk name (args.rewrite w)

def Arguments.rewrite (w : Rewriting) : Arguments → Arguments
  | .none => .none
  | .angle turbofish args trailing => .angle turbofish (rewriteArguments w args) trailing
  | .signature spelling => .signature (w.spelling spelling)

def rewriteArguments (w : Rewriting) : List Argument → List Argument
  | [] => []
  | a :: rest => a.rewrite w :: rewriteArguments w rest

def Argument.rewrite (w : Rewriting) : Argument → Argument
  | .lifetime name => .lifetime name
  | .type t => .type (t.rewrite w)
  | .const spelling => .const (w.spelling spelling)
  | .binding segment t => .binding (segment.rewrite w) (t.rewrite w)
  | .constBinding segment spelling => .constBinding (segment.rewrite w) (w.spelling spelling)
  | .constraint segment bounds trailing =>
    .constraint (segment.rewrite w) (rewriteBounds w bounds) trailing

def Bound.rewrite (w : Rewriting) : Bound → Bound
  | .lifetime name => .lifetime name
  | .trait inParens head path => .trait inParens (w.spelling head) (path.rewrite w)
  | .verbatim spelling => .verbatim (w.spelling spelling)

def rewriteBounds (w : Rewriting) : List Bound → List Bound
  | [] => []
  | b :: rest => b.rewrite w :: rewriteBounds w rest

end

theorem rewriteSegments_eq_map (w : Rewriting) (segments : List Segment) :
    rewriteSegments w segments = segments.map (Segment.rewrite w) := by
  induction segments with
  | nil => rfl
  | cons s rest ih => rw [rewriteSegments, ih, List.map_cons]

theorem Arguments.isNone_rewrite (w : Rewriting) (args : Arguments) :
    (args.rewrite w).isNone = args.isNone := by
  cases args <;> rfl

/-! ## The end of a path -/

theorem describeLast_eq (known : KnownTypes) (whole : PathExpr) (segments : List Segment) :
    describeLast known whole segments =
      match segments.getLast? with
      | some s => s.describe known whole
      | none => .other whole.text := by
  induction segments with
  | nil => rfl
  | cons s rest ih =>
    cases rest with
    | nil => rfl
    | cons s' rest => rw [describeLast, ih, List.getLast?_cons_cons]

theorem PathExpr.describe_eq (known : KnownTypes) (rooted : Bool) (segments : List Segment) :
    (mk rooted segments).describe known =
      match segments.getLast? with
      | some s => s.describe known (mk rooted segments)
      | none => .other (mk rooted segments).text :=
  describeLast_eq known _ segments

/-! ## The types under a segment -/

def TypeExpr.isInfer : TypeExpr → Bool
  | .infer => true
  | _ => false

/-- The element type of a slice. -/
def TypeExpr.slice? : TypeExpr → Option TypeExpr
  | .slice elem => some elem
  | _ => none

/-- The type that is the only argument. -/
def Arguments.only? : Arguments → Option TypeExpr
  | .angle _ [.type t] _ => some t
  | _ => .none

theorem Arguments.only?_rewrite (w : Rewriting) (args : Arguments) :
    (args.rewrite w).only? = args.only?.map (TypeExpr.rewrite w) := by
  rcases args with _ | ⟨turbofish, _ | ⟨a, _ | ⟨a', rest⟩⟩, trailing⟩ | spelling
  case angle.cons.nil | angle.cons.cons => cases a <;> rfl
  all_goals rfl

theorem Arguments.describeSlice?_eq (known : KnownTypes) (args : Arguments) :
    args.describeSlice? known =
      (args.only?.bind TypeExpr.slice?).map fun elem => .array (elem.describe known) := by
  unfold describeSlice?
  split
  · rfl
  · next hslice =>
    symm
    rw [Option.map_eq_none_iff, Option.bind_eq_none_iff]
    intro t ht
    unfold only? at ht
    split at ht
    · cases ht
      cases t with
      | slice elem => exact absurd rfl (hslice _ _ _)
      | _ => rfl
    · cases ht

theorem describeArguments_type (known : KnownTypes) (t : TypeExpr) (rest : List Argument) :
    describeArguments known (.type t :: rest) =
      if t.isInfer then describeArguments known rest
      else t.describe known :: describeArguments known rest := by
  cases t <;> rfl

/-! ## The segment that is described -/

/-- The descriptors that say all there is to say about a type. -/
def TypeDesc.isFixed : TypeDesc → Bool
  | .scalar _ | .text | .charSeq | .handle | .size | .sizeF => true
  | _ => false

/-- What relates the descriptors of what is under two segments of one name relates those of
the segments. -/
theorem Segment.describe_related {R : TypeDesc → TypeDesc → Prop} {known known' : KnownTypes}
    {name : String} {args args' : Arguments} {whole whole' : PathExpr}
    (hconformance : known.conformance name = known'.conformance name)
    (hnone : args.isNone = args'.isNone)
    (hnamed : ∀ c, R (.named whole.name c) (.named whole'.name c))
    (hfixed : ∀ d : TypeDesc, d.isFixed = true → R d d)
    (hlist : known.conformance name = .none → name = "Vec" →
      R (.list (args.describeTypes known)) (.list (args'.describeTypes known')))
    (hsparse : known.conformance name = .none → name = "SparseMap" →
      R (.sparseMap (args.describeTypes known)) (.sparseMap (args'.describeTypes known')))
    (hmap : known.conformance name = .none → name = "HashMap" ∨ name = "BTreeMap" →
      R (.map (args.describeTypes known)) (.map (args'.describeTypes known')))
    (hbox : known.conformance name = .none → name = "Box" →
      R ((args.describeSlice? known).getD (.other whole.text))
        ((args'.describeSlice? known').getD (.other whole'.text))) :
    R ((Segment.mk name args).describe known whole)
      ((Segment.mk name args').describe known' whole') := by
  unfold Segment.describe
  rw [← hconformance, ← hnone]
  split
  · exact hnamed _
  · next hlisted =>
    have hunlisted := Decidable.not_not.1 hlisted
    split
    · exact hfixed _ rfl
    · split
      case h_1 | h_2 | h_3 | h_4 | h_5 => exact hfixed _ rfl
      case h_6 => exact hlist hunlisted rfl
      case h_7 => exact hsparse hunlisted rfl
      case h_8 => exact hmap hunlisted (.inl rfl)
      case h_9 => exact hmap hunlisted (.inr rfl)
      case h_10 => exact hbox hunlisted rfl
      case h_11 => exact hnamed _

namespace Segment

variable {known : KnownTypes} {args : Arguments} {whole : PathExpr}

theorem describe_listed {name : String} (h : known.conformance name ≠ .none) :
    (mk name args).describe known whole = .named whole.name (known.conformance name) := by
  unfold describe
  exact if_pos h

theorem describe_list (h : known.conformance "Vec" = .none) :
    (mk "Vec" args).describe known whole = .list (args.describeTypes known) := by
  have hscalar : ScalarKind.ofSourceName? "Vec" = none := by decide
  rw [describe, h, hscalar]
  cases args.isNone <;> rfl

theorem describe_sparseMap (h : known.conformance "SparseMap" = .none) :
    (mk "SparseMap" args).describe known whole = .sparseMap (args.describeTypes known) := by
  have hscalar : ScalarKind.ofSourceName? "SparseMap" = none := by decide
  rw [describe, h, hscalar]
  cases args.isNone <;> rfl

theorem describe_map {name : String} (hname : name = "HashMap" ∨ name = "BTreeMap")
    (h : known.conformance name = .none) :
    (mk name args).describe known whole = .map (args.describeTypes known) := by
  have hscalar : ScalarKind.ofSourceName? name = none := by
    rcases hname with rfl | rfl <;> decide
  unfold describe
  rw [h, hscalar]
  rcases hname with rfl | rfl <;> cases args.isNone <;> rfl

theorem describe_box (h : known.conformance "Box" = .none) :
    (mk "Box" args).describe known whole =
      (args.describeSlice? known).getD (.other whole.text) := by
  have hscalar : ScalarKind.ofSourceName? "Box" = none := by decide
  rw [describe, h, hscalar]
  cases args.isNone <;> rfl

end Segment

end Relay
