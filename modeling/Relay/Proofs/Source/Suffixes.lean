import Mathlib.Data.List.Infix
import Relay.Source.Reading

/-!
# What parsers leave

A parser of the grammar leaves an end of the tokens that it was given: it only uses up tokens from
the front.  What is known of all tokens of a text is so known of the tokens at any point of the
reading.

That a parser does this is a class, so that it is found for a parser that is put together from
others.  The inside of a group is never left half-read, so nothing is asked of its parser.
-/

namespace Relay.Parser

variable {α β : Type}

/-- What a parser leaves is an end of what it was given. -/
class Drops (p : Parser α) : Prop where
  suffix : ∀ ts x rest, p ts = some (x, rest) → rest <:+ ts

/-! ## Parsers that are put together -/

section Combined

variable {p q : Parser α} {f : α → Parser β} {test : List Token → Bool} {text : String}

instance (x : α) : Drops (pure x : Parser α) where
  suffix := by
    intro ts y rest h
    cases h
    exact List.suffix_rfl

instance [Drops p] [hf : ∀ x, Drops (f x)] : Drops (p >>= f) where
  suffix := by
    intro ts y rest h
    obtain ⟨⟨x, mid⟩, hx, hy⟩ := Option.bind_eq_some_iff.1 h
    exact ((hf x).suffix mid y rest hy).trans (Drops.suffix ts x mid hx)

theorem Drops.bind (hp : Drops p) (hf : ∀ x, Drops (f x)) : Drops (p >>= f) := inferInstance

instance {c : Prop} [Decidable c] [Drops p] [Drops q] : Drops (if c then p else q) := by
  split <;> infer_instance

instance [Drops p] : Drops (discard p) where
  suffix := by
    intro ts y rest h
    obtain ⟨⟨x, mid⟩, hx, hy⟩ := Option.bind_eq_some_iff.1 h
    cases hy
    exact Drops.suffix ts x rest hx

/-! ## Single tokens -/

instance : Drops (refuse : Parser α) where
  suffix := nofun

instance : Drops (get : Parser (List Token)) where
  suffix := by
    intro ts x rest h
    cases h
    exact List.suffix_rfl

/-- A parser that looks at the tokens itself. -/
theorem Drops.of_get {k : List Token → Parser α}
    (h : ∀ ts x rest, k ts ts = some (x, rest) → rest <:+ ts) : Drops (get >>= k) := ⟨h⟩

instance : Drops (sees test) := by
  unfold sees
  infer_instance

theorem Drops.unless (hq : Drops q) [Drops p] :
    Drops (do if ← (sees test) then p else q) := inferInstance

instance : Drops (expect test) := by
  unfold expect
  infer_instance

theorem dropOperator_suffix (cs : List Char) (ts : List Token) : dropOperator cs ts <:+ ts := by
  induction cs generalizing ts with
  | nil => exact List.suffix_rfl
  | cons c cs ih =>
    cases ts with
    | nil => exact List.suffix_rfl
    | cons t rest => exact (ih rest).trans (List.suffix_cons t rest)

instance : Drops (operator text) where
  suffix := by
    intro ts x rest h
    unfold operator at h
    split at h
    · cases h
      exact dropOperator_suffix _ ts
    · cases h

instance : Drops (operator? text) where
  suffix := by
    intro ts x rest h
    unfold operator? at h
    split at h
    · cases h
      exact dropOperator_suffix _ ts
    · cases h
      exact List.suffix_rfl

instance : Drops (keyword text) where
  suffix := by
    intro ts x rest h
    unfold keyword at h
    split at h
    · cases h
      exact List.tail_suffix ts
    · cases h

instance : Drops (keyword? text) where
  suffix := by
    intro ts x rest h
    unfold keyword? at h
    split at h
    · cases h
      exact List.tail_suffix ts
    · cases h
      exact List.suffix_rfl

instance : Drops anyWord where
  suffix := by
    intro ts x rest h
    unfold anyWord at h
    split at h
    · cases h
      exact List.suffix_cons _ _
    · cases h

instance : Drops placedName where
  suffix := by
    intro ts x rest h
    unfold placedName at h
    split at h
    · split at h
      · cases h
        exact List.suffix_cons _ _
      · cases h
    · cases h

instance : Drops name := by
  unfold name
  infer_instance

instance : Drops lifetime where
  suffix := by
    intro ts x rest h
    unfold lifetime at h
    split at h
    · cases h
      exact (List.suffix_cons _ _).trans (List.suffix_cons _ _)
    · cases h

instance : Drops lifetime? := by
  unfold lifetime?
  infer_instance

instance (d : Delimiter) (body : Parser α) : Drops (inGroup d body) where
  suffix := by
    intro ts x rest h
    unfold inGroup at h
    split at h
    · split at h
      · split at h
        · cases h
          exact List.suffix_cons _ _
        · cases h
      · cases h
    · cases h

instance : Drops anyGroup where
  suffix := by
    intro ts x rest h
    unfold anyGroup at h
    split at h
    · split at h
      · cases h
      · cases h
        exact List.suffix_cons _ _
    · cases h

instance : Drops anyToken where
  suffix := by
    intro ts x rest h
    unfold anyToken at h
    split at h
    · cases h
      exact List.suffix_cons _ _
    · cases h

instance : Drops position := by
  unfold position
  infer_instance

/-! ## Repetition -/

instance [Drops p] (limit : Nat) : Drops (whileUpTo test p limit) := by
  induction limit with
  | zero =>
    unfold whileUpTo
    infer_instance
  | succ limit ih =>
    unfold whileUpTo
    infer_instance

instance [Drops p] : Drops (repeatWhile test p) := by
  unfold repeatWhile
  infer_instance

instance [Drops p] (limit : Nat) (trailing : Bool) :
    Drops (rowUntilUpTo test text p limit trailing) := by
  induction limit generalizing trailing with
  | zero =>
    unfold rowUntilUpTo
    infer_instance
  | succ limit ih =>
    unfold rowUntilUpTo
    infer_instance

instance [Drops p] : Drops (rowUntil test text p) := by
  unfold rowUntil
  infer_instance

instance [Drops p] (limit : Nat) (trailing : Bool) :
    Drops (rowWhileUpTo test text p limit trailing) := by
  induction limit generalizing trailing with
  | zero =>
    unfold rowWhileUpTo
    infer_instance
  | succ limit ih =>
    unfold rowWhileUpTo
    infer_instance

instance [Drops p] : Drops (rowWhile test text p) := by
  unfold rowWhile
  infer_instance

instance [Drops p] : Drops (commaRow p) := by
  unfold commaRow
  infer_instance

/-! ## Spelling -/

instance : Drops (spellOperator text) := by
  unfold spellOperator
  infer_instance

instance : Drops (spellOperator? text) := by
  unfold spellOperator?
  infer_instance

instance : Drops (spellKeyword text) := by
  unfold spellKeyword
  infer_instance

instance : Drops (spellKeyword? text) := by
  unfold spellKeyword?
  infer_instance

instance : Drops spellName := by
  unfold spellName
  infer_instance

instance : Drops spellWord := by
  unfold spellWord
  infer_instance

instance : Drops spellLifetime? := by
  unfold spellLifetime?
  infer_instance

instance : Drops spellLiteral := by
  unfold spellLiteral
  refine .bind inferInstance fun _ => .bind inferInstance fun t => ?_
  split <;> infer_instance

instance (d : Delimiter) (body : Speller) : Drops (spellGroup d body) := by
  unfold spellGroup
  infer_instance

end Combined

end Relay.Parser

namespace Relay.Grammar

open Relay.Parser

-- Parsers with many branches are found by searches whose results are counted branch by branch.
set_option synthInstance.maxSize 1000000

variable (g : Grammar)

/-- What the readers of a grammar leave is an end of what they were given. -/
class Drops (g : Grammar) : Prop where
  type : ∀ plus, Parser.Drops (g.type plus)
  expression : ∀ structs, Parser.Drops (g.expression structs)
  operand : ∀ structs, Parser.Drops (g.operand structs)
  pattern : Parser.Drops g.pattern

attribute [instance] Drops.type Drops.expression Drops.operand Drops.pattern

variable [g.Drops]

/-! ## Types -/

instance : Parser.Drops simplePath := by
  unfold simplePath
  infer_instance

instance : Parser.Drops g.outerAttributes := by
  unfold outerAttributes
  infer_instance

instance : Parser.Drops g.innerAttributes := by
  unfold innerAttributes
  infer_instance

instance : Parser.Drops g.block := by
  unfold block
  infer_instance

instance : Parser.Drops g.constArgument := by
  unfold constArgument
  infer_instance

section Angle

variable {angle : Parser Arguments} [Parser.Drops angle]

instance (inExpression : Bool) : Parser.Drops (segmentWith angle inExpression) := by
  dsimp only [segmentWith]
  infer_instance

instance (inExpression : Bool) : Parser.Drops (pathWith angle inExpression) := by
  unfold pathWith
  infer_instance

end Angle

instance : Parser.Drops g.binder := by
  dsimp only [binder]
  infer_instance

instance (plus : Bool) : Parser.Drops (g.returnType plus) := by
  unfold returnType
  infer_instance

instance : Parser.Drops g.spellReturn := by
  unfold spellReturn
  refine .bind inferInstance fun t => ?_
  cases t <;> infer_instance

instance : Parser.Drops g.signatureArgs := by
  unfold signatureArgs
  infer_instance

section Angle

variable {angle : Parser Arguments} [Parser.Drops angle]

instance (inParens : Bool) : Parser.Drops (g.traitBoundWith angle inParens) := by
  dsimp only [traitBoundWith]
  repeat' first | infer_instance | refine .bind inferInstance fun _ => ?_ | split

instance (captures : Bool) : Parser.Drops (g.boundWith angle captures) := by
  unfold boundWith
  infer_instance

instance : Parser.Drops (g.argumentWith angle) := by
  unfold argumentWith
  repeat' first | infer_instance | refine .bind inferInstance fun _ => ?_ | split

end Angle

instance (levels : Nat) : Parser.Drops (g.angleUpTo levels) := by
  induction levels with
  | zero =>
    unfold angleUpTo
    infer_instance
  | succ levels ih =>
    unfold angleUpTo
    infer_instance

instance : Parser.Drops g.angle := by
  unfold angle
  infer_instance

instance (inExpression : Bool) : Parser.Drops (g.path inExpression) := by
  unfold path
  infer_instance

instance (inExpression : Bool) : Parser.Drops (g.segment inExpression) := by
  unfold segment
  infer_instance

instance (captures : Bool) : Parser.Drops (g.bound captures) := by
  unfold bound
  infer_instance

instance (inExpression : Bool) : Parser.Drops (g.typePath inExpression) := by
  dsimp only [typePath]
  repeat' first | infer_instance | refine .bind inferInstance fun _ => ?_ | split

instance (plus captures : Bool) : Parser.Drops (g.objectBounds plus captures) := by
  dsimp only [objectBounds]
  infer_instance

instance : Parser.Drops g.moreBounds := by
  unfold moreBounds
  infer_instance

instance : Parser.Drops abi := by
  unfold abi
  infer_instance

instance (binder : List Token) : Parser.Drops (g.functionPointer binder) := by
  unfold functionPointer
  infer_instance

instance (plus : Bool) : Parser.Drops (g.parenType plus) := by
  unfold parenType
  repeat' first | infer_instance | refine .bind inferInstance fun _ => ?_ | split

instance (binder : List Token) (plus : Bool) : Parser.Drops (g.pathType binder plus) := by
  unfold pathType
  refine .bind inferInstance fun t => ?_
  split <;> infer_instance

instance (plus : Bool) : Parser.Drops (g.typeForm plus) := by
  unfold typeForm
  infer_instance

/-! ## Patterns -/

instance : Parser.Drops g.alternatives := by
  dsimp only [alternatives]
  infer_instance

instance : Parser.Drops g.rangeEnd := by
  dsimp only [rangeEnd]
  infer_instance

instance (threeDots : Bool) : Parser.Drops ((rangeOperator threeDots)) := by
  dsimp only [rangeOperator]
  infer_instance

instance (first : List Token) : Parser.Drops (g.rangeFrom first) := by
  unfold rangeFrom
  infer_instance

instance : Parser.Drops g.rangeTo := by
  unfold rangeTo
  infer_instance

instance : Parser.Drops g.pathPattern := by
  unfold pathPattern
  refine .bind inferInstance fun p => .bind inferInstance fun isMacro => ?_
  split <;> infer_instance

instance : Parser.Drops g.namePattern := by
  dsimp only [namePattern]
  infer_instance

instance : Parser.Drops g.patternForm := by
  dsimp only [patternForm]
  infer_instance

/-! ## Expressions -/

instance : Parser.Drops g.trailer := by
  unfold trailer
  refine .unless (.unless (.unless (.bind inferInstance fun dot => .of_get fun ts x rest h => ?_)))
  split at h
  · split at h
    · cases h
      exact List.suffix_cons _ _
    · cases h
  · exact Parser.Drops.suffix ts x rest h

instance : Parser.Drops g.trailers := by
  dsimp only [trailers]
  infer_instance

instance : Parser.Drops g.closureParam := by
  dsimp only [closureParam]
  infer_instance

instance (structs : Bool) : Parser.Drops (g.closure structs) := by
  dsimp only [closure]
  repeat' first | infer_instance | refine .bind inferInstance fun _ => ?_ | split

instance (structs : Bool) : Parser.Drops (g.pathOperand structs) := by
  unfold pathOperand
  refine .bind inferInstance fun p => .bind inferInstance fun isMacro => ?_
  split <;> infer_instance

instance : Parser.Drops g.branch := by
  dsimp only [branch]
  infer_instance

instance : Parser.Drops g.conditional := by
  dsimp only [conditional]
  infer_instance

instance : Parser.Drops g.blockForm := by
  dsimp only [blockForm]
  infer_instance

instance (structs : Bool) : Parser.Drops (g.leave structs) := by
  dsimp only [leave]
  infer_instance

instance (structs : Bool) : Parser.Drops (g.atom structs) := by
  dsimp only [atom]
  infer_instance

instance (structs : Bool) : Parser.Drops (g.operandForm structs) := by
  dsimp only [operandForm]
  infer_instance

instance (structs : Bool) (limit : Nat) (ranged compared : Bool) :
    Parser.Drops (g.chainUpTo structs limit ranged compared) := by
  induction limit generalizing ranged compared with
  | zero =>
    unfold chainUpTo
    infer_instance
  | succ limit ih =>
    dsimp only [chainUpTo]
    repeat' first | infer_instance | refine .bind inferInstance fun _ => ?_ | split

instance (structs ranged : Bool) : Parser.Drops (g.chain structs ranged) := by
  dsimp only [chain]
  infer_instance

instance (structs : Bool) : Parser.Drops (g.expressionForm structs) := by
  dsimp only [expressionForm]
  infer_instance

/-! ## Items -/

instance : Parser.Drops g.genericParam := by
  dsimp only [genericParam]
  infer_instance

instance : Parser.Drops g.generics := by
  dsimp only [generics]
  infer_instance

instance : Parser.Drops g.condition := by
  dsimp only [condition]
  infer_instance

instance : Parser.Drops g.conditions := by
  dsimp only [conditions]
  infer_instance

instance : Parser.Drops visibility := by
  unfold visibility
  refine .bind inferInstance fun isPublic => ?_
  split
  · refine .of_get fun ts x rest h => ?_
    split at h
    · split at h
      · cases h
        exact List.suffix_cons _ _
      · cases h
        exact List.suffix_rfl
    · next path _ _ _ =>
      cases hpath : whole? simplePath path with
      | some p =>
        rw [hpath] at h
        cases h
        exact List.suffix_cons _ _
      | none =>
        rw [hpath] at h
        cases h
    · cases h
      exact List.suffix_rfl
  · infer_instance

instance : Parser.Drops g.receiver := by
  dsimp only [receiver]
  infer_instance

instance : Parser.Drops g.input := by
  unfold input
  refine .bind inferInstance fun start => .bind inferInstance fun _ =>
    .bind inferInstance fun isOpen => ?_
  split
  · infer_instance
  · refine .of_get fun ts x rest h => ?_
    cases hr : g.receiver ts with
    | some left =>
      rw [hr] at h
      cases h
      exact Parser.Drops.suffix ts _ _ hr
    | none =>
      rw [hr] at h
      exact Parser.Drops.suffix ts x rest h

instance : Parser.Drops g.signature := by
  dsimp only [signature]
  infer_instance

instance : Parser.Drops g.body := by
  dsimp only [body]
  infer_instance

instance : Parser.Drops g.constant := by
  dsimp only [constant]
  infer_instance

instance : Parser.Drops g.namedType := by
  dsimp only [namedType]
  infer_instance

instance (named : Bool) : Parser.Drops ((macroItem named)) := by
  dsimp only [macroItem]
  infer_instance

instance : Parser.Drops g.member := by
  dsimp only [member]
  infer_instance

instance (vis : Visibility) (canAlias : Bool) : Parser.Drops (g.trait vis canAlias) := by
  dsimp only [trait]
  infer_instance

/-! ## The grammar as a whole -/

instance : empty.Drops where
  type := fun _ => inferInstanceAs (Parser.Drops refuse)
  expression := fun _ => inferInstanceAs (Parser.Drops refuse)
  operand := fun _ => inferInstanceAs (Parser.Drops refuse)
  pattern := inferInstanceAs (Parser.Drops refuse)

instance : g.next.Drops where
  type := fun plus => inferInstanceAs (Parser.Drops (g.typeForm plus))
  expression := fun structs => inferInstanceAs (Parser.Drops (g.expressionForm structs))
  operand := fun structs => inferInstanceAs (Parser.Drops (g.operandForm structs))
  pattern := inferInstanceAs (Parser.Drops g.patternForm)

instance (depth : Nat) : (ofDepth depth).Drops := by
  induction depth with
  | zero => exact inferInstanceAs empty.Drops
  | succ depth ih => exact inferInstanceAs (ofDepth depth).next.Drops

end Relay.Grammar
