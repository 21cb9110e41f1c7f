import Relay.Generator.Argument
import Relay.Proofs.Source.TypePhrases

/-!
# Arguments as they are written

A grammar of the arguments of an attribute, and that reading accepts exactly what it spells.  A
phrase stands at the front of tokens and leaves a rest.  Of the listed paths only the last words
count, so the grammar gives words for them.

A path of words goes on as long as there are marks for it, so what is read as one has no mark behind
it.  Inside a row this is no condition, because there a comma follows or nothing.
-/

namespace Relay

/-! ## The grammar -/

/-- Words behind the first of a path, each with a mark in front. -/
inductive ArgumentReader.Trail (rest : List Token) : List String → List Token → Prop
  | nil : Trail rest [] rest
  | cons {words : List String} {ts : List Token} (word : String) (joint : Bool)
      (p p' p'' : Option Position) (h : Trail rest words ts) : Trail rest (word :: words)
      (.punct ':' true p :: .punct ':' joint p' :: .word word p'' :: ts)

/-- Tokens start with a path of any words. -/
inductive ArgumentReader.Heading.Leads : Heading → List Token → List Token → Prop
  | plain {more : List String} {ts rest : List Token} (first : String) (p : Option Position)
      (h : Trail rest more ts) : Leads ⟨false, first, more⟩ (.word first p :: ts) rest
  | rooted {more : List String} {ts rest : List Token} (first : String) (joint : Bool)
      (p p' p'' : Option Position) (h : Trail rest more ts) : Leads ⟨true, first, more⟩
      (.punct ':' true p :: .punct ':' joint p' :: .word first p'' :: ts) rest

/-- Tokens start with a path that has a certain last word. -/
def ArgumentReader.NameLeads (name : String) (ts rest : List Token) : Prop :=
  ∃ h : Heading, h.Leads ts rest ∧ h.last = name

/-- Tokens are items with a comma between each two and perhaps one behind the last. -/
inductive ArgumentReader.CommaRow {α : Type} (Leads : α → List Token → List Token → Prop) :
    List α → List Token → Prop
  | last {x : α} {ts : List Token} (h : Leads x ts []) : CommaRow Leads [x] ts
  | trailing {x : α} {ts : List Token} (joint : Bool) (p : Option Position)
      (h : Leads x ts [.punct ',' joint p]) : CommaRow Leads [x] ts
  | cons {x : α} {xs : List α} {ts rest : List Token} (joint : Bool) (p : Option Position)
      (h : Leads x ts (.punct ',' joint p :: rest)) (hrest : CommaRow Leads xs rest) :
      CommaRow Leads (x :: xs) ts

open ArgumentReader in
/-- Tokens start with an argument. -/
inductive AttributeArgument.Leads : AttributeArgument → List Token → List Token → Prop
  | name {text literal : String} {rest : List Token} (joint : Bool) (p p' p'' : Option Position)
      (h : Literal.stringValue? literal = some text) : Leads (.name text)
      (.word "name" p :: .punct '=' joint p' :: .literal literal p'' :: rest) rest
  | records {names : List String} {body rest : List Token} (p p' : Option Position)
      (h : CommaRow NameLeads names body) :
      Leads (.records names) (.word "records" p :: .group .paren body p' :: rest) rest
  | serializables {names : List String} {body rest : List Token} (p p' : Option Position)
      (h : CommaRow NameLeads names body) :
      Leads (.serializables names) (.word "serial" p :: .group .paren body p' :: rest) rest
  | runtime {path : PathExpr} {ts rest : List Token} (joint : Bool) (p p' : Option Position)
      (h : Parser.Reads ((Grammar.forTokens ts).path false) ts path rest) :
      Leads (.runtime path) (.word "crate" p :: .punct '=' joint p' :: ts) rest

/-- Tokens are the arguments of an attribute: none at all, or a row of them. -/
inductive AttributeArgument.Spelled : List AttributeArgument → List Token → Prop
  | none : Spelled [] []
  | row {args : List AttributeArgument} {ts : List Token}
      (h : ArgumentReader.CommaRow Leads args ts) : Spelled args ts

/-! ## Single tokens -/

namespace Ahead

theorem operatorChars_single {c : Char} {ts : List Token} : operatorChars [c] ts = true ↔
    ∃ joint p rest, ts = .punct c joint p :: rest := by
  rcases ts with _ | ⟨t, rest⟩
  · simp [operatorChars]
  · cases t with
    | punct c' joint p => simpa [operatorChars] using eq_comm
    | _ => simp [operatorChars]

theorem operatorChars_cons {c d : Char} {cs : List Char} {ts : List Token} :
    operatorChars (c :: d :: cs) ts = true ↔
      ∃ p rest, ts = .punct c true p :: rest ∧ operatorChars (d :: cs) rest = true := by
  rcases ts with _ | ⟨t, rest⟩
  · simp [operatorChars]
  · cases t with
    | punct c' joint p => cases joint <;> simp [operatorChars, eq_comm (a := c)]
    | _ => simp [operatorChars]

theorem operator_colons {ts : List Token} : operator "::" ts = true ↔
    ∃ joint p p' rest, ts = .punct ':' true p :: .punct ':' joint p' :: rest := by
  change operatorChars [':', ':'] ts = true ↔ _
  rw [operatorChars_cons]
  constructor
  · rintro ⟨p, rest, rfl, h⟩
    obtain ⟨joint, p', rest, rfl⟩ := operatorChars_single.1 h
    exact ⟨joint, p, p', rest, rfl⟩
  · rintro ⟨joint, p, p', rest, rfl⟩
    exact ⟨p, _, rfl, rfl⟩

end Ahead

namespace ArgumentReader

variable {α β : Type} {r : ArgumentReader α} {f : α → ArgumentReader β} {ts rest : List Token}

theorem bind_eq_ok {y : β} : (r >>= f) ts = .ok (y, rest) ↔
    ∃ x mid, r ts = .ok (x, mid) ∧ f x mid = .ok (y, rest) := by
  change (r ts >>= fun s => f s.1 s.2) = _ ↔ _
  cases r ts with
  | error fault => exact ⟨nofun, fun ⟨_, _, h, _⟩ => nomatch h⟩
  | ok s =>
    refine ⟨fun h => ⟨s.1, s.2, rfl, h⟩, ?_⟩
    rintro ⟨x, mid, h, hf⟩
    cases h
    exact hf

theorem pure_eq_ok {x y : α} : (pure x : ArgumentReader α) ts = .ok (y, rest) ↔
    x = y ∧ ts = rest := by
  change Except.ok (x, ts) = .ok (y, rest) ↔ _
  rw [Except.ok.injEq, Prod.mk.injEq]

theorem throw_ne_ok {fault : ArgumentFault} {x : α} :
    (throw fault : ArgumentReader α) ts ≠ .ok (x, rest) := nofun

/-- A reader that looks at the tokens first. -/
theorem get_bind (f : List Token → ArgumentReader α) (ts : List Token) :
    (get >>= f) ts = f ts ts := rfl

/-- A test decides between two readers. -/
theorem sees_ite (test : List Token → Bool) (r r' : ArgumentReader α) (ts : List Token) :
    (do if ← sees test then r else r') ts = if test ts then r ts else r' ts := by
  change (if test ts = true then r else r') ts = _
  split <;> rfl

theorem mark_eq_ok {text : String} {u : Unit} : mark text ts = .ok (u, rest) ↔
    Ahead.operator text ts = true ∧ Parser.dropOperator text.toList ts = rest := by
  unfold mark Parser.operator
  rw [get_bind]
  by_cases h : Ahead.operator text ts = true
  · rw [if_pos h]
    change Except.ok ((), _) = .ok ((), rest) ↔ _
    simp [h]
  · rw [if_neg h]
    exact ⟨nofun, fun h' => absurd h'.1 h⟩

theorem mark_colons {u : Unit} : mark "::" ts = .ok (u, rest) ↔
    ∃ joint p p', ts = .punct ':' true p :: .punct ':' joint p' :: rest := by
  rw [mark_eq_ok, Ahead.operator_colons]
  constructor
  · rintro ⟨⟨joint, p, p', rest, rfl⟩, rfl⟩
    exact ⟨joint, p, p', rfl⟩
  · rintro ⟨joint, p, p', rfl⟩
    exact ⟨⟨joint, p, p', rest, rfl⟩, rfl⟩

theorem mark_single {text : String} {c : Char} (htext : text.toList = [c]) {u : Unit} :
    mark text ts = .ok (u, rest) ↔ ∃ joint p, ts = .punct c joint p :: rest := by
  rw [mark_eq_ok, Ahead.operator, htext, Ahead.operatorChars_single]
  constructor
  · rintro ⟨⟨joint, p, rest, rfl⟩, rfl⟩
    exact ⟨joint, p, rfl⟩
  · rintro ⟨joint, p, rfl⟩
    exact ⟨⟨joint, p, rest, rfl⟩, rfl⟩

theorem mark_equals {u : Unit} : mark "=" ts = .ok (u, rest) ↔
    ∃ joint p, ts = .punct '=' joint p :: rest := mark_single rfl

theorem mark_comma {u : Unit} : mark "," ts = .ok (u, rest) ↔
    ∃ joint p, ts = .punct ',' joint p :: rest := mark_single rfl

theorem word_eq_ok {w : String} : word ts = .ok (w, rest) ↔ ∃ p, ts = .word w p :: rest := by
  rcases ts with _ | ⟨t, tail⟩
  · exact ⟨nofun, nofun⟩
  · cases t with
    | word w' p =>
      change Except.ok (w', tail) = .ok (w, rest) ↔ _
      simp
    | _ => exact ⟨nofun, nofun⟩

/-! ## Paths of words -/

/-- The words that follow in a path are read as long as there are marks. -/
theorem moreWords_eq_ok {limit : Nat} (hlimit : ts.length ≤ limit) {words : List String} :
    moreWords limit ts = .ok (words, rest) ↔
      Trail rest words ts ∧ Ahead.operator "::" rest = false := by
  -- A word uses up tokens, so the marks run out before the limit does.
  induction limit generalizing ts words with
  | zero =>
    obtain rfl := List.eq_nil_of_length_eq_zero (Nat.le_zero.1 hlimit)
    unfold moreWords
    rw [pure_eq_ok]
    constructor
    · rintro ⟨rfl, rfl⟩
      exact ⟨.nil, rfl⟩
    · rintro ⟨htrail, -⟩
      cases htrail
      exact ⟨rfl, rfl⟩
  | succ limit ih =>
    unfold moreWords
    rw [sees_ite]
    split
    · next hcolons =>
      constructor
      · intro hread
        obtain ⟨_, us, hmark, hmarked⟩ := bind_eq_ok.1 hread
        obtain ⟨word, us, hword, hworded⟩ := bind_eq_ok.1 hmarked
        obtain ⟨more, us, hmore, hpure⟩ := bind_eq_ok.1 hworded
        obtain ⟨rfl, rfl⟩ := pure_eq_ok.1 hpure
        obtain ⟨joint, p, p', rfl⟩ := mark_colons.1 hmark
        obtain ⟨p'', rfl⟩ := word_eq_ok.1 hword
        simp only [List.length_cons] at hlimit
        obtain ⟨htrail, hrest⟩ := (ih (by omega)).1 hmore
        exact ⟨.cons word joint p p' p'' htrail, hrest⟩
      · rintro ⟨htrail, hrest⟩
        cases htrail with
        | nil =>
          rw [hrest] at hcolons
          cases hcolons
        | cons word joint p p' p'' htrail =>
          simp only [List.length_cons] at hlimit
          have hmore := (ih (by omega)).2 ⟨htrail, hrest⟩
          refine bind_eq_ok.2 ⟨(), _, mark_colons.2 ⟨joint, p, p', rfl⟩, ?_⟩
          refine bind_eq_ok.2 ⟨word, _, word_eq_ok.2 ⟨p'', rfl⟩, ?_⟩
          exact bind_eq_ok.2 ⟨_, _, hmore, rfl⟩
    · next hcolons =>
      rw [Bool.not_eq_true] at hcolons
      rw [pure_eq_ok]
      constructor
      · rintro ⟨rfl, rfl⟩
        exact ⟨.nil, hcolons⟩
      · rintro ⟨htrail, -⟩
        cases htrail with
        | nil => exact ⟨rfl, rfl⟩
        | cons => cases hcolons

/-- Reads what an argument starts with, behind the mark of a rooted path. -/
def unrooted (isRooted : Bool) : ArgumentReader Heading := do
  if ← sees Ahead.anyWord then
    let first ← word
    return ⟨isRooted, first, ← moreWords (← get).length⟩
  else if ← sees Ahead.nothing then throw .absent
  else if ← sees Ahead.literal then throw .literal
  else throw .token

theorem heading_eq : heading ts =
    if Ahead.operator "::" ts then (do mark "::"; unrooted true) ts else unrooted false ts := by
  unfold heading
  change (if Ahead.operator "::" ts = true then _ else _ : ArgumentReader Heading) ts = _
  generalize Ahead.operator "::" ts = isRooted
  cases isRooted <;> rfl

theorem unrooted_eq_ok {isRooted : Bool} {h : Heading} : unrooted isRooted ts = .ok (h, rest) ↔
    ∃ p us, ts = .word h.first p :: us ∧ h.isRooted = isRooted ∧ Trail rest h.more us ∧
      Ahead.operator "::" rest = false := by
  unfold unrooted
  rw [sees_ite]
  split
  · constructor
    · intro hread
      obtain ⟨first, us, hword, hworded⟩ := bind_eq_ok.1 hread
      obtain ⟨_, _, hget, hgot⟩ := bind_eq_ok.1 hworded
      cases hget
      obtain ⟨more, mid, hmore, hpure⟩ := bind_eq_ok.1 hgot
      obtain ⟨rfl, rfl⟩ := pure_eq_ok.1 hpure
      obtain ⟨p, rfl⟩ := word_eq_ok.1 hword
      exact ⟨p, _, rfl, rfl, (moreWords_eq_ok le_rfl).1 hmore⟩
    · rintro ⟨p, us, rfl, rfl, hmore⟩
      refine bind_eq_ok.2 ⟨h.first, us, rfl, bind_eq_ok.2 ⟨us, us, rfl, ?_⟩⟩
      exact bind_eq_ok.2 ⟨h.more, rest, (moreWords_eq_ok le_rfl).2 hmore, rfl⟩
  · next hword =>
    rw [sees_ite, sees_ite]
    constructor
    · intro hread
      split at hread
      · exact absurd hread throw_ne_ok
      · split at hread <;> exact absurd hread throw_ne_ok
    · rintro ⟨p, us, rfl, -⟩
      exact absurd rfl hword

/-- What starts an argument is read as far as it can be a path. -/
theorem heading_eq_ok {h : Heading} : heading ts = .ok (h, rest) ↔
    h.Leads ts rest ∧ Ahead.operator "::" rest = false := by
  rw [heading_eq]
  split
  · next hcolons =>
    obtain ⟨joint, p, p', us, rfl⟩ := Ahead.operator_colons.1 hcolons
    rw [bind_eq_ok]
    constructor
    · rintro ⟨_, mid, hmark, hread⟩
      cases hmark
      obtain ⟨p'', us, rfl, hrooted, htrail, hrest⟩ := unrooted_eq_ok.1 hread
      obtain ⟨isRooted, first, more⟩ := h
      cases hrooted
      exact ⟨.rooted first joint p p' p'' htrail, hrest⟩
    · rintro ⟨hleads, hrest⟩
      cases hleads with
      | rooted first joint p p' p'' htrail =>
        exact ⟨(), _, rfl, unrooted_eq_ok.2 ⟨p'', _, rfl, rfl, htrail, hrest⟩⟩
  · next hcolons =>
    rw [unrooted_eq_ok]
    constructor
    · rintro ⟨p, us, rfl, hrooted, htrail, hrest⟩
      obtain ⟨isRooted, first, more⟩ := h
      cases hrooted
      exact ⟨.plain first p htrail, hrest⟩
    · rintro ⟨hleads, hrest⟩
      cases hleads with
      | plain first p htrail => exact ⟨p, _, rfl, rfl, htrail, hrest⟩
      | rooted => exact absurd rfl hcolons

/-! ## Rows -/

/-- Nothing stands there, or a comma: what can follow an item of a row. -/
def EndsItem (rest : List Token) : Prop := rest = [] ∨ ∃ joint p us, rest = .punct ',' joint p :: us

section Rows

variable {item : ArgumentReader α} {Leads : α → List Token → List Token → Prop}
  (hitem : ∀ ts x rest, EndsItem rest → (item ts = .ok (x, rest) ↔ Leads x ts rest))
  (hshorter : ∀ ts x rest, item ts = .ok (x, rest) → rest.length < ts.length)

include hitem hshorter

/-- An item uses up a token, so there is no row of items on nothing. -/
theorem CommaRow.ne_nil {xs : List α} (hrow : CommaRow Leads xs ts) : ts ≠ [] := by
  rintro rfl
  have hnone (x : α) (rest : List Token) : item [] ≠ .ok (x, rest) :=
    fun h => Nat.not_lt_zero _ (hshorter [] x rest h)
  cases hrow with
  | last h => exact hnone _ _ ((hitem [] _ _ (.inl rfl)).2 h)
  | trailing joint p h => exact hnone _ _ ((hitem [] _ _ (.inr ⟨joint, p, [], rfl⟩)).2 h)
  | cons joint p h => exact hnone _ _ ((hitem [] _ _ (.inr ⟨joint, p, _, rfl⟩)).2 h)

theorem itemsUpTo_eq_ok {limit : Nat} (hlimit : ts.length ≤ limit) {xs : List α} :
    itemsUpTo item limit ts = .ok (xs, rest) ↔ rest = [] ∧ CommaRow Leads xs ts := by
  -- At the limit an item would be the last whatever follows it, but by then no token is left.
  induction limit generalizing ts xs with
  | zero =>
    obtain rfl := List.eq_nil_of_length_eq_zero (Nat.le_zero.1 hlimit)
    unfold itemsUpTo
    rw [bind_eq_ok]
    constructor
    · rintro ⟨x, mid, hx, -⟩
      exact absurd (hshorter [] x mid hx) (Nat.not_lt_zero _)
    · rintro ⟨-, hrow⟩
      exact absurd rfl (hrow.ne_nil hitem hshorter)
  | succ limit ih =>
    have hlength {x : α} {us : List Token} {joint : Bool} {p : Option Position}
        (hx : item ts = .ok (x, .punct ',' joint p :: us)) : us.length ≤ limit := by
      have := hshorter _ _ _ hx
      rw [List.length_cons] at this
      omega
    unfold itemsUpTo
    rw [bind_eq_ok]
    constructor
    · rintro ⟨x, mid, hx, h⟩
      rw [sees_ite] at h
      split at h
      · next hnothing =>
        obtain ⟨rfl, rfl⟩ := pure_eq_ok.1 h
        obtain rfl := List.isEmpty_iff.1 hnothing
        exact ⟨rfl, .last ((hitem _ _ _ (.inl rfl)).1 hx)⟩
      · obtain ⟨_, us, hmark, hmore⟩ := bind_eq_ok.1 h
        obtain ⟨joint, p, rfl⟩ := mark_comma.1 hmark
        have hlead := (hitem _ _ _ (.inr ⟨joint, p, us, rfl⟩)).1 hx
        rw [sees_ite] at hmore
        split at hmore
        · next hnothing =>
          obtain ⟨rfl, rfl⟩ := pure_eq_ok.1 hmore
          obtain rfl := List.isEmpty_iff.1 hnothing
          exact ⟨rfl, .trailing joint p hlead⟩
        · obtain ⟨ys, vs, hys, hpure⟩ := bind_eq_ok.1 hmore
          obtain ⟨rfl, rfl⟩ := pure_eq_ok.1 hpure
          obtain ⟨rfl, hrow⟩ := (ih (hlength hx)).1 hys
          exact ⟨rfl, .cons joint p hlead hrow⟩
    · rintro ⟨rfl, hrow⟩
      cases hrow with
      | last h => exact ⟨_, _, (hitem _ _ _ (.inl rfl)).2 h, rfl⟩
      | trailing joint p h =>
        exact ⟨_, _, (hitem _ _ _ (.inr ⟨joint, p, [], rfl⟩)).2 h, rfl⟩
      | @cons x xs _ us joint p h hrow =>
        have hx := (hitem _ _ _ (.inr ⟨joint, p, us, rfl⟩)).2 h
        have hxs := (ih (hlength hx)).2 ⟨rfl, hrow⟩
        have hsome : ¬ Ahead.nothing us = true :=
          fun h => hrow.ne_nil hitem hshorter (List.isEmpty_iff.1 h)
        have hcomma : ¬ Ahead.nothing (.punct ',' joint p :: us) = true := Bool.false_ne_true
        refine ⟨x, _, hx, ?_⟩
        rw [sees_ite, if_neg hcomma]
        refine bind_eq_ok.2 ⟨(), us, mark_comma.2 ⟨joint, p, rfl⟩, ?_⟩
        rw [sees_ite, if_neg hsome]
        exact bind_eq_ok.2 ⟨xs, [], hxs, rfl⟩

theorem items_eq_ok {xs : List α} : items item ts = .ok (xs, rest) ↔
    rest = [] ∧ CommaRow Leads xs ts :=
  itemsUpTo_eq_ok hitem hshorter le_rfl

end Rows

/-! ## Arguments -/

theorem EndsItem.not_colons (h : EndsItem rest) : Ahead.operator "::" rest = false := by
  rcases h with rfl | ⟨joint, p, us, rfl⟩
  · rfl
  · cases joint <;> rfl

theorem Trail.length_le {words : List String} (h : Trail rest words ts) :
    rest.length ≤ ts.length := by
  induction h with
  | nil => exact le_rfl
  | cons word joint p p' p'' h ih =>
    simp only [List.length_cons]
    omega

theorem Heading.Leads.length_lt {h : Heading} (hleads : h.Leads ts rest) :
    rest.length < ts.length := by
  cases hleads with
  | plain first p htrail | rooted first joint p p' p'' htrail =>
    have := htrail.length_le
    simp only [List.length_cons]
    omega

/-- Reads the last word of a path. -/
def lastWord : ArgumentReader String := return (← heading).last

theorem lastWord_eq_ok {name : String} : lastWord ts = .ok (name, rest) ↔
    ∃ h : Heading, h.Leads ts rest ∧ Ahead.operator "::" rest = false ∧ h.last = name := by
  unfold lastWord
  rw [bind_eq_ok]
  constructor
  · rintro ⟨h, mid, hheading, hpure⟩
    obtain ⟨rfl, rfl⟩ := pure_eq_ok.1 hpure
    obtain ⟨hleads, hrest⟩ := heading_eq_ok.1 hheading
    exact ⟨h, hleads, hrest, rfl⟩
  · rintro ⟨h, hleads, hrest, rfl⟩
    exact ⟨h, rest, heading_eq_ok.2 ⟨hleads, hrest⟩, rfl⟩

theorem items_lastWord {names : List String} : items lastWord ts = .ok (names, rest) ↔
    rest = [] ∧ CommaRow NameLeads names ts := by
  refine items_eq_ok (fun ts name rest hrest => ?_) fun ts name rest hread => ?_
  · rw [lastWord_eq_ok]
    exact ⟨fun ⟨h, hleads, _, hlast⟩ => ⟨h, hleads, hlast⟩,
      fun ⟨h, hleads, hlast⟩ => ⟨h, hleads, hrest.not_colons, hlast⟩⟩
  · obtain ⟨h, hleads, -⟩ := lastWord_eq_ok.1 hread
    exact hleads.length_lt

theorem names_group (body us : List Token) (p : Option Position) :
    ArgumentReader.names (.group .paren body p :: us) =
      (items lastWord body).map fun read => (read.1, us) := by
  unfold ArgumentReader.names lastWord
  rw [get_bind]
  dsimp only
  cases items (return (← heading).last) body <;> rfl

/-- The names in parentheses are the last words of a row of paths. -/
theorem names_eq_ok {names : List String} : ArgumentReader.names ts = .ok (names, rest) ↔
    ∃ body p, ts = .group .paren body p :: rest ∧ CommaRow NameLeads names body := by
  constructor
  · intro h
    rcases ts with _ | ⟨t, us⟩
    · cases h
    cases t with
    | group d body p =>
      cases d with
      | paren =>
        rw [names_group] at h
        cases hitems : items lastWord body with
        | error fault =>
          rw [hitems] at h
          cases h
        | ok read =>
          rw [hitems] at h
          cases h
          exact ⟨body, p, rfl, (items_lastWord.1 hitems).2⟩
      | _ => cases h
    | _ => cases h
  · rintro ⟨body, p, rfl, hrow⟩
    rw [names_group, items_lastWord.2 ⟨rfl, hrow⟩]
    rfl

theorem string_literal (literal : String) (p : Option Position) (us : List Token) :
    string (.literal literal p :: us) = match Literal.stringValue? literal with
      | some text => .ok (text, us)
      | none => .error (.missing "string literal" false) := by
  unfold string
  rw [get_bind]
  dsimp only
  cases Literal.stringValue? literal <;> rfl

theorem string_eq_ok {text : String} : string ts = .ok (text, rest) ↔
    ∃ literal p, ts = .literal literal p :: rest ∧ Literal.stringValue? literal = some text := by
  constructor
  · intro h
    rcases ts with _ | ⟨t, us⟩
    · cases h
    cases t with
    | literal literal p =>
      rw [string_literal] at h
      cases hvalue : Literal.stringValue? literal with
      | none =>
        rw [hvalue] at h
        cases h
      | some value =>
        rw [hvalue] at h
        cases h
        exact ⟨literal, p, rfl, hvalue⟩
    | _ => cases h
  · rintro ⟨literal, p, rfl, hvalue⟩
    rw [string_literal, hvalue]

theorem path_eq_ok {path : PathExpr} : ArgumentReader.path ts = .ok (path, rest) ↔
    Parser.Reads ((Grammar.forTokens ts).path false) ts path rest := by
  unfold ArgumentReader.path Parser.Reads
  rw [get_bind]
  cases (Grammar.forTokens ts).path false ts with
  | none =>
    refine ⟨fun h => ?_, nofun⟩
    dsimp only at h
    split at h <;> cases h
  | some read =>
    change Except.ok read = .ok (path, rest) ↔ _
    rw [Except.ok.injEq, Option.some.injEq]

theorem Heading.isJust_iff {h : Heading} {text : String} :
    h.isJust text = true ↔ h = ⟨false, text, []⟩ := by
  obtain ⟨isRooted, first, more⟩ := h
  simp [isJust, and_assoc]

/-- A heading that is one word is read where something other than a mark follows the word. -/
theorem heading_word {w : String} {p : Option Position} {us : List Token}
    (hrest : Ahead.operator "::" us = false) :
    heading (.word w p :: us) = .ok (⟨false, w, []⟩, us) :=
  heading_eq_ok.2 ⟨.plain w p .nil, hrest⟩

theorem Heading.Leads.word {text : String} (h : Heading.Leads ⟨false, text, []⟩ ts rest) :
    ∃ p, ts = .word text p :: rest := by
  cases h with
  | plain first p htrail =>
    cases htrail
    exact ⟨p, rfl⟩

/-- The value of an argument stands behind a mark. -/
theorem valued_eq_ok {k : α → β} {y : β} :
    (do mark "="; return k (← r)) ts = .ok (y, rest) ↔
      ∃ joint p us x, ts = .punct '=' joint p :: us ∧ r us = .ok (x, rest) ∧ k x = y := by
  rw [bind_eq_ok]
  constructor
  · rintro ⟨_, us, hmark, hvalue⟩
    obtain ⟨x, mid, hx, hpure⟩ := bind_eq_ok.1 hvalue
    obtain ⟨rfl, rfl⟩ := pure_eq_ok.1 hpure
    obtain ⟨joint, p, rfl⟩ := mark_equals.1 hmark
    exact ⟨joint, p, us, x, rfl, hx, rfl⟩
  · rintro ⟨joint, p, us, x, rfl, hx, rfl⟩
    exact ⟨(), us, mark_equals.2 ⟨joint, p, rfl⟩, bind_eq_ok.2 ⟨x, rest, hx, rfl⟩⟩

/-- The names of an argument stand in parentheses. -/
theorem listed_eq_ok {k : List String → β} {y : β} :
    (return k (← ArgumentReader.names) : ArgumentReader β) ts = .ok (y, rest) ↔
      ∃ body p names, ts = .group .paren body p :: rest ∧ CommaRow NameLeads names body ∧
        k names = y := by
  rw [bind_eq_ok]
  constructor
  · rintro ⟨names, mid, hnames, hpure⟩
    obtain ⟨rfl, rfl⟩ := pure_eq_ok.1 hpure
    obtain ⟨body, p, rfl, hrow⟩ := names_eq_ok.1 hnames
    exact ⟨body, p, names, rfl, hrow, rfl⟩
  · rintro ⟨body, p, names, rfl, hrow, rfl⟩
    exact ⟨names, rest, names_eq_ok.2 ⟨body, p, rfl, hrow⟩, rfl⟩

/-- An argument is read exactly where the tokens start with it. -/
theorem argument_eq_ok {a : AttributeArgument} : argument ts = .ok (a, rest) ↔ a.Leads ts rest := by
  unfold argument
  rw [bind_eq_ok]
  constructor
  · rintro ⟨h, mid, hheading, hread⟩
    obtain ⟨hleads, -⟩ := heading_eq_ok.1 hheading
    have hword {text : String} (hjust : h.isJust text = true) : ∃ p, ts = .word text p :: mid := by
      obtain rfl := Heading.isJust_iff.1 hjust
      exact hleads.word
    split at hread
    · next hjust =>
      obtain ⟨p, rfl⟩ := hword hjust
      obtain ⟨joint, p', us, text, rfl, hstring, rfl⟩ := valued_eq_ok.1 hread
      obtain ⟨literal, p'', rfl, hvalue⟩ := string_eq_ok.1 hstring
      exact .name joint p p' p'' hvalue
    split at hread
    · next hjust =>
      obtain ⟨p, rfl⟩ := hword hjust
      obtain ⟨body, p', names, rfl, hrow, rfl⟩ := listed_eq_ok.1 hread
      exact .records p p' hrow
    split at hread
    · next hjust =>
      obtain ⟨p, rfl⟩ := hword hjust
      obtain ⟨body, p', names, rfl, hrow, rfl⟩ := listed_eq_ok.1 hread
      exact .serializables p p' hrow
    split at hread
    · next hjust =>
      obtain ⟨p, rfl⟩ := hword hjust
      obtain ⟨joint, p', us, path, rfl, hpath, rfl⟩ := valued_eq_ok.1 hread
      exact .runtime joint p p' (path_eq_ok.1 hpath)
    · exact absurd hread throw_ne_ok
  · intro hleads
    cases hleads with
    | name joint p p' p'' hvalue =>
      exact ⟨_, _, heading_word (by cases joint <;> rfl),
        valued_eq_ok.2 ⟨joint, p', _, _, rfl, string_eq_ok.2 ⟨_, p'', rfl, hvalue⟩, rfl⟩⟩
    | records p p' hrow =>
      exact ⟨_, _, heading_word rfl, listed_eq_ok.2 ⟨_, p', _, rfl, hrow, rfl⟩⟩
    | serializables p p' hrow =>
      exact ⟨_, _, heading_word rfl, listed_eq_ok.2 ⟨_, p', _, rfl, hrow, rfl⟩⟩
    | runtime joint p p' hpath =>
      exact ⟨_, _, heading_word (by cases joint <;> rfl),
        valued_eq_ok.2 ⟨joint, p', _, _, rfl, path_eq_ok.2 hpath, rfl⟩⟩

end ArgumentReader

theorem AttributeArgument.Leads.length_lt {a : AttributeArgument} {ts rest : List Token}
    (h : a.Leads ts rest) : rest.length < ts.length := by
  cases h with
  | name | records | serializables =>
    simp only [List.length_cons]
    omega
  | @runtime path us rest joint p p' hpath =>
    have : (Grammar.forTokens us).Drops := inferInstanceAs (Grammar.ofDepth _).Drops
    have := (Parser.Drops.suffix _ _ _ hpath).length_le
    simp only [List.length_cons]
    omega

theorem ArgumentReader.items_argument {ts rest : List Token} {args : List AttributeArgument} :
    items argument ts = .ok (args, rest) ↔ rest = [] ∧ CommaRow AttributeArgument.Leads args ts :=
  items_eq_ok (fun _ _ _ _ => argument_eq_ok) fun _ _ _ h => (argument_eq_ok.1 h).length_lt

/-- Where there are tokens at all, the arguments that they are can be read. -/
theorem AttributeArgument.spelled_iff {ts : List Token} (hts : ts ≠ [])
    {args : List AttributeArgument} :
    Spelled args ts ↔ ArgumentReader.items ArgumentReader.argument ts = .ok (args, []) := by
  rw [ArgumentReader.items_argument]
  constructor
  · intro h
    cases h with
    | none => exact absurd rfl hts
    | row hrow => exact ⟨rfl, hrow⟩
  · rintro ⟨-, hrow⟩
    exact .row hrow

theorem AttributeArgument.spelled_nil {args : List AttributeArgument} :
    Spelled args [] ↔ args = [] := by
  constructor
  · intro h
    cases h with
    | none => rfl
    | row hrow => cases ArgumentReader.items_argument.2 ⟨rfl, hrow⟩
  · rintro rfl
    exact .none

/-- Reading accepts exactly what is spelled, and gives what the arguments come to. -/
theorem AttributeArguments.ofTokens_eq_ok {ts : List Token} {result : AttributeArguments} :
    ofTokens ts = .ok result ↔
      ∃ args, AttributeArgument.Spelled args ts ∧ ofList args = result := by
  unfold ofTokens
  by_cases hts : ts = []
  · subst hts
    simp only [AttributeArgument.spelled_nil, exists_eq_left, List.isEmpty_nil, if_true,
      Except.ok.injEq]
    exact Iff.rfl
  · rw [if_neg (mt List.isEmpty_iff.1 hts)]
    simp only [AttributeArgument.spelled_iff hts]
    cases hread : ArgumentReader.items ArgumentReader.argument ts with
    | error fault => simp
    | ok read =>
      obtain ⟨args, rest⟩ := read
      obtain ⟨rfl, -⟩ := ArgumentReader.items_argument.1 hread
      simp

end Relay
