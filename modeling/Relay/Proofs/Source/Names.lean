import Relay.Proofs.Source.Suffixes

/-!
# Names in source text

The names that the grammar reads are words of the text.  That of a method can be used as a name as
it stands.  So can that of a parameter, but for one: a pattern can bind `self`.
-/

namespace Relay

namespace Source

/-- A name as it stands in source text: a word, or a word with `r#` in front if that form exists. -/
inductive Written : String → Prop
  | plain {word : String} (hword : isWord word.toList = true) : Written word
  | raw {word : String} (hword : isWord word.toList = true) (hescape : word ∉ unescapableWords) :
    Written ("r#" ++ word)

theorem plainChars_of_word {cs : List Char} (h : isWord cs = true) : plainChars cs = cs := by
  unfold plainChars
  split
  · next rest =>
    have hhash : continuesWord '#' = false := by rfl
    simp [Relay.isWord, hhash] at h
  · rfl

theorem plainName_of_word {word : String} (h : isWord word.toList = true) :
    plainName word = word := by
  rw [plainName, plainChars_of_word h, String.ofList_toList]

theorem plainName_raw (word : String) : plainName ("r#" ++ word) = word := by
  rw [plainName, String.toList_append]
  exact String.ofList_toList

theorem Written.isWord {name : String} (h : Written name) :
    isWord (plainName name).toList = true := by
  cases h with
  | plain hword => rwa [plainName_of_word hword]
  | raw hword hescape => rwa [plainName_raw]

/-- Of the words that have no raw form, none can be used as a name. -/
theorem Written.plainName_not_mem {name : String} (h : Written name) (hname : isName name = true) :
    plainName name ∉ unescapableWords := by
  cases h with
  | plain hword =>
    have hreserved : ∀ word ∈ unescapableWords, isName word = false := by decide
    rw [plainName_of_word hword]
    intro hescape
    rw [hreserved name hescape] at hname
    cases hname
  | raw hword hescape => rwa [plainName_raw]

/-- What a pattern can bind: a name, or `self`. -/
def Bindable (name : String) : Prop := Written name ∧ (isName name = true ∨ name = "self")

/-- The name of a method can be used as it stands, those of its parameters can be bound. -/
structure Signature.Named (s : Signature) : Prop where
  written : Written s.name.word
  isName : isName s.name.word = true
  params : ∀ p ∈ s.params, ∀ name ∈ p.name, Bindable name

def Member.Named : Member → Prop
  | .method s => s.Named
  | _ => True

def Content.Named : Content → Prop
  | .trait t => ∀ member ∈ t.members, member.Named
  | .other _ _ => True

end Source

open Source

/-- All words in a token are written. -/
inductive Token.Written : Token → Prop
  | word {text : String} {p : Option Position} (h : Source.Written text) : Written (.word text p)
  | punct {char : Char} {joint : Bool} {p : Option Position} : Written (.punct char joint p)
  | literal {text : String} {p : Option Position} : Written (.literal text p)
  | group {d : Delimiter} {body : List Token} {p : Option Position}
    (h : ∀ t ∈ body, Written t) : Written (.group d body p)

/-! ## Words of a text -/

namespace Lexer

theorem front_append (cs rest : List Char) : front (cs ++ rest) rest = cs := by
  rw [front, List.length_append, Nat.add_sub_cancel, List.take_left]

theorem exists_word {cs rest : List Char} (h : Literal.afterWord? cs = some rest) :
    ∃ word, isWord word = true ∧ cs = word ++ rest := by
  cases cs with
  | nil => cases h
  | cons c tail =>
    simp only [Literal.afterWord?, Option.ite_none_right_eq_some, Option.some.injEq] at h
    obtain ⟨hstart, rfl⟩ := h
    refine ⟨c :: tail.takeWhile continuesWord, ?_, ?_⟩
    · rw [isWord, hstart, List.all_takeWhile]
      rfl
    · rw [List.cons_append, List.takeWhile_append_dropWhile]

theorem written_of_afterAnyWord? {cs rest : List Char} (h : afterAnyWord? cs = some rest) :
    Written (String.ofList (front cs rest)) := by
  unfold afterAnyWord? at h
  split at h
  · next cs =>
    obtain ⟨_, hword, h⟩ := Option.bind_eq_some_iff.1 h
    obtain ⟨word, hisWord, rfl⟩ := exists_word hword
    rw [front_append] at h
    split at h
    · cases h
    · next hescape =>
      cases h
      have hfront : front ('r' :: '#' :: (word ++ rest)) rest = 'r' :: '#' :: word :=
        front_append ('r' :: '#' :: word) rest
      have hraw : String.ofList ('r' :: '#' :: word) = "r#" ++ String.ofList word := by
        rw [← String.toList_inj, String.toList_append]
        simp
      rw [hfront, hraw]
      refine .raw ?_ ?_
      · rwa [String.toList_ofList]
      · simpa using hescape
  · obtain ⟨word, hisWord, rfl⟩ := exists_word h
    rw [front_append]
    exact .plain (by rwa [String.toList_ofList])

theorem written_of_leaf? {p : Position} {cs rest : List Char} {t : Token}
    (h : leaf? p cs = some (t, rest)) : t.Written := by
  unfold leaf? at h
  split at h
  · cases h
    exact .literal
  · split at h
    · split at h
      · cases h
        exact .punct
      · cases h
    · split at h
      · cases h
        exact .punct
      · split at h
        · next hword =>
          cases h
          unfold afterIdentifier? at hword
          split at hword
          · cases hword
          · exact .word (written_of_afterAnyWord? hword)
        · cases h
    · cases h

theorem written_doc : Written "doc" := .plain (by rfl)

theorem DocComment.written_tokens (d : DocComment) (p : Position) :
    ∀ t ∈ d.tokens p, t.Written := by
  have hbody : (Token.group .bracket [.word "doc" (some p), .punct '=' false (some p),
      .literal (Text.literal (String.ofList d.text)) (some p)] (some p)).Written := by
    refine .group ?_
    simp only [List.forall_mem_cons]
    exact ⟨.word written_doc, .punct, .literal, List.forall_mem_nil _⟩
  unfold DocComment.tokens
  cases d.inner <;> simp [hbody, Token.Written.punct]

theorem written_of_readAll {fuel : Nat} {text : List Char} {start : Position}
    {outer : List OpenGroup} {done ts : List Token}
    (h : readAll fuel text start outer done = some ts)
    (hdone : ∀ t ∈ done, t.Written) (houter : ∀ g ∈ outer, ∀ t ∈ g.before, t.Written) :
    ∀ t ∈ ts, t.Written := by
  have hreverse {us : List Token} (hus : ∀ t ∈ us, t.Written) : ∀ t ∈ us.reverse, t.Written :=
    fun t ht => hus t (List.mem_reverse.1 ht)
  induction fuel generalizing text start outer done with
  | zero => cases h
  | succ fuel ih =>
    unfold readAll at h
    dsimp only at h
    split at h
    · next d rest hdoc =>
      refine ih h ?_ houter
      rw [List.forall_mem_append]
      exact ⟨hreverse (d.written_tokens _), hdone⟩
    · split at h
      · split at h
        · cases h
          exact hreverse hdone
        · cases h
      · split at h
        · refine ih h (List.forall_mem_nil _) ?_
          rw [List.forall_mem_cons]
          exact ⟨hdone, houter⟩
        · split at h
          · next g outer =>
            rw [List.forall_mem_cons] at houter
            split at h
            · refine ih h ?_ houter.2
              rw [List.forall_mem_cons]
              exact ⟨.group (hreverse hdone), houter.1⟩
            · cases h
          · cases h
        · split at h
          · next hleaf =>
            refine ih h ?_ houter
            rw [List.forall_mem_cons]
            exact ⟨written_of_leaf? hleaf, hdone⟩
          · cases h

theorem written_of_tokens? {text : String} {ts : List Token} (h : tokens? text = some ts) :
    ∀ t ∈ ts, t.Written := by
  unfold tokens? at h
  split at h <;> exact written_of_readAll h (List.forall_mem_nil _) (List.forall_mem_nil _)

end Lexer

/-! ## Names that are read -/

namespace Parser

variable {α β : Type} {p q : Parser α} {f : α → Parser β} {P : α → Prop} {Q : β → Prop}
  {test : List Token → Bool}

/-- What the parser reads from written tokens has a property. -/
def Yields (p : Parser α) (P : α → Prop) : Prop :=
  ∀ ts x rest, (∀ t ∈ ts, t.Written) → p ts = some (x, rest) → P x

theorem yields_pure {x : α} (h : P x) : Yields (pure x) P := by
  intro ts y rest hts hy
  cases hy
  exact h

theorem yields_refuse : Yields refuse P := nofun

theorem Yields.bind [Drops p] (hp : Yields p P) (hf : ∀ x, P x → Yields (f x) Q) :
    Yields (p >>= f) Q := by
  intro ts y rest hts h
  obtain ⟨⟨x, mid⟩, hx, hy⟩ := Option.bind_eq_some_iff.1 h
  have hmid : ∀ t ∈ mid, t.Written := by
    intro t ht
    exact hts t ((Drops.suffix ts x mid hx).mem ht)
  exact hf x (hp ts x mid hts hx) mid y rest hmid hy

/-- Nothing needs to be known of what is read first. -/
theorem Yields.after [Drops p] (hf : ∀ x, Yields (f x) Q) : Yields (p >>= f) Q :=
  .bind (P := fun _ => True) (fun _ _ _ _ _ => trivial) fun x _ => hf x

/-- What is made of what is read last. -/
theorem Yields.map {m : α → β} (hp : Yields p P) (hm : ∀ x, P x → Q (m x)) :
    Yields (do return m (← p)) Q := by
  intro ts y rest hts h
  obtain ⟨⟨x, mid⟩, hx, hy⟩ := Option.bind_eq_some_iff.1 h
  cases hy
  exact hm x (hp ts x rest hts hx)

theorem yields_of_get {k : List Token → Parser β}
    (h : ∀ ts x rest, (∀ t ∈ ts, t.Written) → k ts ts = some (x, rest) → Q x) :
    Yields (get >>= k) Q := h

theorem Yields.ite {c : Prop} [Decidable c] (hp : Yields p P) (hq : Yields q P) :
    Yields (if c then p else q) P := by
  split <;> assumption

/-- What the parser reads has a property, whatever it reads. -/
def Gives (p : Parser α) (P : α → Prop) : Prop := ∀ ts x rest, p ts = some (x, rest) → P x

theorem Gives.yields (h : Gives p P) : Yields p P := fun ts x rest _ hx => h ts x rest hx

theorem gives_pure {x : α} (h : P x) : Gives (pure x) P := by
  intro ts y rest hy
  cases hy
  exact h

theorem Gives.after (hf : ∀ x, Gives (f x) Q) : Gives (p >>= f) Q := by
  intro ts y rest h
  obtain ⟨⟨x, mid⟩, hx, hy⟩ := Option.bind_eq_some_iff.1 h
  exact hf x mid y rest hy

theorem Gives.ite {c : Prop} [Decidable c] (hp : Gives p P) (hq : Gives q P) :
    Gives (if c then p else q) P := by
  split <;> assumption

theorem Yields.inGroup (d : Delimiter) (hp : Yields p P) : Yields (inGroup d p) P := by
  intro ts x rest hts h
  unfold Parser.inGroup at h
  split at h
  · next body _ rest =>
    have hbody : ∀ t ∈ body, t.Written := by
      cases hts _ List.mem_cons_self with
      | group hbody => exact hbody
    split at h
    · split at h
      · next hx =>
        cases h
        exact hp body x [] hbody hx
      · cases h
    · cases h
  · cases h

theorem Yields.whileUpTo [Drops p] (hp : Yields p P) (limit : Nat) :
    Yields (whileUpTo test p limit) fun xs => ∀ x ∈ xs, P x := by
  induction limit with
  | zero =>
    unfold Parser.whileUpTo
    exact .after fun _ => .ite yields_refuse (yields_pure (List.forall_mem_nil _))
  | succ limit ih =>
    unfold Parser.whileUpTo
    refine .after fun _ => .ite (.bind hp fun x hx => .bind ih fun xs hxs => ?_)
      (yields_pure (List.forall_mem_nil _))
    exact yields_pure (List.forall_mem_cons.2 ⟨hx, hxs⟩)

theorem Yields.repeatWhile [Drops p] (hp : Yields p P) :
    Yields (repeatWhile test p) fun xs => ∀ x ∈ xs, P x := by
  unfold Parser.repeatWhile
  exact .after fun _ => hp.whileUpTo _

theorem Yields.rowUntilUpTo [Drops p] {separator : String} (hp : Yields p P) (limit : Nat)
    (trailing : Bool) :
    Yields (rowUntilUpTo test separator p limit trailing) fun row => ∀ x ∈ row.items, P x := by
  induction limit generalizing trailing with
  | zero =>
    unfold Parser.rowUntilUpTo
    exact .after fun _ => .ite (yields_pure (List.forall_mem_nil _)) yields_refuse
  | succ limit ih =>
    unfold Parser.rowUntilUpTo
    refine .after fun _ => .ite (yields_pure (List.forall_mem_nil _)) ?_
    refine .bind hp fun x hx => .after fun _ => .ite ?_ (.after fun _ => ?_)
    · exact yields_pure (List.forall_mem_singleton.2 hx)
    · refine .bind (ih true) fun row hrow => ?_
      exact yields_pure (List.forall_mem_cons.2 ⟨hx, hrow⟩)

theorem Yields.commaRow [Drops p] (hp : Yields p P) :
    Yields (commaRow p) fun row => ∀ x ∈ row.items, P x := by
  unfold Parser.commaRow rowUntil
  exact .after fun _ => hp.rowUntilUpTo _ false

theorem yields_placedName :
    Yields placedName fun name => Written name.word ∧ isName name.word = true := by
  intro ts x rest hts h
  unfold placedName at h
  split at h
  · split at h
    · next hname =>
      cases h
      cases hts _ List.mem_cons_self with
      | word hword => exact ⟨hword, hname⟩
    · cases h
  · cases h

end Parser

namespace Grammar

open Relay.Parser

def BindsNames (p : PatternPhrase) : Prop := ∀ name ∈ p.binding, Bindable name

theorem bindsNames_nameless (isOpenRange : Bool) (spelling : List Token) :
    BindsNames (.nameless isOpenRange spelling) := nofun

variable {g : Grammar} {α : Type} {Q : α → Prop}

/-- The word that a pattern binds is read in two ways. -/
theorem yields_boundWord {k : Placed → Parser α}
    (hk : ∀ name, Bindable name.word → Yields (k name) Q) :
    Yields (do if ← sees (Ahead.keyword "self") then anyWord >>= k else placedName >>= k) Q := by
  intro ts x rest hts h
  change (if Ahead.keyword "self" ts = true then anyWord >>= k else placedName >>= k) ts = _ at h
  split at h
  · next hself =>
    unfold Ahead.keyword at hself
    split at hself
    · next w p tail =>
      rw [beq_iff_eq] at hself
      rw [List.forall_mem_cons] at hts
      cases hts.1 with
      | word hword => exact hk ⟨w, p⟩ ⟨hword, .inr hself⟩ tail x rest hts.2 h
    · cases hself
  · have hname : Yields (placedName >>= k) Q :=
      .bind yields_placedName fun name hname => hk name ⟨hname.1, .inl hname.2⟩
    exact hname ts x rest hts h

section Patterns

variable [g.Drops]

theorem yields_namePattern : Yields g.namePattern BindsNames := by
  dsimp only [namePattern]
  refine .after fun _ => .after fun _ => yields_boundWord fun name hname => ?_
  have hbinding (spelling : List Token) :
      BindsNames ⟨some name.word, false, spelling⟩ := by
    rintro _ ⟨⟩
    exact hname
  refine .after fun _ => .ite ?_ ?_
  · exact .after fun _ => .after fun _ => .after fun _ => yields_pure (hbinding _)
  · exact .after fun _ => yields_pure (hbinding _)

theorem yields_rangeFrom (first : List Token) : Yields (g.rangeFrom first) BindsNames := by
  unfold rangeFrom
  refine .after fun _ => .after fun _ => .ite yields_refuse ?_
  exact yields_pure (bindsNames_nameless _ _)

theorem yields_rangeTo : Yields g.rangeTo BindsNames := by
  unfold rangeTo
  refine .after fun _ => .after fun _ => .ite yields_refuse ?_
  exact yields_pure (bindsNames_nameless _ _)

theorem yields_pathPattern : Yields g.pathPattern BindsNames := by
  unfold pathPattern
  refine .after fun p => .after fun isMacro => ?_
  split
  · refine .ite (.after fun _ => .after fun _ => ?_) yields_refuse
    exact yields_pure (bindsNames_nameless _ _)
  · refine .after fun _ => .ite ?_ (.after fun _ => .ite ?_ (.after fun _ => .ite ?_ ?_))
    · exact .after fun _ => yields_pure (bindsNames_nameless _ _)
    · exact .after fun _ => yields_pure (bindsNames_nameless _ _)
    · exact yields_rangeFrom _
    · exact yields_pure (bindsNames_nameless _ _)

theorem yields_patternForm : Yields g.patternForm BindsNames := by
  unfold patternForm
  refine .after fun _ => .ite yields_pathPattern (.after fun _ => .ite ?_ (.after fun _ => .ite ?_
    (.after fun _ => .ite ?_ (.after fun _ => .ite yields_namePattern (.after fun _ => .ite ?_
      (.after fun _ => .ite ?_ (.after fun _ => .ite ?_ yields_rangeTo)))))))
  · exact .after fun _ => yields_pure (bindsNames_nameless _ _)
  · exact .after fun _ => .after fun _ => yields_pure (bindsNames_nameless _ _)
  · refine .after fun _ => .after fun _ => .ite (yields_rangeFrom _) ?_
    exact yields_pure (bindsNames_nameless _ _)
  · exact .after fun _ => .after fun _ => .after fun _ => yields_pure (bindsNames_nameless _ _)
  · exact .after fun _ => yields_pure (bindsNames_nameless _ _)
  · exact .after fun _ => yields_pure (bindsNames_nameless _ _)

end Patterns

theorem yields_pattern (depth : Nat) : Yields (ofDepth depth).pattern BindsNames := by
  cases depth with
  | zero => exact yields_refuse
  | succ depth => exact yields_patternForm

/-! ## Methods and items -/

theorem gives_structItem : Gives g.structItem Content.Named := by
  dsimp only [structItem]
  repeat' first
    | exact gives_pure trivial | refine .after fun _ => ?_ | refine .ite ?_ ?_

theorem gives_enumeration : Gives g.enumeration Content.Named := by
  unfold enumeration
  exact .after fun _ => .after fun _ => .after fun _ => .after fun _ => .after fun _ =>
    gives_pure trivial

theorem gives_union : Gives g.union Content.Named := by
  unfold union
  exact .after fun _ => .after fun _ => .after fun _ => .after fun _ => .after fun _ =>
    gives_pure trivial

theorem gives_implementation (vis : Visibility) : Gives (g.implementation vis) Content.Named := by
  dsimp only [implementation]
  repeat' first
    | exact gives_pure trivial | refine .after fun _ => ?_ | refine .ite ?_ ?_

theorem gives_module : Gives g.module Content.Named := by
  dsimp only [module]
  repeat' first
    | exact gives_pure trivial | refine .after fun _ => ?_ | refine .ite ?_ ?_

/-- A parameter has a name that can be bound, if it has one. -/
def Input.Named : Input → Prop
  | .param p => ∀ name ∈ p.name, Bindable name
  | _ => True

section Methods

variable [g.Drops] (hpattern : Yields g.pattern BindsNames)

include hpattern

theorem yields_input : Yields g.input Input.Named := by
  unfold input
  refine .after fun start => .after fun _ => .after fun isOpen => .ite (yields_pure trivial) ?_
  refine yields_of_get fun ts x rest hts h => ?_
  cases hr : g.receiver ts with
  | some left =>
    rw [hr] at h
    cases h
    trivial
  | none =>
    rw [hr] at h
    revert h
    refine Yields.after (fun _ => .ite (.after fun _ => ?_) ?_) ts x rest hts
    · refine yields_pure ?_
      intro name hname
      cases hname
    · refine .bind hpattern fun p hp => .after fun _ => .after fun _ => ?_
      exact .ite (yields_pure trivial) (.after fun _ => yields_pure hp)

theorem yields_signature : Yields g.signature Signature.Named := by
  unfold signature
  refine .after fun _ => .after fun _ => .after fun _ => .after fun _ => .after fun _ =>
    .bind yields_placedName fun name hname => .after fun _ =>
      .bind (.inGroup _ (yields_input hpattern).commaRow) fun inputs hinputs => .after fun _ =>
        .after fun _ => .ite (yields_pure ⟨hname.1, hname.2, ?_⟩) yields_refuse
  intro p hp
  obtain ⟨i, hi, hparam⟩ := List.mem_filterMap.1 hp
  cases i with
  | param q =>
    cases hparam
    exact hinputs _ hi
  | _ => cases hparam

theorem yields_member : Yields g.member Member.Named := by
  dsimp only [member]
  have hread (plain : Bool) (m : Member) (p : Option Position) (hm : m.Named) :
      Yields (do let m ← pure m; return if plain then m else .other p) Member.Named := by
    refine .map (yields_pure hm) fun m hm => ?_
    split
    · exact hm
    · trivial
  refine .after fun start => .after fun _ => .after fun vis => .after fun marked =>
    .after fun _ => .after fun _ => .after fun _ => .after fun _ => .ite ?_ (.ite ?_ (.ite ?_
      (.ite ?_ ?_)))
  · exact .bind (yields_signature hpattern) fun s hs => .after fun _ => hread _ _ _ hs
  · refine .after fun c => hread _ _ _ ?_
    split <;> trivial
  · exact .after fun _ => hread _ _ _ trivial
  · exact .after fun _ => hread _ _ _ trivial
  · exact .bind (P := fun _ => False) yields_refuse fun _ h => h.elim

theorem yields_trait (vis : Visibility) (canAlias : Bool) :
    Yields (g.trait vis canAlias) Content.Named := by
  have hmembers (name : Placed) (isGeneric : Bool) : Yields (do
      let members ← inGroup .brace (do
        let _ ← g.innerAttributes
        repeatWhile (fun ts => !ts.isEmpty) g.member)
      return .trait ⟨name, vis, isGeneric, members⟩) Content.Named := by
    exact .map (.inGroup _ (.after fun _ => (yields_member hpattern).repeatWhile)) fun _ h => h
  dsimp only [trait]
  refine .after fun _ => .after fun name => .after fun isGeneric => .after fun _ => .ite ?_ ?_
  · exact (Gives.after fun _ => .after fun _ => .after fun _ => .after fun _ =>
      gives_pure trivial).yields
  · refine .after fun _ => .ite (.after fun _ => .after fun _ => ?_) (.after fun _ => ?_)
    · exact hmembers name isGeneric
    · exact hmembers name isGeneric

theorem yields_content : Yields g.content Content.Named := by
  have hkindless (p : Parser Unit) :
      Yields (do p; return Content.other .other "item") Content.Named :=
    (Gives.after fun _ => gives_pure trivial).yields
  have hchoice {c : Prop} [Decidable c] (kind : ItemKind) (name : String) :
      Content.Named (if c then Content.other kind name else .other .other "item") := by
    split <;> trivial
  dsimp only [content]
  refine .after fun vis => .after fun ts => .ite ?_ (.ite ?_ (.ite (hkindless _) (.ite (hkindless _)
    (.ite (hkindless _) (.ite ?_ (.ite gives_module.yields (.ite ?_ (.ite gives_structItem.yields
      (.ite gives_enumeration.yields (.ite gives_union.yields (.ite ?_ (.ite ?_ (.ite ?_ (.ite
        (hkindless _) (.ite (hkindless _) yields_refuse)))))))))))))))
  · exact (Gives.after fun s => .after fun _ => gives_pure (hchoice _ _)).yields
  · exact .ite (hkindless _) (hkindless _)
  · refine .ite (gives_implementation vis).yields (.ite (hkindless _) ?_)
    refine .after fun _ => .ite gives_module.yields (.after fun _ => ?_)
    exact yields_trait hpattern vis false
  · exact (Gives.after fun n => gives_pure (hchoice _ _)).yields
  · exact yields_trait hpattern vis true
  · exact .after fun _ => yields_trait hpattern vis false
  · exact (gives_implementation vis).yields

theorem yields_itemForm : Yields g.itemForm fun item => item.content.Named := by
  unfold itemForm
  exact .after fun _ => .after fun _ => .map (yields_content hpattern) fun c hc => hc

end Methods

theorem yields_item (depth : Nat) :
    Yields (ofDepth depth).item fun item => item.content.Named := by
  cases depth with
  | zero => exact yields_refuse
  | succ depth => exact yields_itemForm (yields_pattern depth)

end Grammar

/-- What is read from a text has a property that all phrases have, at any depth. -/
theorem Source.of_read {α : Type} {p : Grammar → Parser α} {P : α → Prop}
    (hp : ∀ depth, Parser.Yields (p (Grammar.ofDepth depth)) P) {text : String} {x : α}
    (h : read p text = .ok x) : P x := by
  unfold read readTokens at h
  cases htokens : Lexer.tokens? text with
  | none =>
    rw [htokens] at h
    cases h
  | some ts =>
    rw [htokens] at h
    cases hphrase : phrase? p ts with
    | none =>
      simp only [bind, Except.bind, hphrase] at h
      cases h
    | some x =>
      simp only [bind, Except.bind, hphrase] at h
      cases h
      unfold phrase? Parser.whole? at hphrase
      split at hphrase
      · next hitem =>
        cases hphrase
        exact hp _ ts _ [] (Lexer.written_of_tokens? htokens) hitem
      · cases hphrase

theorem Source.named_of_readItem {text : String} {item : Item} (h : readItem text = .ok item) :
    item.content.Named :=
  of_read Grammar.yields_item h

end Relay
