import SqlWeave.Proofs.Parser.Level

/-! Walking the readers of clauses, types and expressions. -/

namespace SqlWeave.Parser

variable {T : Tape} {i : Nested} {P : Spot → Prop} {c : Spot}

def AtType (c : Spot) : Prop := TypeStart c.place.before c.place.outer

/-- All that nests keeps its level; a type is only read where one may start. -/
structure Nested.Walked (T : Tape) (i : Nested) : Prop where
  expr : ∀ least, Keeps T (i.expr least)
  operand : Keeps T i.operand
  primary : Keeps T i.primary
  query : Keeps T i.query
  dataType : Walks T AtType none i.dataType

/-! ## Clauses -/

theorem alias?_keeps : Keeps T alias? := by
  refine .bind (eatKeyword_keeps _) fun _ => .ite (.look fun k => ?_) (.look fun k => ?_)
  · split
    · exact .take rfl .done
    · exact .take rfl .done
    · exact .bind identifier_keeps fun _ => .done
  · split
    · exact .ite (.take rfl .done) .done
    · exact .take rfl .done
    · exact .take rfl .done
    · exact .done

def AtWindow (c : Spot) : Prop := WindowStart c.place.before

def InWindow (c : Spot) : Prop :=
  ∃ window outer, c.place.outer = ⟨.rightParen, window⟩ :: outer ∧ WindowStart window

theorem inWindow_stable : Stable InWindow := by
  rintro c c' ⟨window, outer, houter, h⟩ ⟨_, ho⟩
  exact ⟨window, outer, ho.trans houter, h⟩

namespace Nested

theorem direction?_keeps : Keeps T direction? :=
  .bind (eatKeyword_keeps _) fun _ =>
    .ite .done (.bind (eatKeyword_keeps _) fun _ => .ite .done .done)

theorem nulls?_keeps : Keeps T nulls? := by
  refine .bind (eatKeyword_keeps _) fun _ => .ite (.when (isAtAnyWord_asks _) fun v => ?_) .done
  split
  · rename_i hv
    exact .text fun _ => .taking (fun c hc => anyWord_plain (hc.2.trans hv)) .done
  · exact .unexpected

theorem frame?_walks : Walks T InWindow none frame? := by
  refine .when (isAtAnyWord_asks _) fun v => ?_
  split
  · rename_i hv
    refine .andThen (textToParenthesis_walks (fun c hc => anyWord_plain (hc.2.trans hv)) ?_)
      fun _ => .done
    rintro c ⟨⟨window, outer, houter, h⟩, hfront⟩ k hk unread
    rw [houter]
    exact .frame h (hfront.trans hv) hk unread
  · exact .done

section Clauses

variable (h : i.Walked T)
include h

theorem Walked.exprs : Keeps T i.exprs := commaSeparated_keeps (h.expr 0)

theorem Walked.exprsUpTo {closing : Symbol}
    (hclosing : (TokenKind.symbol closing).bracket? = some (.closes closing)) :
    Shuts T closing (i.exprsUpTo closing) := by
  refine .when (isAt_asks _) fun _ => .ite (.pureBind (.closing hclosing .done)) ?_
  exact .bind h.exprs fun _ => .closing hclosing .done

theorem Walked.parenthesizedQuery : Shuts T .rightParen i.parenthesizedQuery :=
  .bind h.query fun _ => .closing rfl .done

theorem Walked.orderItem : Keeps T i.orderItem :=
  .bind (h.expr 0) fun _ => .bind direction?_keeps fun _ => .bind nulls?_keeps fun _ => .done

theorem Walked.orderBy? : Keeps T i.orderBy? :=
  .bind (eatKeyword_keeps _) fun _ => .ite (.bind (expectKeyword_keeps _) fun _ =>
    .bind (commaSeparated_keeps h.orderItem) fun _ => .done) .done

theorem Walked.partitionBy? : Keeps T i.partitionBy? :=
  .bind (eatKeyword_keeps _) fun _ =>
    .ite (.bind (expectKeyword_keeps _) fun _ => .bind h.exprs fun _ => .done) .done

theorem Walked.windowSpec : Walks T AtWindow none i.windowSpec := by
  refine .look fun k => ?_
  split
  · exact .take rfl .done
  · refine .expectOpening rfl (WalksTo.of (P := InWindow) ?_ ?_)
    · refine .bindStable inWindow_stable h.partitionBy? fun _ =>
        .bindStable inWindow_stable h.orderBy? fun _ => ?_
      exact .andThen frame?_walks fun _ => .closing rfl .done
    · rintro c' ⟨c, ⟨⟨hc, _⟩, _⟩, hplace⟩
      exact ⟨c.place.before, c.place.outer, by rw [hplace]; rfl, hc⟩

theorem Walked.over? : Keeps T i.over? := by
  refine .whenTaken (isAtKeyword_asks _) (fun _ => keyword_plain)
    (.andThen (h.windowSpec.of ?_) fun _ => .done) .done
  rintro c' ⟨c, _, ⟨_, hfront⟩, hplace, _⟩
  rw [AtWindow, hplace, beq_iff_eq.mp hfront]
  exact .over _

end Clauses

end Nested

/-! ## Types -/

/-- After the name of a type. -/
def AfterType (c : Spot) : Prop :=
  ∃ type before, c.place.before = type ++ before ∧ TypeName type ∧ TypeStart before c.place.outer

/-- In the parentheses of a type. -/
def InType (c : Spot) : Prop :=
  ∃ type before outer, c.place.outer = ⟨.rightParen, type ++ before⟩ :: outer ∧ TypeName type ∧
    TypeStart before outer

theorem typeName_walks : WalksTo T AtType none typeName fun _ => AfterType := by
  have hafter :
      ∀ k, TypeName [k] → ∀ c', Past (fun c => AtType c ∧ c.front = k) c' → AfterType c' := by
    rintro k hk c' ⟨c, _, ⟨hc, hfront⟩, hplace, _⟩
    exact ⟨[k], c.place.before, by rw [hplace, ← hfront]; rfl, hk, by rw [hplace]; exact hc⟩
  refine .look fun k => ?_
  split
  · exact .text fun _ => .taking (fun c hc => hc.2 ▸ rfl) (.pure (hafter _ (.word rfl)))
  · exact .text fun _ => .taking (fun c hc => hc.2 ▸ rfl) (.pure (hafter _ (.word rfl)))
  · exact .taking (fun c hc => hc.2 ▸ rfl) (.pure (hafter _ (.quoted _)))
  · exact .unexpected

theorem secondWord_walks (name : String) {types : List (String × String)}
    (htypes : ∀ t ∈ types, t ∈ twoWordTypes) :
    WalksTo T AfterType none (secondWord name types) fun _ => AfterType := by
  induction types generalizing name with
  | nil => exact .pure fun _ hc => hc
  | cons type types ih =>
    obtain ⟨htype, hmore⟩ := List.forall_mem_cons.mp htypes
    refine .when (isAtWord_asks _) fun v => ?_
    split
    · rename_i hv
      have hword : v = true := (Bool.and_eq_true_iff.mp hv).2
      refine .text fun _ => .taking (fun c hc => isWord_plain (hc.2.trans hword))
        ((ih _ hmore).of ?_)
      rintro c' ⟨c, _, ⟨⟨words, before, hbefore, hname, hstart⟩, hfront⟩, hplace, _⟩
      refine ⟨c.front :: words, before, ?_, .second hname htype (hfront.trans hword), ?_⟩
      · rw [hplace, Place.push, hbefore]
        rfl
      · rw [hplace]
        exact hstart
    · exact (ih _ hmore).of fun _ hc => hc.1

/-- The scale is taken whatever it is. -/
theorem typeSize_walks (text : String) :
    Walks T (fun c => (InType c ∧ c.place.before = []) ∧ c.front = .number text) none
      (typeSize text) := by
  have hscale : Walks T (fun c => InType c ∧ c.place.before = [.symbol .comma, .number text] ∧
      c.place.afterUnread = false)
      none advance := by
    rintro c before outer ⟨⟨type, start, o, ho, hname, hstart⟩, hbefore, hread⟩ hl
    cases hl
    refine Goes.mono (Goes.pass fun k _ _ => ?_) fun _ c' _ hc' => ?_
    · obtain ⟨⟨b, o', unread⟩, ahead⟩ := c
      simp only at ho hbefore hread
      subst ho hbefore hread
      exact .scale hname hstart k
    · rcases hc' with ⟨rfl, _⟩ | hplace
      · exact ⟨List.suffix_refl _, rfl, trivial⟩
      · rw [hplace]
        exact ⟨List.suffix_refl _, rfl, trivial⟩
  refine .taking (fun c hc => hc.2 ▸ rfl)
    (.whenTaken (isAt_asks _) (fun _ hk => beq_iff_eq.mp hk ▸ rfl) ?_ .done)
  have hcomma : ∀ c, Past (fun c => Past (fun c => (InType c ∧ c.place.before = []) ∧
      c.front = .number text) c ∧
      (c.front == .symbol .comma) = true) c →
      InType c ∧ c.place.before = [.symbol .comma, .number text] ∧ c.place.afterUnread = false := by
    rintro c₂ ⟨c₁, _, ⟨⟨c, _, ⟨⟨⟨type, start, o, ho, htype⟩, hbefore⟩, hfront⟩, hplace, _⟩,
      hfront₁⟩, hplace₁, _⟩
    rw [hplace₁, hplace]
    refine ⟨⟨type, start, o, ?_, htype⟩, ?_, rfl⟩
    · rw [hplace₁, hplace]
      exact ho
    · rw [beq_iff_eq.mp hfront₁, Place.push, Place.push, hbefore, hfront]
  refine .look fun k => ?_
  split <;> exact .pureBind (.andThen (hscale.of fun c hc => hcomma c hc.1) fun _ => .done)

namespace Nested

/-- A pair of brackets is seen as a whole before it is taken. -/
theorem brackets_keeps : Keeps T (many bracketPair advance) := by
  intro c before outer _ hl
  cases hl
  have hmany : Goes T c (many bracketPair advance) fun _ => SameLevel c := by
    refine Goes.many (I := SameLevel c) (J := fun c' => c'.front = .symbol .rightBracket ∧
      ∃ before, c.place.before <:+ before ∧
        c'.place.outer = ⟨.rightBracket, before⟩ :: c.place.outer)
      ?_ ?_ ⟨List.suffix_refl _, rfl⟩
    · rintro c₁ ⟨hb, ho⟩
      refine (Goes.test (isAt_asks _)).bind ?_
      rintro _ c₂ - ⟨rfl, rfl⟩
      refine Goes.nextKind.bind ?_
      rintro _ c₃ - ⟨rfl, hnext⟩
      split
      · rename_i hboth
        obtain ⟨hopen, hclose⟩ := Bool.and_eq_true_iff.mp hboth
        obtain ⟨t, t', ts, hahead, hkind⟩ := hnext .rightBracket (beq_iff_eq.mp hclose)
        refine (Goes.take (reads_opening .rightBracket (beq_iff_eq.mp hopen ▸ rfl))).bind ?_
        rintro _ c₄ - ⟨hplace, t₁, hahead'⟩
        refine .pure ?_
        rw [hahead] at hahead'
        injection hahead' with _ hrest
        refine ⟨?_, c₃.place.before, hb, ?_⟩
        · rw [Spot.front_cons hrest.symm, hkind]
        · rw [hplace, ← ho]
          rfl
      · exact .pure ⟨hb, ho⟩
    · rintro c₁ ⟨hfront, before, hb, ho⟩
      refine (Goes.take (reads_closing ⟨.rightBracket, before⟩ (hfront ▸ rfl) ho)).mono ?_
      rintro _ c₂ - ⟨hplace, -⟩
      rw [SameLevel, hplace]
      exact ⟨hb.trans (List.suffix_cons _ _), rfl⟩
  refine hmany.mono ?_
  rintro _ c' - ⟨hb, ho⟩
  exact ⟨hb, ho, trivial⟩

theorem suffixWord_keeps : Keeps T suffixWord := by
  refine .when (isAtAnyWord_asks _) fun v => ?_
  split
  · rename_i hv
    exact .text fun _ => .taking (fun c hc => anyWord_plain (hc.2.trans hv)) .done
  · exact .done

theorem suffixWords_keeps (n : Nat) : Keeps T (suffixWords n) := by
  induction n with
  | zero => exact .outOfRounds
  | succ n ih =>
    refine .bind suffixWord_keeps fun word => ?_
    split
    · exact .bind ih fun _ => .done
    · exact .done

section Types

variable (h : i.Walked T)
include h

/-- An argument is no type where a field's name comes first. -/
theorem Walked.typeArgument :
    Walks T (fun c => InType c ∧ ItemStart c.place.before) none i.typeArgument := by
  refine .look fun k => .peek fun k' => .ite ?_ (.look fun k => ?_)
  · refine .andThen identifier_walks fun name => .andThen (h.dataType.of ?_) fun _ => .done
    rintro c' ⟨c, _, ⟨⟨⟨type, before, outer, ho, hname, hstart⟩, hitem⟩, _⟩, hplace, _⟩
    rw [AtType, hplace, Place.push, ho]
    exact .field hitem hname hstart
  · split
    · exact .take rfl .done
    · refine .andThen (h.dataType.of ?_) fun _ => .done
      rintro c ⟨⟨⟨⟨type, before, outer, ho, hname, hstart⟩, hitem⟩, _⟩, _⟩
      rw [AtType, ho]
      exact .argument hitem hname hstart

theorem Walked.typeArguments (t : DataType Expr) : Walks T AfterType none (i.typeArguments t) := by
  have hin : ∀ c, Opened (fun c => AfterType c ∧ c.front = .symbol .leftParen) .rightParen c →
      InType c ∧ c.place.before = [] := by
    rintro c' ⟨c, ⟨⟨type, before, hbefore, hname, hstart⟩, _⟩, hplace⟩
    refine ⟨⟨type, before, c.place.outer, ?_, hname, hstart⟩, by rw [hplace]; rfl⟩
    rw [hplace, Place.within, hbefore]
  refine .eatOpening rfl (WalksTo.of (P := fun c => InType c ∧ c.place.before = [])
    (.look fun k => ?_) hin) .done
  split
  · exact .andThen (typeSize_walks _) fun _ => .pureBind (.closing rfl .done)
  · refine .andThen ((commaSeparated_walks h.typeArgument ?_).of ?_) fun _ =>
      .pureBind (.closing rfl .done)
    · rintro c c' ⟨⟨type, start, outer, houter, htype⟩, _⟩ ⟨_, ho⟩ hitem
      exact ⟨⟨type, start, outer, ho.trans houter, htype⟩, hitem⟩
    · rintro c ⟨⟨htype, hbefore⟩, _⟩
      exact ⟨htype, hbefore ▸ .first⟩

theorem Walked.readDataType : Walks T AtType none i.readDataType := by
  refine .andThen typeName_walks fun _ => .andThen (secondWord_walks _ fun _ ht => ht) fun _ => ?_
  refine .andThen (h.typeArguments _) fun _ => .bind brackets_keeps fun _ => .rounds fun n => ?_
  exact .bind (suffixWords_keeps n) fun _ => .done

end Types

end Nested

/-! ## Operands -/

theorem columnOf_keeps (qualifiers : List String) (column : Option String) :
    Keeps T (columnOf qualifiers column) :=
  .addColumn .done

theorem pathTail_keeps (n : Nat) : Keeps T (pathTail n) := by
  induction n with
  | zero => exact .outOfRounds
  | succ n ih =>
    refine .bind (eat_keeps rfl) fun _ => .ite (.bind (eat_keeps rfl) fun _ => .ite .done ?_) .done
    exact .bind identifier_keeps fun _ => .bind ih fun _ => .done

/-- In the parentheses after AGAINST. -/
def InSearch (c : Spot) : Prop :=
  ∃ search outer, c.place.outer = ⟨.rightParen, .keyword .AGAINST :: search⟩ :: outer

theorem inSearch_stable : Stable InSearch := by
  rintro c c' ⟨search, outer, houter⟩ ⟨_, ho⟩
  exact ⟨search, outer, ho.trans houter⟩

/-- After the word MAP. -/
def AfterMap (T : Tape) (c : Spot) : Prop :=
  ∃ name, name :: c.ahead <:+ T.inner ∧ (name.word? T.source.text).map Text.asciiUpper = some "MAP"

/-- The word MAP and the bracket after it. -/
theorem blamed_map {span : Span} (hc : AfterMap T c) (hfront : c.front = .symbol .leftBracket)
    (hspan : ∀ t, c.ahead.head? = some t → span = t.span) : T.Blamed ⟨.oddMapItems, span⟩ := by
  obtain ⟨name, ⟨before, hbefore⟩, hmap⟩ := hc
  cases hahead : c.ahead with
  | nil =>
    rw [Spot.front_nil hahead] at hfront
    cases hfront
  | cons t ts =>
    refine ⟨before ++ [name], t, ts ++ [T.last], ?_, (hspan t (by rw [hahead]; rfl)).symm,
      .oddMapItems ⟨?_, ?_⟩⟩
    · rw [Tape.tokens, ← hbefore, hahead]
      simp
    · rw [← Spot.front_cons hahead, hfront]
    · exact ⟨name, List.getLast?_concat, hmap⟩

namespace Nested

theorem searchMode?_walks : Walks T InSearch none searchMode? := by
  refine .when (isAtKeyword_asks _) fun v => .when (isAtKeyword_asks _) fun v' => ?_
  split
  · rename_i hv
    have hfront : ∀ c : Spot, (InSearch c ∧ (c.front == .keyword .IN) = v) ∧
        (c.front == .keyword .WITH) = v' →
        c.front = .keyword .IN ∨ c.front = .keyword .WITH := by
      rintro c ⟨⟨_, hin⟩, hwith⟩
      rw [← hin, ← hwith] at hv
      simpa using hv
    refine .andThen (textToParenthesis_walks (fun c hc => ?_) ?_) fun _ => .done
    · rcases hfront c hc with hk | hk <;> rw [hk] <;> rfl
    · intro c hc k hk unread
      obtain ⟨search, outer, houter⟩ := hc.1.1
      rw [houter]
      exact .searchMode (hfront c hc) hk unread
  · exact .done

section Operands

variable (h : i.Walked T)
include h

theorem Walked.separator? : Keeps T i.separator? :=
  .bind (eatWord_keeps _) fun _ => .ite (.bind h.primary fun _ => .done) .done

theorem Walked.aggregateCall (name : String) : Shuts T .rightParen (i.aggregateCall name) :=
  .bind (eatKeyword_keeps _) fun _ => .bind h.exprs fun _ => .bind h.orderBy? fun _ =>
    .bind h.separator? fun _ => .closing rfl <| .bind h.over? fun _ => .done

theorem Walked.plainCall (name : String) : Shuts T .rightParen (i.plainCall name) := by
  refine .andOutside (h.exprsUpTo rfl) fun _ => .bind h.over? fun _ => ?_
  split
  · exact .ite .done .done
  · exact .ite .done .done
  · exact .done

theorem Walked.callOf (name : String) : Keeps T (i.callOf name) :=
  .expectOpening rfl <| .when (isAt_asks _) fun _ =>
    .ite (h.aggregateCall name).on (h.plainCall name).on

theorem Walked.mapLiteral (keyword : String) :
    Walks T (AfterMap T) none (i.mapLiteral keyword) := by
  refine .after (fun _ => Goes.get) fun s => .expectOpening rfl ?_
  refine .knowing (T.Blamed ⟨.oddMapItems, s.current.span⟩) ?_ fun hblamed => ?_
  · rintro c' ⟨c, ⟨⟨hc, hcurrent⟩, hfront⟩, _⟩
    exact blamed_map hc hfront fun t ht => by rw [hcurrent t ht]
  · exact .andOutside (h.exprsUpTo rfl).on fun items => .ite .done fun _ _ _ _ _ _ _ => hblamed

theorem Walked.path (first : String) : Keeps T (i.path first) :=
  .rounds fun n => .bind (pathTail_keeps n) fun _ => .ite (columnOf_keeps _ _) <|
    .when (isAt_asks _) fun _ => .ite (h.callOf _).on (columnOf_keeps _ _).on

theorem Walked.nameExpr : Keeps T i.nameExpr := by
  refine .within (.look fun k => .andThen identifier_walks fun name =>
    .byCases (fun _ => (h.path name).on)
    fun hquoted => ?_)
  refine .when (isAt_asks _) fun _ =>
    .ite (h.callOf name).on (.ite .done (.when (isAt_asks _) fun v => ?_))
  refine .byCases (fun hv => .ite ?_ (.byCases (fun hmap => ?_) fun _ => (h.path name).on)) fun _ =>
    (h.path name).on
  · refine .of (.opening (P := Anywhere) (k := .symbol .leftBracket) rfl ?_)
      fun c hc => ⟨trivial, beq_iff_eq.mp (hc.2.trans hv)⟩
    exact .andOutside (h.exprsUpTo rfl).on fun _ => .done
  · refine (h.mapLiteral name).of ?_
    rintro c' ⟨⟨⟨c, t, ⟨⟨_, hwithin⟩, hfront⟩, _, hahead, _, hname⟩, _⟩, _⟩
    refine ⟨t, hahead ▸ hwithin, ?_⟩
    rcases hname with hname | hname
    · rw [← hfront, hname] at hquoted
      exact absurd rfl hquoted
    · rw [hname]
      exact congrArg some (beq_iff_eq.mp hmap)

theorem Walked.parenthesizedExpr : Shuts T .rightParen i.parenthesizedExpr := by
  refine .when isAtQuery_asks fun _ => .ite (.andOutside h.parenthesizedQuery.on fun _ => .done) ?_
  refine .bind (h.expr 0) fun _ => .bind (many_keeps (eat_keeps rfl) (h.expr 0)) fun _ =>
    .closing rfl ?_
  exact .ite .done .done

theorem Walked.caseArm : Keeps T i.caseArm :=
  .bind (h.expr 0) fun _ => .bind (expectKeyword_keeps _) fun _ => .bind (h.expr 0) fun _ => .done

theorem Walked.caseExpr : Keeps T i.caseExpr := by
  refine .when (isAtKeyword_asks _) fun _ =>
    .ite (.bind .done ?arms) (.bind (h.expr 0) fun _ => .bind .done ?arms)
  intro subject
  refine .bind (many_keeps (eatKeyword_keeps _) h.caseArm) fun _ => .ite .unexpected ?_
  refine .bind (eatKeyword_keeps _) fun _ =>
    .ite (.bind (h.expr 0) fun _ => .bind .done ?otherwise) (.bind .done ?otherwise)
  exact fun _ => .bind (expectKeyword_keeps _) fun _ => .done

theorem Walked.castExpr :
    Walks T (fun c => ∃ before, c.place.before = .keyword .CAST :: before) none i.castExpr := by
  have hstable : Stable fun c : Spot =>
      ∃ before outer, c.place.outer = ⟨.rightParen, .keyword .CAST :: before⟩ :: outer :=
    fun c c' ⟨before, outer, houter⟩ ⟨_, ho⟩ => ⟨before, outer, ho.trans houter⟩
  refine .expectOpening rfl (WalksTo.of (.bindStable hstable (h.expr 0) fun _ =>
    .andThen (expectKeyword_past _) fun _ => .andThen (h.dataType.of ?_) fun _ =>
      .closing rfl .done) ?_)
  · rintro c' ⟨c, _, ⟨⟨before, outer, houter⟩, hfront⟩, hplace, _⟩
    rw [AtType, hplace, Place.push, hfront, houter]
    exact .castTarget
  · rintro c' ⟨c, ⟨⟨before, hbefore⟩, _⟩, hplace⟩
    exact ⟨before, c.place.outer, by rw [hplace, Place.within, hbefore]⟩

theorem Walked.existsExpr : Keeps T i.existsExpr :=
  .expectOpening rfl <| .andOutside h.parenthesizedQuery.on fun _ => .done

theorem Walked.intervalExpr : Keeps T i.intervalExpr := by
  refine .bind h.operand fun _ => .look fun k => ?_
  split
  · exact .take rfl .done
  · exact .done

theorem Walked.extractExpr : Keeps T i.extractExpr :=
  .expectOpening rfl <| .bind identifier_keeps fun _ => .bind (expectKeyword_keeps _) fun _ =>
    .bind (h.expr 0) fun _ => .closing rfl .done

theorem Walked.matchColumn : Keeps T i.matchColumn := by
  refine .bind h.nameExpr fun _ => ?_
  split
  · exact .done
  · exact .unexpected

theorem Walked.fullTextSearch : Keeps T i.fullTextSearch := by
  refine .expectOpening rfl <| .bind (commaSeparated_keeps h.matchColumn) fun _ => .closing rfl ?_
  refine .andThen (expectKeyword_past _) fun _ =>
    .expectOpening rfl (WalksTo.of (P := InSearch) ?_ ?_)
  · exact .bindStable inSearch_stable h.operand fun _ => .andThen searchMode?_walks fun _ =>
      .closing rfl .done
  · rintro c'' ⟨c', ⟨⟨c, _, ⟨_, hfront⟩, hplace, _⟩, _⟩, hplace'⟩
    exact ⟨c.place.before, c.place.outer, by rw [hplace', Place.within, hplace, Place.push, hfront]⟩

theorem Walked.structField : Keeps T i.structField :=
  .bind h.primary fun _ => .bind (expect_keeps rfl) fun _ => .bind (h.expr 0) fun _ => .done

theorem Walked.structFields (n : Nat) : Keeps T (i.structFields n) := by
  induction n with
  | zero => exact .outOfRounds
  | succ n ih =>
    refine .when (isAt_asks _) fun _ =>
      .ite .done (.bind h.structField fun _ => .bind (eat_keeps rfl) fun _ => ?_)
    exact .ite (.bind ih fun _ => .done) .done

theorem Walked.structLiteral : Shuts T .rightBrace i.structLiteral :=
  .rounds fun n => .bind (h.structFields n) fun _ => .closing rfl .done

theorem Walked.wordExpr (k : Keyword) :
    Walks T (fun c => P c ∧ c.front = .keyword k) none (i.wordExpr k) := by
  refine .peek fun _ => .ite (.text fun _ => .take rfl (h.callOf _))
    (.ite h.nameExpr.on .unexpected)

theorem Walked.keywordExpr (k : Keyword) :
    Walks T (fun c => P c ∧ c.front = .keyword k) none (i.keywordExpr k) := by
  unfold Nested.keywordExpr
  split
  case h_6 =>
    refine .taking (fun c hc => hc.2 ▸ rfl) (h.castExpr.of ?_)
    rintro c' ⟨c, _, ⟨_, hfront⟩, hplace, _⟩
    exact ⟨c.place.before, by rw [hplace, ← hfront]; rfl⟩
  case h_11 => exact h.wordExpr _
  case h_5 => exact .take rfl h.caseExpr
  case h_7 => exact .take rfl h.existsExpr
  case h_8 => exact .take rfl h.intervalExpr
  case h_9 => exact .take rfl h.extractExpr
  case h_10 => exact .take rfl h.fullTextSearch
  all_goals exact .take rfl .done

theorem Walked.readPrimary : Keeps T i.readPrimary := by
  refine .look fun k => ?_
  split
  case h_9 => exact .opening rfl h.parenthesizedExpr.on
  case h_10 => exact .opening rfl (.andOutside (h.exprsUpTo rfl).on fun _ => .done)
  case h_11 => exact .opening rfl h.structLiteral.on
  case h_12 => exact h.keywordExpr _
  case h_13 => exact h.nameExpr.on
  case h_14 => exact h.nameExpr.on
  case h_15 => exact .unexpected
  all_goals exact .take rfl .done

end Operands

end Nested

/-! ## Operators -/

theorem leading?_plain {k : TokenKind} {operator : String × Nat}
    (h : Operator.leading? k = some operator) :
    k.isPlain = true := by
  unfold Operator.leading? at h
  split at h
  case h_6 => cases h
  all_goals rfl

theorem text?_plain {k : TokenKind} {operator : String} (h : Operator.text? k = some operator) :
    k.isPlain = true := by
  unfold Operator.text? at h
  split at h
  case h_21 => cases h
  all_goals rfl

namespace Nested

theorem operatorText?_goes (c : Spot) : Goes T c operatorText? fun operator c' =>
    c' = c ∧ (operator.isSome = true → c.front.isPlain = true) := by
  refine Goes.kind.bind fun k c' _ ⟨hc', hk⟩ => ?_
  subst hc' hk
  split
  · rename_i hfront
    exact Goes.currentText.bind fun _ _ _ ⟨hc, _⟩ => .pure ⟨hc, fun _ => hfront ▸ rfl⟩
  · refine .pure ⟨rfl, fun hsome => ?_⟩
    obtain ⟨operator, h⟩ := Option.isSome_iff_exists.mp hsome
    exact text?_plain h

section Expressions

variable (h : i.Walked T)
include h

theorem Walked.readOperand : Keeps T i.readOperand := by
  refine .look fun k => ?_
  split
  · rename_i hk
    exact .take (leading?_plain hk) (.bind (h.expr _) fun _ => .done)
  · exact h.readPrimary.on

theorem Walked.subscript : Shuts T .rightBracket i.subscript :=
  .bind (h.expr 0) fun _ => .closing rfl .done

theorem Walked.postfixForm (left : Expr) : Keeps T (i.postfixForm left) := by
  refine .whenTaken (isAt_asks _) (fun _ hk => beq_iff_eq.mp hk ▸ rfl)
    (.andThen (h.dataType.of ?_) fun _ => .done) ?_
  · rintro c' ⟨c, _, ⟨_, hfront⟩, hplace, _⟩
    rw [AtType, hplace, Place.push, beq_iff_eq.mp hfront]
    exact .afterColons
  · refine .when (isAt_asks _) fun _ => .ite (.bind (manyOpening rfl h.subscript) fun _ => .done) ?_
    exact .bind (expectKeyword_keeps _) fun _ => .bind identifier_keeps fun _ => .done

theorem Walked.membership : Keeps T i.membership := by
  refine .expectOpening rfl <| .when isAtQuery_asks fun _ =>
    .ite (.bind h.query fun _ => .pureBind ?_) (.bind h.exprs fun _ => .pureBind ?_)
  · exact .closing rfl .done
  · exact .closing rfl .done

theorem Walked.range (power : Nat) : Keeps T (i.range power) :=
  .bind (h.expr _) fun _ => .bind (expectKeyword_keeps _) fun _ => .bind (h.expr _) fun _ => .done

theorem Walked.predicate (left : Expr) (negation : String) (power : Nat) :
    Keeps T (i.predicate left negation power) := by
  refine .bind (eatKeyword_keeps _) fun _ => .ite (.bind h.membership fun _ => .done) ?_
  refine .bind (eatKeyword_keeps _) fun _ =>
    .ite (.bind (h.range power) fun _ => .done) (.look fun k => ?_)
  split
  · rename_i hk
    exact .take (text?_plain hk) (.bind (h.expr _) fun _ => .done)
  · exact .unexpected

theorem Walked.operatorForm (left : Expr) (power : Nat) : Keeps T (i.operatorForm left power) := by
  refine .after operatorText?_goes fun operator => ?_
  split
  · exact .taking (fun c hc => hc.2 rfl) (.on (.bind (h.expr _) fun _ => .done))
  · exact .done

theorem Walked.infixForm (left : Expr) (power : Nat) : Keeps T (i.infixForm left power) := by
  refine .look fun k => ?_
  split
  · exact .take rfl (.bind (eatKeyword_keeps _) fun _ => .bind (h.expr _) fun _ => .done)
  · exact .peek fun _ => .ite (.take rfl (.bind (h.predicate _ _ _) fun _ => .done)) .done
  · exact .bind (h.predicate _ _ _) fun _ => .done
  · exact .bind (h.predicate _ _ _) fun _ => .done
  · exact (h.operatorForm _ _).on

theorem Walked.operators (least n : Nat) (left : Expr) : Keeps T (i.operators least n left) := by
  induction n generalizing left with
  | zero => exact .outOfRounds
  | succ n ih =>
    refine .look fun k => .ite (.ite .done (.bind (h.postfixForm left) fun _ => ih _)) ?_
    split
    · exact .done
    · refine .ite .done (.bind (h.infixForm left _) fun e => ?_)
      split
      · exact ih _
      · exact .done

theorem Walked.readExpr (least : Nat) : Keeps T (i.readExpr least) :=
  .bind h.readOperand fun _ => .rounds fun n => h.operators least n _

end Expressions

end Nested

end SqlWeave.Parser
