import SqlWeave.Proofs.Parser.QueryWalk
import SqlWeave.Proofs.Parser.StatementMakes

/-! Walking the readers of statements, and of whole texts. -/

namespace SqlWeave.Parser

variable {T : Tape} {i : Nested} {P : Spot → Prop} {c : Spot}

/-! ## Outside of brackets -/

/-- Outside of brackets, after tokens of which `S` holds. -/
def AtTop (S : List TokenKind → Prop) (c : Spot) : Prop := c.place.outer = [] ∧ S c.place.before

section Top

variable {S S' : List TokenKind → Prop}

theorem Past.top {Q : Spot → Prop} {c' : Spot} (h : Past Q c') (hQ : ∀ c, Q c → AtTop S c)
    (hS : ∀ c ks, Q c → S ks → S' (c.front :: ks)) : AtTop S' c' := by
  obtain ⟨c, _, hc, hplace, _⟩ := h
  obtain ⟨ho, hs⟩ := hQ c hc
  rw [AtTop, hplace]
  exact ⟨ho, hS c _ hc hs⟩

theorem takeIf_top {check : Parser Bool} {b : TokenKind → Bool} (ha : Asks check b)
    (hb : ∀ k, b k = true → k.isPlain = true) (hS : ∀ k ks, b k = true → S ks → S (k :: ks)) :
    WalksTo T (AtTop S) none (takeIf check) fun _ => AtTop S := by
  refine .takeIfTo ha hb (fun c hc => ?_) fun _ h => h.1
  exact hc.top (fun _ h => h.1) fun c ks h => hS _ ks h.2

theorem eatKeyword_top (word : Keyword) (hS : ∀ ks, S ks → S (.keyword word :: ks)) :
    WalksTo T (AtTop S) none (eatKeyword word) fun _ => AtTop S :=
  takeIf_top (isAtKeyword_asks word) (fun _ => keyword_plain) fun _ ks hk hs =>
    beq_iff_eq.mp hk ▸ hS ks hs

theorem expectKeyword_top (word : Keyword) (hS : ∀ ks, S ks → S' (.keyword word :: ks)) :
    WalksTo T (AtTop S) none (expectKeyword word) fun _ => AtTop S' :=
  (expectKeyword_past word).mono fun _ _ hc => hc.top (fun _ h => h.1) fun _ ks h hs =>
    h.2 ▸ hS ks hs

theorem identifier_top (hS : ∀ k ks, k.isName = true → S ks → S' (k :: ks)) :
    WalksTo T (AtTop S) none identifier fun _ => AtTop S' :=
  identifier_walks.mono fun _ _ hc => hc.past.top (fun _ h => h.1) fun _ ks h hs => hS _ ks h.2 hs

end Top

/-! ## Options of a table -/

/-- Where the value of an option is read. -/
def AtValue (c : Spot) : Prop := AtTop OptionValue c ∧ c.place.afterUnread = false

/-- After the keyword of an option. -/
def AfterOptionKeyword (c : Spot) : Prop :=
  AtTop (fun before => ∃ ks, OptionKeyword before ks ∧ CreatesTable ks) c ∧
    c.place.afterUnread = false

theorem Past.optionKeyword {c' : Spot} {Q : Spot → Prop} (h : Past Q c')
    (hQ : ∀ c, Q c → c.place.outer = [] ∧ ∃ ks, OptionKeyword (c.front :: c.place.before) ks ∧
      CreatesTable ks) :
    AfterOptionKeyword c' := by
  obtain ⟨c, _, hc, hplace, _⟩ := h
  obtain ⟨ho, hkeyword⟩ := hQ c hc
  rw [AfterOptionKeyword, AtTop, hplace]
  exact ⟨⟨ho, hkeyword⟩, rfl⟩

/-- Inside of a value's parentheses, as many as are open. -/
theorem skipGroupWithin_goes (n : Nat) (inner : List Level) {before : List TokenKind}
    (hvalue : OptionValue before) (hinner : ∀ level ∈ inner, level.closing = .rightParen)
    (ho : c.place.outer = inner ++ [⟨.rightParen, before⟩]) :
    Goes T c (skipGroupWithin n (inner.length + 1)) fun _ c' =>
      c'.place.outer = [] ∧ c'.place.before = .symbol .rightParen :: before := by
  induction n generalizing c inner with
  | zero => exact .outOfRounds
  | succ n ih =>
    refine Goes.kind.bind ?_
    rintro _ c₁ - ⟨rfl, rfl⟩
    split
    · rename_i hfront
      refine (Goes.take (reads_opening .rightParen (hfront ▸ rfl))).bind ?_
      rintro _ c₂ - ⟨hplace, -⟩
      refine ih (⟨.rightParen, c₁.place.before⟩ :: inner) ?_ ?_
      · exact List.forall_mem_cons.mpr ⟨rfl, hinner⟩
      · rw [hplace, Place.within, ho]
        rfl
    · rename_i hfront
      cases inner with
      | nil =>
        refine (Goes.take (reads_closing ⟨.rightParen, before⟩ (hfront ▸ rfl) ho)).bind ?_
        rintro _ c₂ - ⟨hplace, -⟩
        refine .pure ?_
        rw [hplace, hfront]
        exact ⟨rfl, rfl⟩
      | cons level inner =>
        obtain ⟨hlevel, hrest⟩ := List.forall_mem_cons.mp hinner
        refine (Goes.take (reads_closing _ (by rw [hfront, hlevel]; rfl) ho)).bind ?_
        rintro _ c₂ - ⟨hplace, -⟩
        exact ih _ hrest (by rw [hplace]; rfl)
    · exact .unexpected
    · rename_i hopen hclose heof
      have hlast : c₁.place.outer.getLast? = some ⟨.rightParen, before⟩ := by
        rw [ho, List.getLast?_concat]
      refine (Goes.pass fun k hk _ => .optionGroup hvalue hlast (hk ▸ hopen) (hk ▸ hclose)).bind ?_
      rintro _ c₂ - (⟨-, hend⟩ | hplace)
      · exact absurd hend heof
      · exact ih _ hinner (by rw [hplace]; exact ho)

theorem closeGroup_goes {before : List TokenKind} (hvalue : OptionValue before)
    (hplace : c.place = ⟨[], [⟨.rightParen, before⟩], false⟩) :
    Goes T c closeGroup fun _ c' => c'.place.outer = [] ∧
      c'.place.before = .symbol .rightParen :: before :=
  Goes.rounds.bind fun n _ _ hc =>
    hc ▸ skipGroupWithin_goes n [] hvalue (by simp) (by rw [hplace]; rfl)

/-- One token, whatever it is, and a group after it; or a group. -/
theorem rawValue_walks : WalksTo T AtValue none rawValue fun _ => AtTop InOptions := by
  intro c before outer hc hl
  cases hl
  obtain ⟨⟨ho, hvalue⟩, hread⟩ := hc
  have hgroup : ∀ c₁ c₂ : Spot, c₁.place.outer = [] → c₁.place.before = c.place.before →
      c₂.place = c₁.place.within .rightParen →
      Goes T c₂ closeGroup fun _ c' => c.place.before <:+ c'.place.before ∧ AtTop InOptions c' := by
    intro c₁ c₂ ho₁ hb hplace
    refine (closeGroup_goes hvalue (by rw [hplace, Place.within, ho₁, hb])).mono ?_
    rintro _ c₃ - ⟨ho₃, hb₃⟩
    rw [AtTop, hb₃]
    exact ⟨List.suffix_cons _ _, ho₃, hvalue.options.push TokenKind.noConfusion, rfl⟩
  have hraw :
      Goes T c rawValue fun _ c' => c.place.before <:+ c'.place.before ∧ AtTop InOptions c' := by
    refine (Goes.test (isAt_asks _)).bind ?_
    rintro _ c₁ - ⟨rfl, rfl⟩
    split
    · rename_i hfront
      refine Goes.written ((Goes.take (reads_opening .rightParen ?_)).bind ?_)
      · rw [beq_iff_eq.mp hfront]
        rfl
      · rintro _ c₂ - ⟨hplace, -⟩
        exact hgroup c₁ c₂ ho rfl hplace
    · rename_i hopen
      refine Goes.kind.bind ?_
      rintro _ c₂ - ⟨rfl, rfl⟩
      split
      · exact .unexpected
      · rename_i hends
        have hunread : ∀ k, c₂.front = k → k ≠ .eof → Unread c₂.place k := by
          rintro k rfl _
          obtain ⟨⟨before, outer, afterUnread⟩, ahead⟩ := c₂
          simp only at ho hread
          subst ho hread
          exact .optionValue hvalue (by simpa using hends) (by simpa using hopen)
        refine Goes.written ((Goes.pass hunread).bind ?_)
        rintro _ c₃ - (⟨-, heof⟩ | hplace)
        · exact absurd (by rw [heof]; rfl) hends
        · refine (Goes.test (isAt_asks _)).bind ?_
          rintro _ c₄ - ⟨rfl, -⟩
          split
          · refine (Goes.expect fun hfront => reads_opening .rightParen (hfront ▸ rfl)).bind ?_
            rintro _ c₅ - ⟨-, hplace'⟩
            exact hgroup c₄ c₅ (by rw [hplace]; exact ho) (by rw [hplace]; rfl) hplace'
          · refine .pure ?_
            rw [AtTop, hplace]
            exact ⟨List.suffix_refl _, ho, hvalue.options⟩
  refine hraw.mono ?_
  rintro _ c' - ⟨hb, ho', hs⟩
  exact ⟨hb, ho'.trans ho.symm, ho', hs⟩

theorem optionKeyword?_walks : WalksTo T (AtTop InOptions) none optionKeyword? fun keyword c =>
    match keyword with
    | none => AtTop InOptions c
    | some _ => AfterOptionKeyword c := by
  -- after the first of two words
  have hsecond : ∀ (first : Keyword) c, Past (fun c => AtTop InOptions c ∧
      c.front = .keyword first) c →
      c.place.outer = [] ∧ ∃ ks, c.place.before = .keyword first :: ks ∧ CreatesTable ks := by
    rintro first c ⟨c₀, _, ⟨⟨ho, hs⟩, hfront⟩, hplace, _⟩
    rw [hplace, Place.push, hfront]
    exact ⟨ho, _, rfl, hs.toCreatesTable⟩
  refine .look fun k => ?_
  split
  · refine .taking (fun c hc => hc.2 ▸ rfl) (.pure fun c' hc' => hc'.optionKeyword ?_)
    rintro c ⟨⟨ho, hs⟩, hfront⟩
    exact ⟨ho, _, hfront ▸ .word _ hs.named, hs.toCreatesTable⟩
  · refine .taking (fun c hc => hc.2 ▸ rfl) (.andThen identifier_walks fun _ =>
      .pure fun c' hc' => hc'.past.optionKeyword ?_)
    rintro c ⟨hc, hname⟩
    obtain ⟨ho, ks, hb, hs⟩ := hsecond _ c hc
    exact ⟨ho, ks, hb ▸ .default hname ks, hs⟩
  · refine .taking (fun c hc => hc.2 ▸ rfl) (.pure fun c' hc' => hc'.optionKeyword ?_)
    rintro c ⟨⟨ho, hs⟩, hfront⟩
    exact ⟨ho, _, hfront ▸ .collate _, hs.toCreatesTable⟩
  all_goals
    first
    | exact .pure fun _ hc => hc.1
    | refine .taking (fun c hc => hc.2 ▸ rfl) (.andThen (expectKeyword_past _) fun _ =>
        .pure fun c' hc' => hc'.optionKeyword ?_)
      rintro c ⟨hc, hfront⟩
      obtain ⟨ho, ks, hb, hs⟩ := hsecond _ c hc
      refine ⟨ho, ks, ?_, hs⟩
      rw [hfront, hb]
      constructor

theorem tableOptions_walks (n : Nat) : Walks T (AtTop InOptions) none (tableOptions n) := by
  induction n with
  | zero => exact .outOfRounds
  | succ n ih =>
    refine .andThen optionKeyword?_walks fun keyword => ?_
    split
    · exact .done
    · have heq : WalksTo T AfterOptionKeyword none (eat .eq) fun _ => AtValue := by
        refine .takeIfTo (isAt_asks _) (fun _ hk => beq_iff_eq.mp hk ▸ rfl) ?_ ?_
        · rintro c' ⟨c, _, ⟨⟨⟨ho, ks, hkeyword, hs⟩, _⟩, hfront⟩, hplace, _⟩
          rw [AtValue, AtTop, hplace, Place.push, beq_iff_eq.mp hfront]
          exact ⟨⟨ho, .afterEq hkeyword hs⟩, rfl⟩
        · rintro c ⟨⟨⟨ho, ks, hkeyword, hs⟩, hread⟩, _⟩
          exact ⟨⟨ho, .bare hkeyword hs⟩, hread⟩
      have hcomma : WalksTo T (AtTop InOptions) none (eat .comma) fun _ => AtTop InOptions :=
        takeIf_top (isAt_asks _) (fun _ hk => beq_iff_eq.mp hk ▸ rfl) fun k ks hk hs => by
          rw [beq_iff_eq.mp hk]
          exact ⟨hs.push TokenKind.noConfusion, rfl⟩
      exact .andThen heq fun _ => .andThen rawValue_walks fun _ => .andThen hcomma fun _ =>
        .andThen ih fun _ => .done

/-! ## Single statements -/

theorem ifNotExists_keeps : Keeps T ifNotExists :=
  .bind (eatKeyword_keeps _) fun _ => .ite (.bind (expectKeyword_keeps _) fun _ =>
    .bind (expectKeyword_keeps _) fun _ => .done) .done

theorem insertWords_keeps : Keeps T insertWords := by
  refine .bind (eatWord_keeps _) fun _ => .ite (.bind (eatKeyword_keeps _) fun _ => .done) ?_
  exact .bind (eatKeyword_keeps _) fun _ => .ite .done .done

theorem targetTail_keeps (n : Nat) : Keeps T (targetTail n) := by
  induction n with
  | zero => exact .outOfRounds
  | succ n ih =>
    refine .bind (eat_keeps rfl) fun _ => .ite (.bind (eat_keeps rfl) fun _ => .ite .done ?_) .done
    exact .bind identifier_keeps fun _ => .bind ih fun _ => .done

theorem deleteTarget_keeps : Keeps T deleteTarget :=
  .bind identifier_keeps fun _ => .rounds fun n => .bind (targetTail_keeps n) fun _ =>
    tableOf_keeps _

theorem deleteTargets_keeps (n : Nat) : Keeps T (deleteTargets n) := by
  induction n with
  | zero => exact .outOfRounds
  | succ n ih =>
    refine .when (isAtKeyword_asks _) fun _ => .ite .done (.bind deleteTarget_keeps fun _ => ?_)
    exact .bind (eat_keeps rfl) fun _ => .ite (.bind ih fun _ => .done) .done

theorem tableConstraint_keeps (name : String) : Keeps T (tableConstraint name) :=
  .bind parenthesizedNames_keeps fun _ => .done

namespace Nested

theorem addColumns_keeps (table : String) (columns : List String) :
    Keeps T (columns.forM fun column => addColumn (some table) column) := by
  induction columns with
  | nil => exact .done
  | cons column columns ih => exact .addColumn ih

theorem insertColumns_keeps (table : String) : Keeps T (insertColumns table) := by
  refine .peek fun next => .when (isAt_asks _) fun _ => .ite ?_ .done
  exact .bind parenthesizedNames_keeps fun columns =>
    .bind (addColumns_keeps table columns) fun _ => .done

section Statements

variable (h : i.Walked T)
include h

theorem Walked.assignment : Keeps T i.assignment := by
  refine .bind identifier_keeps fun _ => .bind (eat_keeps rfl) fun _ => ?_
  refine .ite (.bind identifier_keeps fun _ => .pureBind ?_) (.pureBind ?_)
  · exact .addColumn (.bind (expect_keeps rfl) fun _ => .bind (h.expr 0) fun _ => .done)
  · exact .addColumn (.bind (expect_keeps rfl) fun _ => .bind (h.expr 0) fun _ => .done)

theorem Walked.assignments : Keeps T i.assignments := commaSeparated_keeps h.assignment

theorem Walked.row : Keeps T i.row :=
  .expectOpening rfl <| .andOutside (h.exprsUpTo rfl).on fun _ => .done

theorem Walked.insertSource : Keeps T i.insertSource := by
  refine .bind (eatKeyword_keeps _) fun _ =>
    .ite (.bind (commaSeparated_keeps h.row) fun _ => .done) ?_
  refine .when isAtQuery_asks fun _ =>
    .ite (.bind h.query fun _ => .done) (.eatOpening rfl ?_ .unexpected)
  exact .andOutside h.parenthesizedQuery.on fun _ => .done

theorem Walked.onDuplicate? : Keeps T i.onDuplicate? := by
  refine .bind (eatKeyword_keeps _) fun _ => .ite (.bind (expectWord_keeps _) fun _ => ?_) .done
  exact .bind (expectKeyword_keeps _) fun _ => .bind (expectKeyword_keeps _) fun _ =>
    .bind h.assignments fun _ => .done

theorem Walked.insert (verb : String) (word : Keyword) :
    Walks T (fun c => P c ∧ c.front = .keyword word) none (i.insert verb) := by
  refine .setVerb (.take rfl (.bind insertWords_keeps fun _ => .bind tableName_keeps fun _ => ?_))
  refine .bind (insertColumns_keeps _) fun _ => .bind h.insertSource fun _ =>
    .bind h.onDuplicate? fun _ => ?_
  exact .bind h.returning? fun _ => .done

theorem Walked.update (withs : Option (List (Cte Expr))) : Keeps T (i.update withs) := by
  refine .setVerb (.bind (expectKeyword_keeps _) fun _ => .bind h.tableList fun _ => ?_)
  refine .bind (expectKeyword_keeps _) fun _ => .bind h.assignments fun _ =>
    .bind h.tables? fun _ => ?_
  exact .bind h.condition? fun _ => .bind h.orderBy? fun _ => .bind h.limit? fun _ =>
    .bind h.returning? fun _ => .done

theorem Walked.delete (withs : Option (List (Cte Expr))) : Keeps T (i.delete withs) := by
  refine .setVerb (.bind (expectKeyword_keeps _) fun _ => .rounds fun n =>
    .bind (deleteTargets_keeps n) fun _ => ?_)
  refine .bind (expectKeyword_keeps _) fun _ => .bind h.tableList fun _ =>
    .bind h.condition? fun _ => ?_
  exact .bind h.orderBy? fun _ => .bind h.limit? fun _ => .bind h.returning? fun _ => .done

theorem Walked.columnConstraint (d : ColumnDefinition Expr) : Keeps T (i.columnConstraint d) := by
  refine .look fun k => ?_
  split
  · exact .take rfl (.bind (expectKeyword_keeps _) fun _ => .done)
  · exact .take rfl .done
  · exact .take rfl (.bind (h.expr _) fun _ => .done)
  · exact .take rfl (.bind (expectKeyword_keeps _) fun _ => .done)
  · exact .take rfl (.bind (eatKeyword_keeps _) fun _ => .done)
  · exact .take rfl (.bind identifier_keeps fun _ => .done)
  · exact .ite (.take rfl .done) (.ite (.take rfl (.bind h.primary fun _ => .done)) .done)
  · exact .done

theorem Walked.columnConstraints (n : Nat) (d : ColumnDefinition Expr) :
    Keeps T (i.columnConstraints n d) := by
  induction n generalizing d with
  | zero => exact .outOfRounds
  | succ n ih =>
    refine .bind (h.columnConstraint d) fun d => ?_
    split
    · exact ih _
    · exact .done

end Statements

end Nested

/-! ## Creating and dropping -/

/-- In the parentheses of CREATE TABLE. -/
def InDefinitions (c : Spot) : Prop :=
  ∃ create, c.place.outer = [⟨.rightParen, create⟩] ∧ CreatesTable create

theorem inDefinitions_stable : Stable InDefinitions := by
  rintro c c' ⟨create, houter, hs⟩ ⟨_, ho⟩
  exact ⟨create, ho.trans houter, hs⟩

/-- A test that the next token is TEMPORARY or TEMP. -/
theorem isAtTemporary_asks :
    Asks (do return (← isAtKeyword .TEMPORARY) || (← isAtWord "temp"))
      fun k => k == .keyword .TEMPORARY || k.isWord "temp" :=
  fun _ _ => rfl

theorem tableName_top : WalksTo T (AtTop CreatesTable) none tableName fun _ => AtTop InOptions := by
  have hname : WalksTo T (AtTop CreatesTable) none identifier fun _ => AtTop InOptions :=
    identifier_top fun _ _ hk hs => hs.pushName hk
  have hdot : WalksTo T (AtTop InOptions) none (eat .dot) fun v c =>
      cond v (AtTop CreatesTable c) (AtTop InOptions c) := by
    refine .takeIfTo (isAt_asks _) (fun _ hk => beq_iff_eq.mp hk ▸ rfl) (fun c hc => ?_) fun _ h =>
      h.1
    refine hc.top (fun _ h => h.1) fun c ks h hs => ?_
    rw [beq_iff_eq.mp h.2]
    exact hs.push TokenKind.noConfusion
  have hnames : WalksTo T (AtTop CreatesTable) none dottedName fun _ => AtTop InOptions :=
    .andThen hname fun _ => .andThen (many_walks hdot hname) fun _ => .pure fun _ hc => hc
  exact .andThen hnames fun _ => .addTable (.pure fun _ hc => hc)

theorem ifNotExists_top :
    WalksTo T (AtTop CreatesTable) none ifNotExists fun _ => AtTop CreatesTable := by
  refine .andThen (eatKeyword_top _ fun _ hs => hs.push (by decide)) fun _ =>
    .ite ?_ (.pure fun _ hc => hc)
  refine .andThen (expectKeyword_top _ fun _ hs => hs.push (by decide)) fun _ => ?_
  exact .andThen (expectKeyword_top _ fun _ hs => hs.push (by decide)) fun _ => .pure fun _ hc => hc

namespace Nested

section Definitions

variable (h : i.Walked T)
include h

theorem Walked.columnDefinition :
    Walks T (fun c => InDefinitions c ∧ ColumnStart c.place.before) none i.columnDefinition := by
  refine .andThen identifier_walks fun _ => .addColumn (.andThen (h.dataType.of ?_) fun _ =>
    .rounds fun n => h.columnConstraints n _)
  rintro c' ⟨c, _, ⟨⟨create, ho, hs⟩, hcolumn⟩, hplace, _⟩
  rw [AtType, hplace, Place.push, ho]
  exact .column hcolumn hs

theorem Walked.createDefinition :
    Walks T (fun c => InDefinitions c ∧ ItemStart c.place.before) none i.createDefinition := by
  let AtColumn : Spot → Prop := fun c => InDefinitions c ∧ ColumnStart c.place.before
  refine .whenTaken (isAtWord_asks _) (fun _ => isWord_plain)
    (.andThen identifier_walks fun _ => .of (P := AtColumn) ?body ?named)
      (.of (P := AtColumn) ?body ?plain)
  case body =>
    refine .whenTaken (isAtKeyword_asks _) (fun _ => keyword_plain) (.on ?_) ?_
    · exact .bind (expectKeyword_keeps _) fun _ => tableConstraint_keeps _
    · refine .whenTaken (isAtKeyword_asks _) (fun _ => keyword_plain) (.on ?_) ?_
      · refine .bind (eatKeyword_keeps _) fun _ => .when (isAt_asks _) fun _ => .ite ?_ ?_
        · exact .bind identifier_keeps fun _ => tableConstraint_keeps _
        · exact (tableConstraint_keeps _).on
      · exact .andThen (h.columnDefinition.of fun _ hc => hc.1.1) fun _ => .done
  case named =>
    rintro c'' ⟨c', _, ⟨c, _, ⟨⟨⟨create, ho, hs⟩, hitem⟩, hfront⟩, hplace, _⟩, hplace', _⟩
    refine ⟨⟨create, ?_, hs⟩, ?_⟩
    · rw [hplace', hplace]
      exact ho
    · rw [hplace', hplace]
      exact .named hitem hfront
  case plain => exact fun c hc => ⟨hc.1.1, .plain hc.1.2⟩

theorem Walked.createDefinitions? :
    WalksTo T (AtTop InOptions) none i.createDefinitions? fun _ => AtTop InOptions := by
  have hin : ∀ c, Opened (fun c => AtTop InOptions c ∧ c.front = .symbol .leftParen) .rightParen c →
      InDefinitions c ∧ ItemStart c.place.before := by
    rintro c' ⟨c, ⟨⟨ho, hs⟩, _⟩, hplace⟩
    rw [InDefinitions, hplace, Place.within, ho]
    exact ⟨⟨_, rfl, hs.toCreatesTable⟩, .first⟩
  have hlist : Walks T (fun c => InDefinitions c ∧
      ItemStart c.place.before) none (commaSeparated i.createDefinition) :=
    commaSeparated_walks h.createDefinition fun c c' hc hlevel hitem =>
      ⟨inDefinitions_stable c c' hc.1 hlevel, hitem⟩
  refine .eatOpening rfl (.andThen
    (WalksTo.of (.stable inDefinitions_stable hlist fun _ hc => hc.1) hin) fun _ =>
    .closingOn rfl (.pure ?_)) (.pure fun _ hc => hc)
  rintro c' ⟨c, create, outer, ⟨create', ho, hs⟩, ho', hplace⟩
  rw [ho] at ho'
  injection ho' with hlevel houter
  injection hlevel with _ hcreate
  subst hcreate houter
  rw [AtTop, hplace]
  exact ⟨rfl, hs.push TokenKind.noConfusion, rfl⟩

theorem Walked.createTable (create : Create Expr) :
    Walks T (AtTop CreatesTable) none (i.createTable create) := by
  refine .andThen ifNotExists_top fun _ => .andThen tableName_top fun _ =>
    .andThen h.createDefinitions? fun _ => ?_
  refine .rounds fun n => .andThen (tableOptions_walks n) fun _ =>
    .bind (eatKeyword_keeps _) fun _ => ?_
  exact .ite (.bind h.query fun _ => .pureBind .done) (.pureBind .done)

theorem Walked.createView (create : Create Expr) : Keeps T (i.createView create) :=
  .bind ifNotExists_keeps fun _ => .bind tableName_keeps fun _ =>
    .bind (expectKeyword_keeps _) fun _ =>
    .bind h.query fun _ => .done

end Definitions

theorem createDatabase_keeps (create : Create Expr) : Keeps T (createDatabase create) :=
  .bind ifNotExists_keeps fun _ => .bind identifier_keeps fun _ => .done

theorem objectKeyword?_plain {k : TokenKind} {keyword : String}
    (h : objectKeyword? k = some keyword) :
    k.isPlain = true ∧ k ≠ .keyword .AS ∧ (keyword = "table" → k = .keyword .TABLE) := by
  unfold objectKeyword? at h
  split at h
  case h_5 => cases h
  all_goals
    cases h
    exact ⟨rfl, by decide, by decide⟩

theorem drop_keeps : Keeps T drop := by
  refine .setVerb (.bind (expectKeyword_keeps _) fun _ => .look fun k => ?_)
  split
  · exact .unexpected
  · rename_i hk
    refine .take (objectKeyword?_plain hk).1 (.bind (eatKeyword_keeps _) fun _ => .ite ?_ ?_)
    · exact .bind (expectKeyword_keeps _) fun _ =>
        .bind (commaSeparated_keeps tableName_keeps) fun _ => .done
    · exact .bind (commaSeparated_keeps tableName_keeps) fun _ => .done

theorem showTarget_keeps : Keeps T showTarget := by
  refine .setVerb (.bind (expectKeyword_keeps _) fun _ => .look fun k => ?_)
  split
  · exact .take rfl .done
  · exact .take rfl .done
  · exact .unexpected

/-! ## Statements -/

section Statements

variable (h : i.Walked T)
include h

theorem Walked.create : Walks T (AtTop (· = [])) none i.create := by
  have hcreate : WalksTo T (AtTop (· = [])) none (expectKeyword .CREATE) fun _ => AtTop Creates :=
    expectKeyword_top _ fun ks hks => by
      subst hks
      exact ⟨rfl, by decide⟩
  refine .setVerb (.andThen hcreate fun _ =>
    .andThen (eatKeyword_top _ fun _ hs => hs.push (by decide)) fun _ => ?_)
  refine .ite (.andThen (expectKeyword_top _ fun _ hs => hs.push (by decide)) fun _ =>
    ?object) ?object
  refine .andThen (takeIf_top isAtTemporary_asks ?_ ?_) fun _ => .look fun k => ?_
  · intro k hk
    rcases Bool.or_eq_true_iff.mp hk with hk | hk
    · exact keyword_plain hk
    · exact isWord_plain hk
  · intro k ks hk hs
    refine hs.push fun hAs => ?_
    subst hAs
    cases hk
  split
  · exact .unexpected
  · rename_i keyword hk
    obtain ⟨hplain, hAs, htable⟩ := objectKeyword?_plain hk
    refine .taking (fun c hc => hc.2 ▸ hplain)
      (.byCases (fun hkeyword => (h.createTable _).of ?_) fun _ =>
      .ite (h.createView _).on (createDatabase_keeps _).on)
    refine fun c hc => hc.top (fun _ h => h.1) fun c ks h hs => ?_
    rw [h.2]
    refine ⟨hs.push hAs, ?_⟩
    rw [htable hkeyword]
    exact List.mem_cons_self

/-- After a WITH clause a query is read from the same spot again. -/
theorem Walked.withStatement : Keeps T i.withStatement := by
  intro c before outer hc hl
  cases hl
  rw [Nested.Built.withStatement_eq]
  refine Goes.retrying (h.withClause c _ _ hc (.here _)) ?_ ?_
  · have hquery : Keeps T (do return Statement.select (← i.query)) := .bind h.query fun _ => .done
    exact hquery c _ _ hc (.here _)
  · rintro withs c' - ⟨hb, ho, -⟩
    have hrest {r : Parser (Statement Expr)} (hr : Keeps T r) : Goes T c' r fun _ c'' =>
        c.place.before <:+ c''.place.before ∧ c''.place.outer = c.place.outer ∧ True := by
      refine (hr c' _ _ trivial (.here _)).mono ?_
      rintro _ c'' - ⟨hb', ho', -⟩
      exact ⟨hb.trans hb', ho'.trans ho, trivial⟩
    split
    · exact hrest (.bind (h.update _) fun _ => .done)
    · exact hrest (.bind (h.delete _) fun _ => .done)
    · exact .unexpected

theorem Walked.statement : Walks T (AtTop (· = [])) none i.statement := by
  refine .look fun k => ?_
  split
  · exact .bind h.query fun _ => .done
  · exact h.withStatement.on
  · exact .andThen (h.insert _ _) fun _ => .done
  · exact .andThen (h.insert _ _) fun _ => .done
  · exact .bind (h.update _) fun _ => .done
  · exact .bind (h.delete _) fun _ => .done
  · exact .andThen (h.create.of fun _ hc => hc.1) fun _ => .done
  · exact .bind drop_keeps fun _ => .done
  · exact .bind showTarget_keeps fun _ => .done
  · exact .unexpected

end Statements

/-! ## Whole texts -/

/-- At the end of a statement, or before the first one. -/
def BetweenStatements (c : Spot) : Prop :=
  c.place.outer = [] ∧ (c.place.before = [] ∨ c.front = .symbol .semicolon ∨ c.front = .eof)

theorem semicolons_goes (hc : BetweenStatements c) :
    Goes T c semicolons fun _ c' => c'.place.outer = [] ∧
      (c'.place.before = [] ∨ c'.front = .eof) := by
  have hmany : Goes T c (many (eat .semicolon) (Pure.pure ())) fun _ c' =>
      c'.place.outer = [] ∧ (c'.place.before = [] ∨ c'.front = .eof) := by
    refine Goes.many (I := BetweenStatements) (J := fun c => c.place = .start)
      (fun c ⟨ho, hwhere⟩ => ?_) (fun c hplace => .pure ?_) hc
    · have hreads : (c.front == .symbol .semicolon) = true → c.Reads .start := by
        intro hfront
        have hsemicolon := beq_iff_eq.mp hfront
        refine ⟨?_, ?_, hsemicolon ▸ Place.read?_semicolon ho⟩
        · rw [hsemicolon]
          exact TokenKind.noConfusion
        · rw [hsemicolon]
          exact fun _ => TokenKind.noConfusion
      refine (Goes.takeIf (isAt_asks _) hreads).mono fun v c' _ hv => ?_
      rcases hv with ⟨rfl, _, hplace, _⟩ | ⟨rfl, hfront, rfl⟩
      · exact hplace
      · refine ⟨ho, hwhere.imp_right fun hends => hends.resolve_left fun hsemicolon => ?_⟩
        rw [hsemicolon] at hfront
        cases hfront
    · rw [BetweenStatements, hplace]
      exact ⟨rfl, .inl rfl⟩
  exact hmany.bind fun _ _ _ hc' => .pure hc'

theorem Walked.statements (h : i.Walked T) (n : Nat) (hc : BetweenStatements c) :
    Goes T c (i.statements n) fun _ c' => c'.place.outer = [] ∧ c'.front = .eof := by
  induction n generalizing c with
  | zero => exact .outOfRounds
  | succ n ih =>
    refine (semicolons_goes hc).bind fun _ c₁ _ ⟨ho, hwhere⟩ =>
      Goes.kind.bind fun k c₂ _ ⟨hc₂, hk⟩ => ?_
    subst hc₂ hk
    split
    · rename_i hend
      exact .pure ⟨ho, beq_iff_eq.mp hend⟩
    · rename_i hend
      have hstart : c₂.place.before = [] := hwhere.resolve_right (by simpa using hend)
      refine (h.statement c₂ _ _ ⟨ho, hstart⟩ (.here _)).bind fun _ c₃ _ ⟨_, ho₃, _⟩ => ?_
      refine (Goes.test isAtStatementEnd_asks).bind fun v c₄ _ ⟨hc₄, hv⟩ => ?_
      subst hc₄ hv
      split
      · rename_i hnext
        have hbetween : BetweenStatements c₄ := ⟨ho₃.trans ho, .inr (by simpa using hnext)⟩
        exact (ih hbetween).bind fun _ _ _ hc₅ => .pure hc₅
      · exact .unexpected

theorem Walked.script (h : i.Walked T) (hc : BetweenStatements c) :
    Goes T c i.script fun _ c' => c'.place.outer = [] ∧ c'.front = .eof := by
  refine Goes.rounds.bind fun n c₁ _ hc₁ => (h.statements n (hc₁ ▸ hc)).bind fun ss c₂ _ hc₂ => ?_
  split
  · exact .unexpected
  · exact .pure hc₂

end Nested

end SqlWeave.Parser
