import SqlWeave.Proofs.Parser.ExprWalk

/-! Walking the readers of queries, and those of all that nests. -/

namespace SqlWeave.Parser

variable {T : Tape} {i : Nested} {P : Spot → Prop}

theorem tableOf_keeps (names : List String) : Keeps T (tableOf names) := .addTable .done

theorem tableName_keeps : Keeps T tableName :=
  .bind dottedName_keeps fun names => tableOf_keeps names

theorem setWord?_plain {k : TokenKind} {operator : String} (h : setWord? k = some operator) :
    k.isPlain = true := by
  unfold setWord? at h
  split at h
  case h_4 => cases h
  all_goals rfl

theorem setOperator?_keeps : Keeps T setOperator? := by
  refine .look fun k => ?_
  split
  · exact .done
  · rename_i hk
    refine .take (setWord?_plain hk) (.bind (eatKeyword_keeps _) fun _ => .ite .done ?_)
    exact .bind (eatKeyword_keeps _) fun _ => .ite .done .done

theorem sideWord?_plain {k : TokenKind} {side : String} (h : sideWord? k = some side) :
    k.isPlain = true := by
  unfold sideWord? at h
  split at h
  case h_4 => cases h
  all_goals rfl

theorem joinSide_keeps : Keeps T joinSide := by
  refine .bind (eatKeyword_keeps _) fun _ =>
    .ite .done (.bind (eatKeyword_keeps _) fun _ => .ite .done (.look fun k => ?_))
  split
  · exact .done
  · rename_i hk
    exact .take (sideWord?_plain hk) (.bind (eatKeyword_keeps _) fun _ => .ite .done .done)

theorem join?_keeps : Keeps T join? := by
  refine .bind (eatWord_keeps _) fun _ => .ite (.bind .done ?side) (.bind .done ?side)
  exact fun _ => .bind joinSide_keeps fun _ => .bind (eatKeyword_keeps _) fun _ =>
    .ite .done (.ite .done .unexpected)

/-- After the word WINDOW. -/
def InWindows (c : Spot) : Prop := ∃ k ∈ c.place.before, k.isWord "window" = true

theorem inWindows_stable : Stable InWindows :=
  fun _ _ ⟨k, hk, hword⟩ ⟨hb, _⟩ => ⟨k, hb.mem hk, hword⟩

namespace Nested

theorem selectDistinct_keeps : Keeps T selectDistinct :=
  .bind (eatKeyword_keeps _) fun _ => .ite .done (.bind (eatKeyword_keeps _) fun _ => .done)

section Clauses

variable (h : i.Walked T)
include h

theorem Walked.column : Keeps T i.column :=
  .bind (h.expr 0) fun _ => .bind alias?_keeps fun _ => .done

theorem Walked.columns : Keeps T i.columns := by
  refine .bind (eat_keeps rfl) fun _ =>
    .ite (.addColumn (.bind (eat_keeps rfl) fun _ => .ite ?_ .done)) ?_
  · exact .bind (commaSeparated_keeps h.column) fun _ => .done
  · exact .bind (commaSeparated_keeps h.column) fun _ => .done

theorem Walked.condition? : Keeps T i.condition? :=
  .bind (eatKeyword_keeps _) fun _ => .ite (.bind (h.expr 0) fun _ => .done) .done

theorem Walked.tableFactor : Keeps T i.tableFactor := by
  refine .eatOpening rfl (.andOutside h.parenthesizedQuery.on fun _ => .bind alias?_keeps fun _ =>
    .done) ?_
  refine .bind (eatWord_keeps _) fun _ => .ite .done (.bind dottedName_keeps fun _ =>
    .when (isAt_asks _) fun _ => .ite ?_ ?_)
  · exact .bind (h.callOf _) fun _ => .bind alias?_keeps fun _ => .done
  · refine .bind (tableOf_keeps _) fun _ => .bind alias?_keeps fun _ => ?_
    split
    · exact .addAlias .done
    · exact .pureBind .done

theorem Walked.joinedTable (join : String) : Keeps T (i.joinedTable join) := by
  refine .bind h.tableFactor fun _ => .bind (eatKeyword_keeps _) fun _ =>
    .ite (.bind (h.expr 0) fun _ => .done) ?_
  exact .bind (eatKeyword_keeps _) fun _ =>
    .ite (.bind parenthesizedNames_keeps fun _ => .done) .done

theorem Walked.moreTables (n : Nat) : Keeps T (i.moreTables n) := by
  induction n with
  | zero => exact .outOfRounds
  | succ n ih =>
    refine .bind (eat_keeps rfl) fun _ =>
      .ite (.bind h.tableFactor fun _ => .bind ih fun _ => .done) ?_
    refine .bind join?_keeps fun join => ?_
    split
    · exact .done
    · exact .bind (h.joinedTable _) fun _ => .bind ih fun _ => .done

theorem Walked.tableList : Keeps T i.tableList :=
  .bind h.tableFactor fun _ => .rounds fun n => .bind (h.moreTables n) fun _ => .done

theorem Walked.tables? : Keeps T i.tables? :=
  .bind (eatKeyword_keeps _) fun _ => .ite (.bind h.tableList fun _ => .done) .done

theorem Walked.groupBy? : Keeps T i.groupBy? :=
  .bind (eatKeyword_keeps _) fun _ =>
    .ite (.bind (expectKeyword_keeps _) fun _ => .bind h.exprs fun _ => .done) .done

theorem Walked.having? : Keeps T i.having? :=
  .bind (eatKeyword_keeps _) fun _ => .ite (.bind (h.expr 0) fun _ => .done) .done

theorem Walked.namedWindow : Walks T InWindows none i.namedWindow := by
  refine .bindStable inWindows_stable identifier_keeps fun _ =>
    .andThen (expectKeyword_past _) fun _ => ?_
  refine .andThen (h.windowSpec.of ?_) fun _ => .done
  rintro c' ⟨c, _, ⟨hc, hfront⟩, hplace, _⟩
  rw [AtWindow, hplace, Place.push, hfront]
  exact .named hc

theorem Walked.namedWindows : Walks T InWindows none (commaSeparated i.namedWindow) :=
  commaSeparated_walks h.namedWindow fun c c' hc hlevel _ => inWindows_stable c c' hc hlevel

theorem Walked.windows? : Keeps T i.windows? := by
  refine .whenTaken (isAtWord_asks _) (fun _ => isWord_plain)
    (.andThen (h.namedWindows.of ?_) fun _ => .done) .done
  rintro c' ⟨c, _, ⟨_, hfront⟩, hplace, _⟩
  rw [InWindows, hplace]
  exact ⟨c.front, List.mem_cons_self, hfront⟩

theorem Walked.fetch : Keeps T i.fetch := by
  refine .bind (expectWord_keeps _) fun _ => .bind (h.expr 0) fun _ =>
    .bind (eatWord_keeps _) fun _ => ?_
  refine .ite (.bind .done ?rows) (.bind .done ?rows)
  refine fun _ => .bind (expectWord_keeps _) fun _ => .bind (eatKeyword_keeps _) fun _ => .ite ?_ ?_
  · exact .bind (expectWord_keeps _) fun _ => .done
  · exact .bind (expectWord_keeps _) fun _ => .done

theorem Walked.limitAfterWord : Keeps T i.limitAfterWord := by
  refine .bind (h.expr 0) fun _ => .bind (eat_keeps rfl) fun _ =>
    .ite (.bind (h.expr 0) fun _ => .done) ?_
  exact .bind (eatKeyword_keeps _) fun _ => .ite (.bind (h.expr 0) fun _ => .done) .done

theorem Walked.offsetAfterWord : Keeps T i.offsetAfterWord := by
  refine .bind (h.expr 0) fun _ => .bind (takeAnyWord_keeps _) fun _ =>
    .bind (eatKeyword_keeps _) fun _ => ?_
  exact .ite (.bind h.fetch fun _ => .done) .done

theorem Walked.limit? : Keeps T i.limit? := by
  refine .bind (eatKeyword_keeps _) fun _ => .ite (.bind h.limitAfterWord fun _ => .done) ?_
  refine .bind (eatKeyword_keeps _) fun _ => .ite (.bind h.offsetAfterWord fun _ => .done) ?_
  exact .bind (eatKeyword_keeps _) fun _ => .ite (.bind h.fetch fun _ => .done) .done

theorem Walked.returning? : Keeps T i.returning? := by
  refine .when (isAtKeyword_asks _) fun v => .source fun src =>
    .byCases (fun hv => ?_) fun _ => .done
  refine .taking (fun c hc => keyword_plain (hc.2.trans (Bool.and_eq_true_iff.mp hv).1)) ?_
  exact .bind h.columns fun _ => .done

theorem Walked.cte (recursive : Bool) : Keeps T (i.cte recursive) := by
  refine .bind identifier_keeps fun _ => .addCte (.on (.when (isAt_asks _) fun _ => ?_))
  refine .ite (.bind parenthesizedNames_keeps fun _ => .bind .done ?body) (.bind .done ?body)
  refine fun _ => .bind (expectKeyword_keeps _) fun _ => .expectOpening rfl ?_
  exact .andOutside h.parenthesizedQuery.on fun _ => .done

theorem Walked.withClause : Keeps T i.withClause :=
  .bind (expectKeyword_keeps _) fun _ => .bind (eatKeyword_keeps _) fun _ =>
    commaSeparated_keeps (h.cte _)

end Clauses

/-! ## Whole queries -/

section Queries

variable (h : i.Walked T)
include h

theorem Walked.selectCore (withs : Option (List (Cte Expr))) : Keeps T (i.selectCore withs) := by
  refine .bind (expectKeyword_keeps _) fun _ => .bind selectDistinct_keeps fun _ =>
    .bind h.columns fun _ => ?_
  refine .bind h.tables? fun _ => .bind h.condition? fun _ => .bind h.groupBy? fun _ =>
    .bind h.having? fun _ => ?_
  exact .bind h.windows? fun _ => .bind h.orderBy? fun _ => .bind h.limit? fun _ => .done

theorem Walked.selectChain (withs : Option (List (Cte Expr))) : Keeps T (i.selectChain withs) := by
  refine .bind (h.selectCore withs) fun _ => .bind setOperator?_keeps fun operator => ?_
  split
  · exact .done
  · exact .bind h.query fun _ => .done

theorem Walked.setChain : Keeps T i.setChain := by
  refine .when (isAtKeyword_asks _) fun _ =>
    .ite (.bind h.withClause fun _ => .pureBind ?_) (.pureBind ?_)
  · exact h.selectChain _
  · exact (h.selectChain _).on

theorem Walked.readQuery : Keeps T i.readQuery := .withVerb h.setChain

end Queries

end Nested

theorem nested_walked (n : Nat) : (nested n).Walked T := by
  induction n with
  | zero => exact {
      expr := fun _ => .unexpected
      operand := .unexpected
      primary := .unexpected
      query := .unexpected
      dataType := .unexpected }
  | succ n ih => exact {
      expr := fun least => ih.readExpr least
      operand := ih.readOperand
      primary := ih.readPrimary
      query := ih.readQuery
      dataType := ih.readDataType }

end SqlWeave.Parser
