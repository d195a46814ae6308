import SqlWeave.Proofs.Parser.ExprTracks

/-! Following the readers of queries, and of what nests to any depth. -/

namespace SqlWeave.Parser

variable {W : Overlay} {i j : Nested}

theorem tableOf_tracks (hv : W.sameVerb) (parts : List String) :
    Tracks W (tableOf parts) (tableOf parts) :=
  .bind (addTable_tracks hv _ _) fun _ => .pure _

theorem tableName_tracks (hv : W.sameVerb) : Tracks W tableName tableName :=
  .bind dottedName_tracks fun parts => tableOf_tracks hv parts

theorem setOperator?_tracks : Tracks W setOperator? setOperator? := by
  refine .look (fun k => ?_) ?_
  · cases setWord? k with
    | none => exact .pure _
    | some operator =>
      refine .bind advance_inside fun _ => .bind (eatKeyword_tracks (by decide)) fun _ =>
        .ite (.pure _) ?_
      exact .bind (eatKeyword_tracks (by decide)) fun _ => .ite (.pure _) (.pure _)
  · rcases W.closes.eq with he | he | he | he <;> rw [he] <;> exact .pure _

theorem joinSide_tracks : Tracks W joinSide joinSide := by
  refine .bind (eatKeyword_tracks (by decide)) fun _ => .ite (.pure _) ?_
  refine .bind (eatKeyword_tracks (by decide)) fun _ => .ite (.pure _) (.look (fun k => ?_) ?_)
  · cases sideWord? k with
    | none => exact .pure _
    | some side =>
      refine .bind advance_inside fun _ => .bind (eatKeyword_tracks (by decide)) fun _ => ?_
      exact .ite (.pure _) (.pure _)
  · rcases W.closes.eq with he | he | he | he <;> rw [he] <;> exact .pure _

theorem join?_tracks : Tracks W join? join? := by
  refine .bind (eatWord_tracks _) fun _ => .ite (.bind (.pure _) ?side) (.bind (.pure _) ?side)
  refine fun _ => .bind joinSide_tracks fun _ => .bind (eatKeyword_tracks (by decide)) fun _ => ?_
  exact .ite (.pure _) (.ite (.pure _) .unexpected)

namespace Nested

theorem selectDistinct_tracks : Tracks W selectDistinct selectDistinct := by
  refine .bind (eatKeyword_tracks (by decide)) fun _ => .ite (.pure _) ?_
  exact .bind (eatKeyword_tracks (by decide)) fun _ => .pure _

section Clauses

variable (h : i.Tracked j) (hv : W.sameVerb)
include h

theorem Tracked.cte (recursive : Bool) : Tracks W (i.cte recursive) (j.cte recursive) := by
  refine .bind identifier_tracks fun _ => .bind (addCte_tracks _) fun _ => ?_
  refine .bind (isAt_tracks rfl) fun _ => .ite
    (.bind parenthesizedNames_tracks fun _ => .bind (.pure _) ?body) (.bind (.pure _) ?body)
  refine fun _ => .bind (expectKeyword_tracks _) fun _ => .bind (expect_tracks _) fun _ => ?_
  exact .bind h.parenthesizedQuery fun _ => .pure _

theorem Tracked.withClause : Tracks W i.withClause j.withClause :=
  .bind (expectKeyword_tracks _) fun _ => .bind (eatKeyword_tracks (by decide)) fun recursive =>
    commaSeparated_tracks (h.cte recursive)

include hv

theorem Tracked.column : Tracks W i.column j.column :=
  .bind (h.expr W hv 0) fun _ => .bind alias?_tracks fun _ => .pure _

theorem Tracked.columns : Tracks W i.columns j.columns := by
  refine .bind (eat_tracks rfl) fun _ => .ite (.bind (addColumn_tracks hv _ _) fun _ => ?_) ?_
  · refine .bind (eat_tracks rfl) fun _ => .ite ?_ (.pure _)
    exact .bind (commaSeparated_tracks (h.column hv)) fun _ => .pure _
  · exact .bind (commaSeparated_tracks (h.column hv)) fun _ => .pure _

theorem Tracked.condition?_inside : Inside W i.condition? j.condition? := by
  refine .bind (takeIf_inside (isAtKeyword_asks _)) fun _ => .ite ?_ (.pure _)
  exact .bind (h.expr W hv 0) fun _ => .pure _

theorem Tracked.condition? (hw : W.ending.kind ≠ .keyword .WHERE) :
    Tracks W i.condition? j.condition? := by
  refine .bind (takeIf_tracks (isAtKeyword_asks _) rfl (beq_eq_false_iff_ne.mpr hw)) fun _ => ?_
  exact .ite (.bind (h.expr W hv 0) fun _ => .pure _) (.pure _)

theorem Tracked.condition?_orEnds : TracksOrEnds W i.condition? j.condition? :=
  .split (.of (h.condition?_inside hv)) (.takeIf (isAtKeyword_asks _) rfl (.pure none))

theorem Tracked.tableFactor : Tracks W i.tableFactor j.tableFactor := by
  refine .bind (eat_tracks rfl) fun _ =>
    .ite ?_ (.bind (eatWord_tracks _) fun _ => .ite (.pure _) ?_)
  · exact .bind h.parenthesizedQuery fun _ => .bind alias?_tracks fun _ => .pure _
  · refine .bind dottedName_tracks fun _ => .bind (isAt_tracks rfl) fun _ => .ite ?_ ?_
    · exact .bind (h.callOf hv _) fun _ => .bind alias?_tracks fun _ => .pure _
    · refine .bind (tableOf_tracks hv _) fun _ => .bind alias?_tracks fun _ => ?_
      split
      · exact .bind (addAlias_tracks _ _) fun _ => .pure _
      · exact .pure _

theorem Tracked.joinedTable (join : String) :
    Tracks W (i.joinedTable join) (j.joinedTable join) := by
  refine .bind (h.tableFactor hv) fun _ => .bind (eatKeyword_tracks (by decide)) fun _ => .ite ?_ ?_
  · exact .bind (h.expr W hv 0) fun _ => .pure _
  · refine .bind (eatKeyword_tracks (by decide)) fun _ => .ite ?_ (.pure _)
    exact .bind parenthesizedNames_tracks fun _ => .pure _

theorem Tracked.moreTables {n m : Nat} (hnm : n ≤ m) :
    Tracks W (i.moreTables n) (j.moreTables m) := by
  induction n generalizing m with
  | zero => exact .outOfRounds
  | succ n ih =>
    obtain ⟨m, rfl⟩ : ∃ k, m = k + 1 := ⟨m - 1, by omega⟩
    refine .bind (eat_tracks rfl) fun _ => .ite ?_ (.bind join?_tracks fun join => ?_)
    · exact .bind (h.tableFactor hv) fun _ => .bind (ih (by omega)) fun _ => .pure _
    · cases join with
      | none => exact .pure _
      | some join =>
        exact .bind (h.joinedTable hv join) fun _ => .bind (ih (by omega)) fun _ => .pure _

theorem Tracked.tableList : Tracks W i.tableList j.tableList :=
  .bind (h.tableFactor hv) fun _ => .rounds fun _ _ hnm =>
    .bind (h.moreTables hv hnm) fun _ => .pure _

theorem Tracked.tables? : Tracks W i.tables? j.tables? := by
  refine .bind (eatKeyword_tracks (by decide)) fun _ => .ite ?_ (.pure _)
  exact .bind (h.tableList hv) fun _ => .pure _

theorem Tracked.groupBy? : Tracks W i.groupBy? j.groupBy? := by
  refine .bind (eatKeyword_tracks (by decide)) fun _ => .ite ?_ (.pure _)
  exact .bind (expectKeyword_tracks _) fun _ => .bind (h.exprs hv) fun _ => .pure _

theorem Tracked.having? : Tracks W i.having? j.having? := by
  refine .bind (eatKeyword_tracks (by decide)) fun _ => .ite ?_ (.pure _)
  exact .bind (h.expr W hv 0) fun _ => .pure _

theorem Tracked.namedWindow : Tracks W i.namedWindow j.namedWindow :=
  .bind identifier_tracks fun _ => .bind (expectKeyword_tracks _) fun _ =>
    .bind (h.windowSpec hv) fun _ => .pure _

theorem Tracked.windows? : Tracks W i.windows? j.windows? := by
  refine .bind (eatWord_tracks _) fun _ => .ite ?_ (.pure _)
  exact .bind (commaSeparated_tracks (h.namedWindow hv)) fun _ => .pure _

theorem Tracked.fetch : Tracks W i.fetch j.fetch := by
  refine .bind (expectWord_tracks _) fun _ => .bind (h.expr W hv 0) fun _ => ?_
  refine .bind (eatWord_tracks _) fun _ => .ite (.bind (.pure _) ?rows) (.bind (.pure _) ?rows)
  refine fun _ => .bind (expectWord_tracks _) fun _ =>
    .bind (eatKeyword_tracks (by decide)) fun _ => ?_
  exact .ite (.bind (expectWord_tracks _) fun _ => .pure _)
    (.bind (expectWord_tracks _) fun _ => .pure _)

theorem Tracked.limitAfterWord : Tracks W i.limitAfterWord j.limitAfterWord := by
  refine .bind (h.expr W hv 0) fun _ => .bind (eat_tracks rfl) fun _ => .ite ?_ ?_
  · exact .bind (h.expr W hv 0) fun _ => .pure _
  · refine .bind (eatKeyword_tracks (by decide)) fun _ => .ite ?_ (.pure _)
    exact .bind (h.expr W hv 0) fun _ => .pure _

theorem Tracked.offsetAfterWord : Tracks W i.offsetAfterWord j.offsetAfterWord := by
  refine .bind (h.expr W hv 0) fun _ => .bind (takeAnyWord_tracks _) fun _ => ?_
  refine .bind (eatKeyword_tracks (by decide)) fun _ => .ite ?_ (.pure _)
  exact .bind (h.fetch hv) fun _ => .pure _

theorem Tracked.limit? : Tracks W i.limit? j.limit? := by
  refine .bind (eatKeyword_tracks (by decide)) fun _ => .ite ?_ ?_
  · exact .bind (h.limitAfterWord hv) fun _ => .pure _
  · refine .bind (eatKeyword_tracks (by decide)) fun _ => .ite ?_ ?_
    · exact .bind (h.offsetAfterWord hv) fun _ => .pure _
    · refine .bind (eatKeyword_tracks (by decide)) fun _ => .ite ?_ (.pure _)
      exact .bind (h.fetch hv) fun _ => .pure _

theorem Tracked.returning? : Tracks W i.returning? j.returning? := by
  refine .when (isAtKeyword_asks _) rfl (W.closes.keyword (by decide)) ?_ ?_
  · refine .source fun src src' hd => ?_
    rw [hd]
    exact .ite (.bind advance_inside fun _ => .bind (h.columns hv) fun _ => .pure _) (.pure _)
  · exact .source fun _ _ _ => .pure _

end Clauses

/-! ## Whole queries -/

theorem Tracked.selectCore (h : i.Tracked j) (hv : W.sameVerb)
    (hw : W.ending.kind ≠ .keyword .WHERE) (withs : Option (List (Cte Expr))) :
    Tracks W (i.selectCore withs) (j.selectCore withs) := by
  refine .bind (expectKeyword_tracks _) fun _ => .bind selectDistinct_tracks fun _ => ?_
  refine .bind (h.columns hv) fun _ => .bind (h.tables? hv) fun _ =>
    .bind (h.condition? hv hw) fun _ => ?_
  refine .bind (h.groupBy? hv) fun _ => .bind (h.having? hv) fun _ =>
    .bind (h.windows? hv) fun _ => ?_
  exact .bind (h.orderBy? hv) fun _ => .bind (h.limit? hv) fun _ => .pure _

theorem Tracked.selectCore_orEnds (h : i.Tracked j) (hi : i.Tracked i) (hv : W.sameVerb)
    (withs : Option (List (Cte Expr))) :
    TracksOrEnds W (i.selectCore withs) (j.selectCore withs) := by
  refine (expectKeyword_tracks _).bindOrEnds fun _ => selectDistinct_tracks.bindOrEnds fun _ => ?_
  refine (h.columns hv).bindOrEnds fun _ => (h.tables? hv).bindOrEnds fun _ => ?_
  refine (h.condition?_orEnds hv).bind (fun _ => .of ?_) fun _ => ?_
  · refine .bind (h.groupBy? hv) fun _ => .bind (h.having? hv) fun _ =>
      .bind (h.windows? hv) fun _ => ?_
    exact .bind (h.orderBy? hv) fun _ => .bind (h.limit? hv) fun _ => .pure _
  · refine .of fun W hv _ => ?_
    refine .bind (hi.groupBy? hv) fun _ => .bind (hi.having? hv) fun _ =>
      .bind (hi.windows? hv) fun _ => ?_
    exact .bind (hi.orderBy? hv) fun _ => .bind (hi.limit? hv) fun _ => .pure _

theorem selectCore_fails (withs : Option (List (Cte Expr))) : FailsAtEof (i.selectCore withs) :=
  (expectKeyword_fails _).bind

theorem setChain_fails : FailsAtEof i.setChain :=
  .test (isAtKeyword_asks _) rfl (.pureBind (selectCore_fails _).bind)

theorem Tracked.selectChain (h : i.Tracked j) (hv : W.sameVerb)
    (hw : W.ending.kind ≠ .keyword .WHERE) (withs : Option (List (Cte Expr))) :
    Tracks W (i.selectChain withs) (j.selectChain withs) := by
  refine .bind (h.selectCore hv hw _) fun _ => .bind setOperator?_tracks fun operator => ?_
  cases operator with
  | none => exact .pure _
  | some operator => exact .bind (h.queryClosed W hw) fun _ => .pure _

theorem Tracked.selectChain_orEnds (h : i.Tracked j) (hi : i.Tracked i) (hv : W.sameVerb)
    (withs : Option (List (Cte Expr))) :
    TracksOrEnds W (i.selectChain withs) (j.selectChain withs) := by
  refine (h.selectCore_orEnds hi hv withs).bind (fun _ => ?_) fun _ => ?_
  · refine setOperator?_tracks.bindOrEnds fun operator => ?_
    cases operator with
    | none => exact .of (.pure _)
    | some operator => exact (h.query W).bind (fun _ => .of (.pure _)) fun _ => .pure _
  · refine .bind (.of fun _ _ _ => setOperator?_tracks) fun operator => ?_
    cases operator with
    | none => exact .pure _
    | some operator => exact .bind h.query_fails.stays fun _ => .pure _

theorem Tracked.setChain (h : i.Tracked j) (hv : W.sameVerb)
    (hw : W.ending.kind ≠ .keyword .WHERE) :
    Tracks W i.setChain j.setChain := by
  refine .bind (isAtKeyword_tracks (by decide)) fun _ =>
    .ite ?_ (.bind (.pure _) (h.selectChain hv hw))
  exact .bind h.withClause fun _ => .bind (.pure _) (h.selectChain hv hw)

theorem Tracked.setChain_orEnds (h : i.Tracked j) (hi : i.Tracked i) (hv : W.sameVerb) :
    TracksOrEnds W i.setChain j.setChain := by
  refine (isAtKeyword_tracks (by decide)).bindOrEnds fun v => ?_
  cases v with
  | false => exact TracksOn.bindOrEnds (.pure _) (h.selectChain_orEnds hi hv)
  | true =>
    exact h.withClause.bindOrEnds fun _ =>
      TracksOn.bindOrEnds (.pure _) (h.selectChain_orEnds hi hv)

theorem Tracked.readQuery (h : i.Tracked j) (hw : W.ending.kind ≠ .keyword .WHERE) :
    Tracks W i.readQuery j.readQuery :=
  withVerb_tracks "select" (h.setChain (W := W.agreeing) trivial hw)

theorem Tracked.readQuery_orEnds (h : i.Tracked j) (hi : i.Tracked i) :
    TracksOrEnds W i.readQuery j.readQuery :=
  withVerb_orEnds "select" (h.setChain_orEnds (W := W.agreeing) hi trivial)

theorem readQuery_fails : FailsAtEof i.readQuery := withVerb_fails "select" setChain_fails

end Nested

/-- What is read with so much room for nesting is read with more room too. -/
theorem nested_tracked {n m : Nat} (hnm : n ≤ m) : (nested n).Tracked (nested m) := by
  induction n generalizing m with
  | zero => exact {
      expr := fun _ _ _ => .unexpected
      operand := fun _ _ => .unexpected
      primary := fun _ _ => .unexpected
      dataType := fun _ _ _ _ _ _ _ hr => absurd hr not_returns_unexpected
      query := fun _ => .of .unexpected
      queryClosed := fun _ _ => .unexpected
      expr_fails := fun _ => unexpected_fails
      operand_fails := unexpected_fails
      primary_fails := unexpected_fails
      dataType_fails := unexpected_fails
      query_fails := unexpected_fails }
  | succ n ih =>
    obtain ⟨m, rfl⟩ : ∃ k, m = k + 1 := ⟨m - 1, by omega⟩
    have h := ih (Nat.le_of_succ_le_succ hnm)
    exact {
      expr := fun _ hv least => h.readExpr hv least
      operand := fun _ hv => h.readOperand hv
      primary := fun _ hv => h.readPrimary hv
      dataType := fun _ => h.readDataType
      query := fun _ => h.readQuery_orEnds (ih (Nat.le_refl n))
      queryClosed := fun _ hw => h.readQuery hw
      expr_fails := fun least => Nested.readExpr_fails least
      operand_fails := Nested.readOperand_fails
      primary_fails := Nested.readPrimary_fails
      dataType_fails := Nested.readDataType_fails
      query_fails := Nested.readQuery_fails }

end SqlWeave.Parser
