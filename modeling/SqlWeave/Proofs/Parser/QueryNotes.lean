import SqlWeave.Proofs.Parser.StarNotes

/-! What the readers of queries note, and those of all that nests. -/

namespace SqlWeave.Parser

open HasParts (parts)

attribute [local simp] or_assoc

variable {exact : Prop} {verb : String} {i : Nested}

theorem tableOf_notes (names : List String) : Notes exact verb (tableOf names) :=
  .bind (addTable_notes _ _) fun _ => .pure (by simp)

theorem tableName_notes : Notes exact verb tableName :=
  .quiet dottedName_quiet fun names => tableOf_notes names

theorem setOperator?_quiet : Quiet setOperator? := by
  refine .bind kind_quiet fun k => ?_
  split
  · exact .pure _
  · refine .bind advance_quiet fun _ => .bind (eatKeyword_quiet _) fun _ => .ite (.pure _) ?_
    exact .bind (eatKeyword_quiet _) fun _ => .ite (.pure _) (.pure _)

theorem joinSide_quiet : Quiet joinSide := by
  refine .bind (eatKeyword_quiet _) fun _ => .ite (.pure _) (.bind (eatKeyword_quiet _) fun _ => ?_)
  refine .ite (.pure _) (.bind kind_quiet fun k => ?_)
  split
  · exact .pure _
  · exact .bind advance_quiet fun _ => .bind (eatKeyword_quiet _) fun _ => .ite (.pure _) (.pure _)

theorem join?_quiet : Quiet join? := by
  refine .bind (eatWord_quiet _) fun _ => .ite (.bind (.pure _) ?side) (.bind (.pure _) ?side)
  refine fun _ => .bind joinSide_quiet fun _ => .bind (eatKeyword_quiet _) fun _ => ?_
  exact .ite (.pure _) (.ite (.pure _) .unexpected)

namespace Nested

theorem selectDistinct_quiet : Quiet selectDistinct :=
  .bind (eatKeyword_quiet _) fun _ => .ite (.pure _) (.bind (eatKeyword_quiet _) fun _ => .pure _)

section Clauses

variable (h : i.Noted exact)
include h

theorem Noted.column : Notes exact verb i.column :=
  .bind (h.expr verb 0) fun _ => .quiet alias?_quiet fun _ => .pure (by simp)

/-- The first entry of a list that does not start with the sign is a star only if that was noted. -/
theorem Noted.commaSeparated_star {src : Source} {s t : ParserState} {items : List (Column Expr)}
    (hr : Returns (commaSeparated i.column) src s items t) (hk : s.current.kind ≠ .symbol .star)
    (hstar : (Columns.list items).startsWithStar = true) :
    t.references.Has (.column (.of s.verb none "*")) := by
  obtain ⟨first, u, hfirst, hr⟩ := Returns.bind hr
  obtain ⟨more, v, hmore, hr⟩ := Returns.bind hr
  obtain ⟨rfl, rfl⟩ := Returns.pure hr
  obtain ⟨e, w, he, hfirst⟩ := Returns.bind hfirst
  obtain ⟨aliasName, w', halias, hfirst⟩ := Returns.bind hfirst
  obtain ⟨rfl, rfl⟩ := Returns.pure hfirst
  have hnoted := h.star 0 src s e w he hk hstar
  rw [← (alias?_quiet _ _ _ _ halias).2] at hnoted
  obtain ⟨-, new, hnew, -⟩ := many_notes h.column (eat_quiet _) _ _ _ _ rfl hmore
  exact (hnew _).mpr (.inl hnoted)

theorem Noted.columns : Notes exact verb i.columns := by
  have hlist (cs : List (Column Expr)) (r : Reference) :
      Part.Named verb (parts (Columns.list cs)) r ↔
        (Columns.list cs).startsWithStar = true ∧ r = .column (.of verb none "*") ∨
          ∃ c ∈ cs, Part.Named verb (parts c) r := by
    simp [Columns.items]
  intro src s x t hv hr
  obtain ⟨b, u, hb, hr⟩ := Returns.bind hr
  obtain ⟨hu, hsame⟩ := eat_quiet _ _ _ _ _ hb
  cases b with
  | true =>
    -- after the sign, which is noted at once
    have hstar : Notes exact verb (do
        addColumn none "*"
        if ← eat .comma then return .list ({ expr := .star } :: (← commaSeparated i.column))
        else return (.all : Columns Expr)) := by
      refine .bind (addColumn_notes _ _) fun _ => .quiet (eat_quiet _) fun _ => .ite ?_ (.pure ?_)
      · refine .bind (commaSeparated_notes h.column) fun cs => .pure fun r => ?_
        rw [hlist]
        simp [Columns.startsWithStar]
      · simp [Columns.startsWithStar, Columns.items]
    obtain ⟨ht, new, hnew, hrest⟩ := hstar src u x t (hu.trans hv) hr
    exact ⟨ht, new, fun r => by rw [hnew, hsame], hrest⟩
  | false =>
    obtain ⟨hk, rfl⟩ := eat_refuses hb
    obtain ⟨cs, w, hcs, hr⟩ := Returns.bind hr
    obtain ⟨rfl, rfl⟩ := Returns.pure hr
    obtain ⟨ht, new, hnew, hcover, hexact⟩ := commaSeparated_notes h.column _ _ _ _ hv hcs
    refine ⟨ht, fun r => new r ∨ (Columns.list cs).startsWithStar = true ∧
      r = .column (.of verb none "*"),
      fun r => ?_, fun r hr => ?_, fun he r hkind hr => ?_⟩
    · constructor
      · intro hr
        exact ((hnew r).mp hr).imp_right .inl
      · rintro (hr | hr | ⟨hstar, rfl⟩)
        · exact (hnew r).mpr (.inl hr)
        · exact (hnew r).mpr (.inr hr)
        · exact hv ▸ h.commaSeparated_star hcs hk hstar
    · rcases (hlist cs r).mp hr with hstar | hitem
      · exact .inr (.inr hstar)
      · exact .inr (.inl ((hcover r hitem).resolve_left id))
    · rcases hr with hr | hr | ⟨-, rfl⟩
      · exact hr.elim
      · exact (hlist cs r).mpr (.inr (hexact he r hkind (.inr hr)))
      · cases hkind

theorem Noted.condition? : Notes exact verb i.condition? :=
  .quiet (eatKeyword_quiet _) fun _ =>
    .ite (.bind (h.expr verb 0) fun _ => .pure (by simp)) (.pure (by simp))

theorem Noted.tableFactor : Notes exact verb i.tableFactor := by
  refine .quiet (eat_quiet _) fun _ =>
    .ite ?_ (.quiet (eatWord_quiet _) fun _ => .ite (.pure ?_) ?_)
  · exact .bind h.parenthesizedQuery fun _ => .quiet alias?_quiet fun _ =>
      .pure (by simp [Table.derived])
  · simp [Table.dual]
  · refine .quiet dottedName_quiet fun _ => .quiet (isAt_quiet _) fun _ => .ite ?_ ?_
    · exact .bind (h.callOf _) fun _ => .quiet alias?_quiet fun _ => .pure (by simp [Table.derived])
    · refine .bind (tableOf_notes _) fun _ => .quiet alias?_quiet fun _ => ?_
      split
      · exact .quiet (addAlias_quiet _ _) fun _ => .pure (by simp)
      · exact .pureBind (.pure (by simp))

omit h in
/-- A table has its condition only once it is joined. -/
theorem tableFactor_condition : Ensures (·.condition = none) i.tableFactor := by
  refine .bind fun _ => .ite (.bind fun _ => .bind fun _ => .pure rfl) ?_
  refine .bind fun _ => .ite (.pure rfl) (.bind fun _ => .bind fun _ => .ite ?_ ?_)
  · exact .bind fun _ => .bind fun _ => .pure rfl
  · refine .andThen (K := (·.condition = none)) (.bind fun _ => .pure rfl) fun table hc =>
      .bind fun _ => ?_
    split
    · exact .bind fun _ => .pure hc
    · exact .pure hc

theorem Noted.joinedTable (join : String) : Notes exact verb (i.joinedTable join) := by
  refine .bindKnowing tableFactor_condition h.tableFactor fun table hc => ?_
  refine .quiet (eatKeyword_quiet _) fun _ => .ite ?_ ?_
  · exact .bind (h.expr verb 0) fun _ => .pure (by simp [hc])
  · refine .quiet (eatKeyword_quiet _) fun _ => .ite ?_ (.pure (by simp))
    exact .quiet parenthesizedNames_quiet fun _ => .pure (by simp)

theorem Noted.moreTables (n : Nat) : Notes exact verb (i.moreTables n) := by
  induction n with
  | zero => exact .outOfRounds
  | succ n ih =>
    refine .quiet (eat_quiet _) fun _ => .ite ?_ (.quiet join?_quiet fun join => ?_)
    · exact .bind h.tableFactor fun _ => .bind ih fun _ => .pure (by simp)
    · cases join with
      | none => exact .pure (by simp)
      | some join => exact .bind (h.joinedTable join) fun _ => .bind ih fun _ => .pure (by simp)

theorem Noted.tableList : Notes exact verb i.tableList :=
  .bind h.tableFactor fun _ => .quiet rounds_quiet fun n => .bind (h.moreTables n) fun _ =>
    .pure (by simp)

theorem Noted.tables? : Notes exact verb i.tables? :=
  .quiet (eatKeyword_quiet _) fun _ =>
    .ite (.bind h.tableList fun _ => .pure (by simp)) (.pure (by simp))

theorem Noted.groupBy? : Notes exact verb i.groupBy? := by
  refine .quiet (eatKeyword_quiet _) fun _ => .ite ?_ (.pure (by simp))
  exact .quiet (expectKeyword_quiet _) fun _ => .bind h.exprs fun _ => .pure (by simp)

theorem Noted.having? : Notes exact verb i.having? :=
  .quiet (eatKeyword_quiet _) fun _ =>
    .ite (.bind (h.expr verb 0) fun _ => .pure (by simp)) (.pure (by simp))

theorem Noted.namedWindow : Notes exact verb i.namedWindow :=
  .quiet identifier_quiet fun _ => .quiet (expectKeyword_quiet _) fun _ =>
    .bind h.windowSpec fun _ =>
    .pure (by simp)

theorem Noted.windows? : Notes exact verb i.windows? := by
  refine .quiet (eatWord_quiet _) fun _ => .ite ?_ (.pure (by simp))
  exact .bind (commaSeparated_notes h.namedWindow) fun _ => .pure (by simp)

theorem Noted.fetch :
    NotesAs exact verb (fun _ => False) i.fetch fun result => result.1.Names verb := by
  refine .quiet (expectWord_quiet _) fun _ => .bind (h.expr verb 0) fun _ =>
    .quiet (eatWord_quiet _) fun _ => ?_
  refine .ite (.quiet (.pure _) ?rows) (.quiet (.pure _) ?rows)
  refine fun _ => .quiet (expectWord_quiet _) fun _ => .quiet (eatKeyword_quiet _) fun _ =>
    .ite ?_ ?_
  · exact .quiet (expectWord_quiet _) fun _ => .pure (by simp)
  · exact .quiet (expectWord_quiet _) fun _ => .pure (by simp)

theorem Noted.limitAfterWord : Notes exact verb i.limitAfterWord := by
  refine .bind (h.expr verb 0) fun _ => .quiet (eat_quiet _) fun _ => .ite ?_ ?_
  · refine .bind (h.expr verb 0) fun _ => .pure ?_
    simp [Limit.withComma, Limit.withOffset, Limit.ofCount, or_comm]
  · refine .quiet (eatKeyword_quiet _) fun _ =>
      .ite (.bind (h.expr verb 0) fun _ => .pure ?_) (.pure ?_)
    · simp [Limit.withOffset, Limit.ofCount]
    · simp [Limit.ofCount]

theorem Noted.offsetAfterWord : Notes exact verb i.offsetAfterWord := by
  refine .bind (h.expr verb 0) fun _ => .quiet (takeIf_quiet (isAtAnyWord_quiet _)) fun _ => ?_
  refine .quiet (eatKeyword_quiet _) fun _ => .ite (.bind h.fetch fun _ => .pure ?_) (.pure ?_)
  · simp [Limit.withFetchSuffix, Limit.ofOffset, or_comm]
  · simp [Limit.ofOffset]

theorem Noted.limit? : Notes exact verb i.limit? := by
  refine .quiet (eatKeyword_quiet _) fun _ =>
    .ite (.bind h.limitAfterWord fun _ => .pure (by simp)) ?_
  refine .quiet (eatKeyword_quiet _) fun _ =>
    .ite (.bind h.offsetAfterWord fun _ => .pure (by simp)) ?_
  refine .quiet (eatKeyword_quiet _) fun _ =>
    .ite (.bind h.fetch fun _ => .pure ?_) (.pure (by simp))
  simp [Limit.withFetchSuffix, Limit.ofCount]

theorem Noted.returning? : Notes exact verb i.returning? := by
  refine .quiet (isAtKeyword_quiet _) fun _ => .quiet read_quiet fun _ => .ite ?_ (.pure (by simp))
  exact .quiet advance_quiet fun _ => .bind h.columns fun _ => .pure (by simp)

/-- The query is named under `select`, whatever the verb. -/
theorem Noted.cte (named : String) (recursive : Bool) :
    NotesAs exact verb (fun _ => False) (i.cte recursive) fun c => Part.Named named (parts c) := by
  refine .quiet identifier_quiet fun _ => .bind (addCte_notes _) fun _ =>
    .quiet (isAt_quiet _) fun _ => ?_
  refine .ite (.quiet parenthesizedNames_quiet fun _ => .quiet (.pure _) ?body)
    (.quiet (.pure _) ?body)
  refine fun _ => .quiet (expectKeyword_quiet _) fun _ => .quiet (expect_quiet _) fun _ => ?_
  exact .bind h.parenthesizedQuery fun _ => .pure (by simp [Expr.names_query])

theorem Noted.withClause (named : String) :
    NotesAs exact verb (fun _ => False) i.withClause fun withs => Part.Named named (parts withs) :=
  .quiet (expectKeyword_quiet _) fun _ => .quiet (eatKeyword_quiet _) fun recursive =>
    (commaSeparated_notes (h.cte named recursive)).congr (fun _ => .rfl) (by simp)

end Clauses

/-! ## Whole queries -/

section Queries

variable (h : i.Noted exact)
include h

theorem Noted.selectCore (withs : Option (List (Cte Expr))) :
    NotesAs exact verb (Part.Named verb (parts withs)) (i.selectCore withs) fun s =>
      Part.Named verb (parts s) := by
  refine .quiet (expectKeyword_quiet _) fun _ => .quiet selectDistinct_quiet fun _ => ?_
  refine .bind h.columns fun _ => .bind h.tables? fun _ => .bind h.condition? fun _ => ?_
  refine .bind h.groupBy? fun _ => .bind h.having? fun _ => .bind h.windows? fun _ => ?_
  exact .bind h.orderBy? fun _ => .bind h.limit? fun _ => .pure (by simp)

theorem Noted.selectChain (verb : String) (withs : Option (List (Cte Expr))) :
    NotesAs exact "select" (Part.Named "select" (parts withs)) (i.selectChain withs) fun q =>
      (Expr.query q).Names verb := by
  refine .andThen (h.selectCore withs) fun _ => .quiet setOperator?_quiet fun operator => ?_
  cases operator with
  | none => exact .pure (by simp [Expr.names_query])
  | some operator => exact .bind (h.query "select") fun _ => .pure (by simp [Expr.names_query])

theorem Noted.setChain (verb : String) :
    NotesAs exact "select" (fun _ => False) i.setChain fun q => (Expr.query q).Names verb := by
  refine .quiet (isAtKeyword_quiet _) fun _ => .ite (.bind (h.withClause "select") fun _ => ?_) ?_
  · exact .pureNamed (by simp) (h.selectChain verb)
  · exact .pureNamed (by simp) (h.selectChain verb)

theorem Noted.readQuery : Notes exact verb i.readQuery :=
  (withVerb_notes (h.setChain verb)).congr (fun _ => .rfl) (by simp)

end Queries

end Nested

theorem nested_noted (n : Nat) : (nested n).Noted exact := by
  induction n with
  | zero => exact {
      expr := fun _ _ => .unexpected
      operand := fun _ => .unexpected
      primary := fun _ => .unexpected
      query := fun _ => .unexpected
      dataType := fun _ => .unexpected
      star := fun _ _ _ _ _ hr => absurd hr not_returns_unexpected }
  | succ n ih => exact {
      expr := fun _ least => ih.readExpr least
      operand := fun _ => ih.readOperand
      primary := fun _ => ih.readPrimary
      query := fun _ => ih.readQuery
      dataType := fun _ => ih.readDataType
      star := fun _ _ _ _ _ hr => ih.readExpr_star hr }

end SqlWeave.Parser
