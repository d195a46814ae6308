import SqlWeave.Parser.Script
import SqlWeave.Proofs.Parser.Precedence

/-! How queries are read, and all that nests in them. -/

namespace SqlWeave.Parser

open HasSlots (slots)

attribute [local simp] BuiltPart throughout_list

variable {K : TokenKind → Prop} {i : Nested}

/-! ## Readers without trees -/

instance : Control alias? where
  makes K := by
    refine .bind fun _ => .ite (.bind fun k => ?_) (.bind fun k => ?_)
    · split
      · exact .bind fun _ => .pure trivial
      · exact .bind fun _ => .pure trivial
      · exact .bind fun _ => .pure trivial
    · split
      · exact .ite (.bind fun _ => .pure trivial) (.pure trivial)
      · exact .bind fun _ => .pure trivial
      · exact .bind fun _ => .pure trivial
      · exact .pure trivial

instance : Control setOperator? where
  makes K := by
    refine .bind fun k => ?_
    split
    · exact .pure trivial
    · refine .bind fun _ => .bind fun _ => .ite (.pure trivial) (.bind fun _ => ?_)
      exact .ite (.pure trivial) (.pure trivial)

instance : Control joinSide where
  makes K := by
    refine .bind fun _ => .ite (.pure trivial)
      (.bind fun _ => .ite (.pure trivial) (.bind fun k => ?_))
    split
    · exact .pure trivial
    · exact .bind fun _ => .bind fun _ => .ite (.pure trivial) (.pure trivial)

instance : Control join? where
  makes K := by
    refine .bind fun _ => .ite ?_ ?_ <;>
      exact .bind fun _ => .bind fun _ => .bind fun _ =>
        .ite (.pure trivial) (.ite (.pure trivial) .unexpected)

instance : Control Nested.selectDistinct :=
  ⟨fun _ => .bind fun _ => .ite (.pure trivial) (.bind fun _ => .pure trivial)⟩

/-! ## Clauses -/

theorem tableOf_built (names : List String) : Makes K (BuiltPart K) (tableOf names) :=
  .bind fun _ => .pure (by simp)

theorem tableName_built : Makes K (BuiltPart K) tableName := .bind fun names => tableOf_built names

namespace Nested.Built

section Clauses

variable (h : i.Built K)
include h

theorem column : Makes K (BuiltPart K) i.column :=
  .andThen (h.expr 0) fun _ he => .bind fun _ => .pure (by simp [he])

theorem columns : Makes K (BuiltPart K) i.columns := by
  refine .bind fun _ => .ite (.bind fun _ => .bind fun _ =>
    .ite ?_ (.pure (by simp [Columns.slots]))) ?_
  · refine .andThen (Makes.commaSeparated h.column) fun cs hcs => .pure ?_
    have hstar : Expr.star.Built K := Expr.built_mk.mpr ⟨trivial, throughout_nil⟩
    exact throughout_list.mpr (List.forall_mem_cons.mpr
      ⟨allBuilt_expr.mpr ⟨hstar, throughout_nil⟩, hcs.2⟩)
  · exact .andThen (Makes.commaSeparated h.column) fun cs hcs => .pure (throughout_list.mpr hcs.2)

theorem condition? : Makes K (fun x => ∀ e, x = some e → e.Built K) i.condition? :=
  .bind fun _ => .ite (.andThen (h.expr 0) fun e he => .pure (by simpa using he))
    (.pure fun _ he => by cases he)

theorem tableFactor : Makes K (BuiltPart K) i.tableFactor := by
  refine .bind fun _ => .ite ?_ (.bind fun _ => .ite (.pure (by simp [Table.dual])) ?_)
  · refine .andThen h.parenthesizedQuery fun q hq => .bind fun _ => .pure ?_
    simpa [Table.derived] using hq
  · refine .bind fun _ => .bind fun _ => .ite ?_ ?_
    · exact .andThen (h.callOf _) fun e he => .bind fun _ =>
        .pure (by simpa [Table.derived] using he.1)
    · refine .andThen (tableOf_built _) fun table ht => .bind fun _ => ?_
      split
      · exact .bind fun _ => .pure ht
      · exact .pure ht

theorem joinedTable (join : String) : Makes K (BuiltPart K) (i.joinedTable join) := by
  refine .andThen h.tableFactor fun table ht => .bind fun _ => ?_
  have hparts : (∀ e, table.expr = some e → e.Built K) ∧
      (∀ e, table.condition = some e → e.Built K) ∧
      ∀ l, table.usingColumns = some l → l ≠ [] := by simpa using ht
  refine .ite (.andThen (h.expr 0) fun e he => .pure ?_) (.bind fun _ => .ite ?_ (.pure ht))
  · simpa [he] using ⟨hparts.1, hparts.2.2⟩
  · refine .andThen Makes.parenthesizedNames fun names hnames => .pure ?_
    simpa [hnames] using ⟨hparts.1, hparts.2.1⟩

theorem moreTables (n : Nat) : Makes K (BuiltPart K) (i.moreTables n) := by
  induction n with
  | zero => exact .outOfRounds
  | succ n ih =>
    refine .bind fun _ => .ite ?_ (.bind fun join => ?_)
    · exact .andThen h.tableFactor fun t ht => .andThen ih fun ts hts =>
        .pure (throughout_append.mpr ⟨ht, hts⟩)
    · cases join with
      | none => exact .pure throughout_nil
      | some join =>
        exact .andThen (h.joinedTable join) fun t ht => .andThen ih fun ts hts =>
          .pure (throughout_append.mpr ⟨ht, hts⟩)

theorem tableList : Makes K (BuiltPart K) i.tableList :=
  .andThen h.tableFactor fun _ ht => .bind fun n => .andThen (h.moreTables n) fun _ hts =>
    .pure (throughout_append.mpr ⟨ht, hts⟩)

theorem tables? : Makes K (BuiltPart K) i.tables? :=
  .bind fun _ => .ite (.andThen h.tableList fun ts hts => .pure (by simpa using hts))
    (.pure throughout_nil)

theorem groupBy? : Makes K (BuiltPart K) i.groupBy? := by
  refine .bind fun _ => .ite (.bind fun _ => ?_) (.pure throughout_nil)
  exact .andThen h.exprs fun es hes => .pure (by simpa using hes)

theorem having? : Makes K (fun x => ∀ e, x = some e → e.Built K) i.having? :=
  .bind fun _ => .ite (.andThen (h.expr 0) fun e he => .pure (by simpa using he))
    (.pure fun _ he => by cases he)

theorem namedWindow : Makes K (BuiltPart K) i.namedWindow :=
  .bind fun _ => .bind fun _ => .andThen h.windowSpec fun _ hw => .pure hw

theorem windows? : Makes K (BuiltPart K) i.windows? := by
  refine .bind fun _ => .ite ?_ (.pure throughout_nil)
  exact .andThen (Makes.commaSeparated h.namedWindow) fun ws hws => .pure (by simpa using hws.2)

theorem fetch : Makes K (·.1.Built K) i.fetch := by
  refine .bind fun _ => .andThen (h.expr 0) fun e he => .bind fun _ => ?_
  refine .ite (.pureBind ?_) (.pureBind ?_) <;>
    exact .bind fun _ => .bind fun _ => .ite (.bind fun _ => .pure he) (.bind fun _ => .pure he)

theorem limitAfterWord : Makes K (BuiltPart K) i.limitAfterWord := by
  refine .andThen (h.expr 0) fun first hfirst => .bind fun _ =>
    .ite ?_ (.bind fun _ => .ite ?_ (.pure ?_))
  · refine .andThen (h.expr 0) fun count hcount => .pure ?_
    refine allBuilt_limit.mpr ⟨Limit.settled_withComma count first, ?_⟩
    simpa [Limit.withComma, Limit.withOffset, Limit.ofCount] using ⟨hcount, hfirst⟩
  · refine .andThen (h.expr 0) fun offset hoffset => .pure ?_
    refine allBuilt_limit.mpr ⟨Limit.settled_withOffset first offset, ?_⟩
    simpa [Limit.withOffset, Limit.ofCount] using ⟨hfirst, hoffset⟩
  · exact allBuilt_limit.mpr ⟨Limit.settled_ofCount first, by simpa [Limit.ofCount] using hfirst⟩

theorem offsetAfterWord : Makes K (BuiltPart K) i.offsetAfterWord := by
  refine .andThen (h.expr 0) fun offset hoffset => .bind fun _ => .bind fun _ => .ite ?_ (.pure ?_)
  · refine .andThen h.fetch fun fetched hcount => .pure ?_
    refine allBuilt_limit.mpr ⟨Limit.settled_withFetchSuffix rfl _ (.inl rfl)
      (fun he => by cases he), ?_⟩
    simpa [Limit.withFetchSuffix, Limit.ofOffset] using ⟨hcount, hoffset⟩
  · exact allBuilt_limit.mpr ⟨Limit.settled_ofOffset
      offset, by simpa [Limit.ofOffset] using hoffset⟩

theorem limit? : Makes K (BuiltPart K) i.limit? := by
  refine .bind fun _ => .ite (.andThen h.limitAfterWord fun l hl =>
    .pure (by rwa [BuiltPart, slots_some])) ?_
  refine .bind fun _ => .ite (.andThen h.offsetAfterWord fun l hl =>
    .pure (by rwa [BuiltPart, slots_some])) ?_
  refine .bind fun _ => .ite (.andThen h.fetch fun fetched hcount => .pure ?_)
    (.pure throughout_nil)
  rw [BuiltPart, slots_some]
  refine allBuilt_limit.mpr ⟨Limit.settled_withFetchSuffix rfl _ (.inl rfl) (fun he => by cases he),
    ?_⟩
  simpa [Limit.withFetchSuffix, Limit.ofCount] using hcount

omit h in
theorem returning?_eq : i.returning? =
    whereReturning (do advance; return some (← i.columns)) (return none) := rfl

theorem returning? : Makes K (BuiltPart K) i.returning? := by
  rw [returning?_eq]
  refine .whereReturning (.bind fun _ => .andThen h.columns fun cs hcs => .pure ?_)
    (.pure throughout_nil)
  rwa [BuiltPart, slots_some]

theorem cte (recursive : Bool) : Makes K (BuiltPart K) (i.cte recursive) := by
  have hnone : Makes K (fun x : Option (List String) => ∀ l, x = some l → l ≠ []) (pure none) :=
    .pureNone
  have hsome {names : List String} (h : names ≠ []) :
      Makes K (fun x => ∀ l, x = some l → l ≠ []) (pure (some names)) := .pureSome h
  refine .bind fun _ => .bind fun _ => .bind fun _ => .ite
    (.andThen Makes.parenthesizedNames fun _ hnames => .andThen (hsome hnames) ?body)
      (.andThen hnone ?body)
  all_goals
    refine fun columns hcolumns => .bind fun _ => .bind fun _ =>
      .andThen h.parenthesizedQuery fun q hq => .pure ?_
    exact throughout_append.mpr
      ⟨allBuilt_nameLists.mpr hcolumns, allBuilt_expr.mpr ⟨built_query.mpr hq, throughout_nil⟩⟩

theorem withClause : Makes K (BuiltPart K) i.withClause :=
  .bind fun _ => .bind fun recursive => (Makes.commaSeparated (h.cte recursive)).mono fun _ hcs =>
    throughout_list.mpr hcs.2

end Clauses

/-! ## Whole queries -/

section Queries

variable (h : i.Built K)
include h

theorem selectCore {withs : Option (List (Cte Expr))} (hwiths : BuiltPart K withs) :
    Makes K (BuiltPart K) (i.selectCore withs) := by
  refine .bind fun _ => .bind fun _ => .andThen h.columns fun columns hcolumns => ?_
  refine .andThen h.tables? fun tables htables =>
    .andThen h.condition? fun condition hcondition => ?_
  refine .andThen h.groupBy? fun groupBy hgroupBy => .andThen h.having? fun having hhaving => ?_
  refine .andThen h.windows? fun windows hwindows => .andThen h.orderBy? fun orderBy horderBy => ?_
  refine .andThen h.limit? fun limit hlimit => .pure ?_
  simp only [BuiltPart, slots_select, throughout_append, allBuilt_optionals]
  exact ⟨⟨⟨⟨⟨⟨⟨⟨hwiths, hcolumns⟩, htables⟩, hcondition⟩, hgroupBy⟩, hhaving⟩, hwindows⟩, horderBy⟩,
    hlimit⟩

theorem selectChain {withs : Option (List (Cte Expr))} (hwiths : BuiltPart K withs) :
    Makes K (BuiltPart K) (i.selectChain withs) := by
  refine .andThen (h.selectCore hwiths) fun head hhead => .bind fun operator => ?_
  cases operator with
  | none => exact .pure (throughout_append.mpr ⟨hhead, throughout_nil⟩)
  | some operator =>
    exact .andThen h.query fun next hnext => .pure (throughout_append.mpr ⟨hhead, hnext⟩)

theorem setChain : Makes K (BuiltPart K) i.setChain := by
  refine .bind fun _ => .ite ?_ (.pureBind (h.selectChain throughout_nil))
  exact .andThen h.withClause fun withs hwiths =>
    .pureBind (h.selectChain (by rwa [BuiltPart, slots_some]))

theorem readQuery : Makes K (BuiltPart K) i.readQuery := .withVerb h.setChain

end Queries

end Nested.Built

theorem nested_built (n : Nat) : (nested n).Built K := by
  induction n with
  | zero => exact {
      leading := fun _ => .unexpected
      stops := fun hr => absurd hr not_returns_unexpected
      operand := .unexpected
      primary := .unexpected
      query := .unexpected
      dataType := .unexpected }
  | succ n ih => exact {
      leading := ih.readExpr
      stops := Nested.readExpr_stop
      operand := ih.readOperand
      primary := ih.readPrimary.mono fun _ he => he.1
      query := ih.readQuery
      dataType := ih.readDataType }

end SqlWeave.Parser
