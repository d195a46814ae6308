import SqlWeave.Proofs.Parser.QueryNotes

/-! What the readers of statements note. A statement sets its verb and notes its own tables under
it. CREATE may read more than it keeps, since a later DEFAULT of a column replaces an earlier
one. -/

namespace SqlWeave.Parser

open HasParts (parts)

attribute [local simp] or_assoc

variable {exact : Prop} {verb : String} {i : Nested}

theorem ifNotExists_quiet : Quiet ifNotExists := by
  refine .bind (eatKeyword_quiet _) fun _ => .ite ?_ (.pure _)
  exact .bind (expectKeyword_quiet _) fun _ => .bind (expectKeyword_quiet _) fun _ => .pure _

theorem insertWords_quiet : Quiet insertWords := by
  refine .bind (eatWord_quiet _) fun _ => .ite (.bind (eatKeyword_quiet _) fun _ => .pure _) ?_
  exact .bind (eatKeyword_quiet _) fun _ => .ite (.pure _) (.pure _)

theorem targetTail_quiet (n : Nat) : Quiet (targetTail n) := by
  induction n with
  | zero => exact .outOfRounds
  | succ n ih =>
    refine .bind (eat_quiet _) fun _ =>
      .ite (.bind (eat_quiet _) fun _ => .ite (.pure _) ?_) (.pure _)
    exact .bind identifier_quiet fun _ => .bind ih fun _ => .pure _

theorem deleteTarget_notes : Notes exact verb deleteTarget :=
  .quiet identifier_quiet fun _ => .quiet rounds_quiet fun n => .quiet (targetTail_quiet n) fun _ =>
    tableOf_notes _

theorem deleteTargets_notes (n : Nat) : Notes exact verb (deleteTargets n) := by
  induction n with
  | zero => exact .outOfRounds
  | succ n ih =>
    refine .quiet (isAtKeyword_quiet _) fun _ =>
      .ite (.pure (by simp)) (.bind deleteTarget_notes fun _ => ?_)
    exact .quiet (eat_quiet _) fun _ => .ite (.bind ih fun _ => .pure (by simp)) (.pure (by simp))

/-! ## Groups and options kept as written -/

theorem skipGroupWithin_quiet (n depth : Nat) : Quiet (skipGroupWithin n depth) := by
  induction n generalizing depth with
  | zero => exact .outOfRounds
  | succ n ih =>
    refine .bind kind_quiet fun k => ?_
    split
    · exact .bind advance_quiet fun _ => ih _
    · exact .bind advance_quiet fun _ => .ite (.pure _) (ih _)
    · exact .unexpected
    · exact .bind advance_quiet fun _ => ih _

theorem closeGroup_quiet : Quiet closeGroup := .bind rounds_quiet fun n => skipGroupWithin_quiet n 1

theorem skipGroup_quiet : Quiet skipGroup := .bind (expect_quiet _) fun _ => closeGroup_quiet

theorem rawValue_quiet : Quiet rawValue := by
  refine .bind (isAt_quiet _) fun _ =>
    .ite (written_quiet closeGroup_quiet) (.bind kind_quiet fun _ => ?_)
  exact .ite .unexpected (written_quiet
    (.bind (isAt_quiet _) fun _ => .ite skipGroup_quiet (.pure _)))

theorem optionKeyword?_quiet : Quiet optionKeyword? := by
  refine .bind kind_quiet fun k => ?_
  split
  · exact .bind advance_quiet fun _ => .pure _
  · exact .bind advance_quiet fun _ => .bind identifier_quiet fun _ => .pure _
  · exact .bind advance_quiet fun _ => .pure _
  · exact .bind advance_quiet fun _ => .bind (expectKeyword_quiet _) fun _ => .pure _
  · exact .bind advance_quiet fun _ => .bind (expectKeyword_quiet _) fun _ => .pure _
  · exact .bind advance_quiet fun _ => .bind (expectKeyword_quiet _) fun _ => .pure _
  · exact .pure _

theorem tableOptions_quiet (n : Nat) : Quiet (tableOptions n) := by
  induction n with
  | zero => exact .outOfRounds
  | succ n ih =>
    refine .bind optionKeyword?_quiet fun keyword => ?_
    cases keyword with
    | none => exact .pure _
    | some keyword =>
      refine .bind (eat_quiet _) fun _ => .bind rawValue_quiet fun _ =>
        .bind (eat_quiet _) fun _ => ?_
      exact .bind ih fun _ => .pure _

/-- The columns of a key are not noted. -/
theorem tableConstraint_notes {name : String} (hname : name = "PRIMARY KEY" ∨ name = "UNIQUE") :
    NotesAs exact verb (fun _ => False) (tableConstraint name) fun e =>
      e.definitionPart.Names verb := by
  refine .quiet parenthesizedNames_quiet fun names => .pure fun r => ?_
  have hkey (args : List Expr) : (Expr.call name args).definitionPart = .key (.call name args) := by
    simp [Expr.definitionPart, Expr.call, Expr.isKey, hname]
  have hcolumns : (names.map Expr.column).flatMap Expr.keyParts = [] := by
    simp [Expr.column, Expr.keyParts]
  rw [hkey]
  simp [Expr.call, Expr.list, Node.keyParts, hcolumns]

theorem semicolons_quiet : Quiet semicolons :=
  .bind (many_quiet (eat_quiet _) (.pure _)) fun _ => .pure _

namespace Nested

theorem insertColumns_notes (table : String) :
    NotesAs exact verb (fun _ => False) (insertColumns table) fun columns r =>
      ∃ column ∈ columns.getD [], r = .column (.of verb (some table) column) := by
  have hnote (columns : List String) :
      NotesAs exact verb (fun _ => False) (columns.forM fun column => addColumn (some table) column)
        fun _ r =>
        ∃ column ∈ columns, r = .column (.of verb (some table) column) := by
    induction columns with
    | nil => exact .pure (by simp)
    | cons column columns ih =>
      exact .bind (addColumn_notes _ _) fun _ => (ih.frame).congr (fun _ => .rfl) (by simp)
  refine .quiet nextKind_quiet fun _ => .quiet (isAt_quiet _) fun _ => .ite ?_ (.pure (by simp))
  exact .quiet parenthesizedNames_quiet fun columns => .bind (hnote columns) fun _ =>
    .pure (by simp)

section Statements

variable (h : i.Noted exact)
include h

theorem Noted.assignment : Notes exact verb i.assignment := by
  refine .quiet identifier_quiet fun _ => .quiet (eat_quiet _) fun _ => ?_
  refine .ite (.quiet identifier_quiet fun _ => .quiet (.pure _) ?value) (.quiet (.pure _) ?value)
  refine fun _ => .bind (addColumn_notes _ _) fun _ => .quiet (expect_quiet _) fun _ => ?_
  exact .bind (h.expr verb 0) fun _ => .pure (by simp)

theorem Noted.assignments : Notes exact verb i.assignments :=
  (commaSeparated_notes h.assignment).congr (fun _ => .rfl) (by simp)

theorem Noted.row : Notes exact verb i.row :=
  .quiet (expect_quiet _) fun _ => .bind (h.exprsUpTo _) fun _ =>
    .pure (by simp [Expr.list, Node.parts, Node.verb])

theorem Noted.insertSource : Notes exact verb i.insertSource := by
  refine .quiet (eatKeyword_quiet _) fun _ => .ite ?_ (.quiet isAtQuery_quiet fun _ => .ite ?_ ?_)
  · exact .bind (commaSeparated_notes h.row) fun _ => .pure (by simp [InsertSource.parts])
  · exact .bind (h.query verb) fun _ => .pure (by simp [InsertSource.parts])
  · refine .quiet (eat_quiet _) fun _ => .ite ?_ .unexpected
    exact .bind h.parenthesizedQuery fun _ => .pure (by simp [InsertSource.parts])

theorem Noted.onDuplicate? : Notes exact verb i.onDuplicate? := by
  refine .quiet (eatKeyword_quiet _) fun _ =>
    .ite (.quiet (expectWord_quiet _) fun _ => ?_) (.pure (by simp))
  refine .quiet (expectKeyword_quiet _) fun _ => .quiet (expectKeyword_quiet _) fun _ => ?_
  exact .bind h.assignments fun _ => .pure (by simp)

end Statements

/-! ## The definitions of a CREATE -/

section Definitions

variable (h : i.Noted False)
include h

/-- Nothing is named that was not noted; a value that is replaced may be noted and no longer
named. -/
theorem Noted.columnConstraint (d : ColumnDefinition Expr) :
    NotesAs False verb (Part.Named verb (parts d)) (i.columnConstraint d) fun o =>
      Part.Named verb (parts (o.getD d)) := by
  refine .quiet kind_quiet fun k => ?_
  split
  · exact .quiet advance_quiet fun _ => .quiet (expectKeyword_quiet _) fun _ => .pure (by simp)
  · exact .quiet advance_quiet fun _ => .pure (by simp)
  · refine .quiet advance_quiet fun _ => .bind (h.expr verb 7) fun _ => .covers fun r => ?_
    simp only [Option.getD_some, parts_columnDefinition, parts_some, Part.named_append]
    grind
  · exact .quiet advance_quiet fun _ => .quiet (expectKeyword_quiet _) fun _ => .pure (by simp)
  · exact .quiet advance_quiet fun _ => .quiet (eatKeyword_quiet _) fun _ => .pure (by simp)
  · exact .quiet advance_quiet fun _ => .quiet identifier_quiet fun _ => .pure (by simp)
  · refine .ite (.quiet advance_quiet fun _ => .pure (by simp)) (.ite ?_ (.pure (by simp)))
    refine .quiet advance_quiet fun _ => .bind (h.primary verb) fun _ => .covers fun r => ?_
    simp only [Option.getD_some, parts_columnDefinition, parts_some, Part.named_append]
    grind
  · exact .pure (by simp)

theorem Noted.columnConstraints (n : Nat) (d : ColumnDefinition Expr) :
    NotesAs False verb (Part.Named verb (parts d)) (i.columnConstraints n d) fun d =>
      Part.Named verb (parts d) := by
  induction n generalizing d with
  | zero => exact .outOfRounds
  | succ n ih =>
    refine .andThen (h.columnConstraint d) fun o => ?_
    cases o with
    | none => exact .pure fun _ => .rfl
    | some d => exact ih d

theorem Noted.columnDefinition : Notes False verb i.columnDefinition := by
  refine .quiet identifier_quiet fun name => .bind (addColumn_notes _ _) fun _ =>
    .bind (h.dataType verb) fun type => ?_
  refine .quiet rounds_quiet fun n => (h.columnConstraints n _).weaken fun r hr => ?_
  have hparts :
      Part.Named verb (ColumnRef.ofText name).parts r ∨ Part.Named verb (parts type) r := by
    simpa [ColumnDefinition.ofName] using hr
  exact hparts.imp_left fun hcolumn => .inr (Part.column_of_named_parts rfl hcolumn)

theorem Noted.createDefinition :
    NotesAs False verb (fun _ => False) i.createDefinition fun e =>
      e.definitionPart.Names verb := by
  refine .quiet (eatWord_quiet _) fun _ => .ite (.quiet identifier_quiet fun _ => ?body) ?body
  refine .quiet (eatKeyword_quiet _) fun _ =>
    .ite ?_ (.quiet (eatKeyword_quiet _) fun _ => .ite ?_ ?_)
  · exact .quiet (expectKeyword_quiet _) fun _ => tableConstraint_notes (by simp)
  · refine .quiet (eatKeyword_quiet _) fun _ => .quiet (isAt_quiet _) fun _ => ?_
    exact .ite (.quiet identifier_quiet fun _ => tableConstraint_notes (by simp))
      (tableConstraint_notes (by simp))
  · exact .bind h.columnDefinition fun _ =>
      .pure (by simp [Expr.definitionPart, Expr.isKey, Node.parts, Node.verb])

theorem Noted.createDefinitions? :
    NotesAs False verb (fun _ => False) i.createDefinitions? fun definitions r =>
      ∃ e ∈ definitions.getD [], e.definitionPart.Names verb r := by
  refine .quiet (eat_quiet _) fun _ => .ite ?_ (.pure (by simp))
  exact .bind (commaSeparated_notes h.createDefinition) fun _ => .quiet (expect_quiet _) fun _ =>
    .pure (by simp)

theorem Noted.createTable (c : Create Expr) : Notes False verb (i.createTable c) := by
  refine .quiet ifNotExists_quiet fun _ => .bind tableName_notes fun _ =>
    .bind h.createDefinitions? fun _ => ?_
  refine .quiet rounds_quiet fun n => .quiet (tableOptions_quiet n) fun _ =>
    .quiet (eatKeyword_quiet _) fun _ => ?_
  refine .ite (.bind (h.query verb) fun _ => .pureBind (.pure ?_)) (.pureBind (.pure ?_))
  · simp
  · simp

theorem Noted.createView (c : Create Expr) (hc : c.definitions = none) :
    Notes False verb (i.createView c) := by
  refine .quiet ifNotExists_quiet fun _ => .bind tableName_notes fun _ =>
    .quiet (expectKeyword_quiet _) fun _ => ?_
  exact .bind (h.query verb) fun _ => .pure (by simp [hc])

end Definitions

theorem createDatabase_notes (c : Create Expr) (hc : parts c = []) :
    Notes exact verb (createDatabase c) := by
  refine .quiet ifNotExists_quiet fun _ => .quiet identifier_quiet fun _ => .pure fun r => ?_
  show Part.Named verb (parts c) r ↔ False
  simp [hc]

end Nested

/-! ## Whole statements -/

/-- Like `NotesAs`, for readers that set the verb themselves. -/
def Adds {α : Type} (exact : Prop) (pre : Reference → Prop) (p : Parser α)
    (k : α → Reference → Prop) : Prop :=
  ∀ src s x t, Returns p src s x t →
    ∃ new, Grows s t new ∧ (∀ r, k x r → pre r ∨ new r) ∧
      (exact → ∀ r, r.isColumn = false → pre r ∨ new r → k x r)

theorem NotesAs.adds {α : Type} {pre : Reference → Prop} {p : Parser α} {k : α → Reference → Prop}
    (h : ∀ verb, NotesAs exact verb pre p k) : Adds exact pre p k :=
  fun src s x t hr => (h s.verb src s x t rfl hr).2

theorem Adds.andThen {α β : Type} {pre : Reference → Prop} {p : Parser α} {f : α → Parser β}
    {j : α → Reference → Prop} {k : β → Reference → Prop} (hp : Adds exact pre p j)
    (hf : ∀ x, Adds exact (j x) (f x) k) : Adds exact pre (p >>= f) k := by
  intro src s y t hr
  obtain ⟨x, u, hx, hy⟩ := Returns.bind hr
  obtain ⟨new, hnew, hcover, hexact⟩ := hp src s x u hx
  obtain ⟨more, hmore, hcover', hexact'⟩ := hf x src u y t hy
  refine ⟨_, hnew.trans hmore, fun r hk => ?_, fun he r hr hp => ?_⟩
  · rcases hcover' r hk with hj | hm
    · exact (hcover r hj).imp_right .inl
    · exact .inr (.inr hm)
  · rw [← or_assoc] at hp
    rcases hp with hp | hm
    · exact hexact' he r hr (.inl (hexact he r hr hp))
    · exact hexact' he r hr (.inr hm)

theorem setVerb_adds {α : Type} {pre : Reference → Prop} {f : Unit → Parser α}
    {k : α → Reference → Prop} (verb : String) (h : NotesAs exact verb pre (f ()) k) :
    Adds exact pre (setVerb verb >>= f) k := by
  intro src s x t hr
  obtain ⟨_, u, hu, hr⟩ := Returns.bind hr
  cases hu
  exact (h src _ x t rfl hr).2

namespace Nested

/-- The targets that stand for the FROM tables name nothing else. -/
theorem named_impliedTargets {tables : List (Table Expr)} {r : Reference}
    (h : Part.Named verb (parts (impliedTargets tables)) r) : Part.Named verb (parts tables) r := by
  obtain ⟨target, htarget, hr⟩ := Part.named_list.mp h
  obtain ⟨t, ht, rfl⟩ := List.mem_map.mp htarget
  have hname : ∃ name, t.table = some name ∧ r = .table ⟨verb, t.db, name⟩ := by simpa using hr
  exact Part.named_list.mpr ⟨t, (List.mem_filter.mp ht).1, by simp [hname]⟩

/-- The name of a table is never missing. -/
theorem tableName_table : Ensures (fun t => some (t.table.getD "") = t.table) tableName :=
  .bind fun _ => .bind fun _ => .pure rfl

section Statements

variable (h : i.Noted exact)
include h

theorem Noted.insert (verb : String) :
    Adds exact (fun _ => False) (i.insert verb) fun x => Part.Named verb (parts x) := by
  refine setVerb_adds verb (.quiet advance_quiet fun _ => .quiet insertWords_quiet fun _ => ?_)
  refine .bindKnowing tableName_table tableName_notes fun table htable =>
    .bind (insertColumns_notes _) fun _ => ?_
  refine .bind h.insertSource fun _ => .bind h.onDuplicate? fun _ => .bind h.returning? fun _ =>
    .pure ?_
  simp [Insert.columnParts, htable]

theorem Noted.update (withs : Option (List (Cte Expr))) :
    Adds exact (Part.Named "update" (parts withs)) (i.update withs) fun x =>
      Part.Named "update" (parts x) := by
  refine setVerb_adds "update" (.quiet (expectKeyword_quiet _) fun _ =>
    .bind h.tableList fun _ => ?_)
  refine .quiet (expectKeyword_quiet _) fun _ => .bind h.assignments fun _ =>
    .bind h.tables? fun _ => ?_
  refine .bind h.condition? fun _ => .bind h.orderBy? fun _ => .bind h.limit? fun _ => ?_
  exact .bind h.returning? fun _ => .pure (by simp)

theorem Noted.delete (withs : Option (List (Cte Expr))) :
    Adds exact (Part.Named "delete" (parts withs)) (i.delete withs) fun x =>
      Part.Named "delete" (parts x) := by
  refine setVerb_adds "delete" (.quiet (expectKeyword_quiet _) fun _ =>
    .quiet rounds_quiet fun n => ?_)
  refine .bind (deleteTargets_notes n) fun targets => .quiet (expectKeyword_quiet _) fun _ => ?_
  refine .bind h.tableList fun tables => .bind h.condition? fun _ => .bind h.orderBy? fun _ => ?_
  refine .bind h.limit? fun _ => .bind h.returning? fun _ => .pure fun r => ?_
  cases targets with
  | nil =>
    have himplied := @named_impliedTargets "delete" tables r
    simp [-Part.named_list]
    grind
  | cons t ts => simp

omit h in
theorem drop_adds : Adds exact (fun _ => False) drop fun x => Part.Named "drop" (parts x) := by
  refine setVerb_adds "drop" (.quiet (expectKeyword_quiet _) fun _ => .quiet kind_quiet fun k => ?_)
  split
  · exact .unexpected
  · refine .quiet advance_quiet fun _ => .quiet (eatKeyword_quiet _) fun _ => .ite
      (.quiet (expectKeyword_quiet _) fun _ => ?names) ?names
    exact .bind (commaSeparated_notes tableName_notes) fun _ => .pure (by simp)

omit h in
theorem showTarget_adds : Adds exact (fun _ => False) showTarget fun _ _ => False := by
  refine setVerb_adds "show" (.quiet (expectKeyword_quiet _) fun _ => .quiet kind_quiet fun k => ?_)
  split
  · exact .quiet advance_quiet fun _ => .pure fun _ => .rfl
  · exact .quiet advance_quiet fun _ => .pure fun _ => .rfl
  · exact .unexpected

omit h in
theorem Noted.create (h : i.Noted False) :
    Adds False (fun _ => False) i.create fun x => Part.Named "create" (parts x) := by
  refine setVerb_adds "create" (.quiet (expectKeyword_quiet _) fun _ =>
    .quiet (eatKeyword_quiet _) fun _ => ?_)
  refine .ite (.quiet (expectKeyword_quiet _) fun _ => ?object) ?object
  have htemporary : Quiet (do return (← isAtKeyword .TEMPORARY) || (← isAtWord "temp")) :=
    .bind (isAtKeyword_quiet _) fun _ => .bind (isAtWord_quiet _) fun _ => .pure _
  refine .quiet (takeIf_quiet htemporary) fun _ => .quiet kind_quiet fun k => ?_
  split
  · exact .unexpected
  · refine .quiet advance_quiet fun _ => .ite (h.createTable _) (.ite (h.createView _ rfl) ?_)
    exact createDatabase_notes _ rfl

end Statements

end Nested

end SqlWeave.Parser
