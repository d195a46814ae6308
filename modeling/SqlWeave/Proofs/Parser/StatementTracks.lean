import SqlWeave.Proofs.Parser.QueryTracks

/-! Following the readers of statements. A statement sets the verbs it notes under, so it does not
matter which ones stood before it. -/

namespace SqlWeave.Parser

variable {W : Overlay} {i j : Nested}

theorem ifNotExists_tracks : Tracks W ifNotExists ifNotExists := by
  refine .bind (eatKeyword_tracks (by decide)) fun _ => .ite ?_ (.pure _)
  exact .bind (expectKeyword_tracks _) fun _ => .bind (expectKeyword_tracks _) fun _ => .pure _

theorem insertWords_tracks : Tracks W insertWords insertWords := by
  refine .bind (eatWord_tracks _) fun _ => .ite ?_ ?_
  · exact .bind (eatKeyword_tracks (by decide)) fun _ => .pure _
  · exact .bind (eatKeyword_tracks (by decide)) fun _ => .ite (.pure _) (.pure _)

theorem targetTail_tracks {n m : Nat} (hnm : n ≤ m) : Tracks W (targetTail n) (targetTail m) := by
  induction n generalizing m with
  | zero => exact .outOfRounds
  | succ n ih =>
    obtain ⟨m, rfl⟩ : ∃ k, m = k + 1 := ⟨m - 1, by omega⟩
    refine .bind (eat_tracks rfl) fun _ =>
      .ite (.bind (eat_tracks rfl) fun _ => .ite (.pure _) ?_) (.pure _)
    exact .bind identifier_tracks fun _ => .bind (ih (by omega)) fun _ => .pure _

theorem deleteTarget_tracks (hv : W.sameVerb) : Tracks W deleteTarget deleteTarget :=
  .bind identifier_tracks fun _ => .rounds fun _ _ hnm => .bind (targetTail_tracks hnm) fun _ =>
    tableOf_tracks hv _

theorem deleteTargets_tracks (hv : W.sameVerb) {n m : Nat} (hnm : n ≤ m) :
    Tracks W (deleteTargets n) (deleteTargets m) := by
  induction n generalizing m with
  | zero => exact .outOfRounds
  | succ n ih =>
    obtain ⟨m, rfl⟩ : ∃ k, m = k + 1 := ⟨m - 1, by omega⟩
    refine .bind (isAtKeyword_tracks (by decide)) fun _ => .ite (.pure _) ?_
    refine .bind (deleteTarget_tracks hv) fun _ => .bind (eat_tracks rfl) fun _ => .ite ?_ (.pure _)
    exact .bind (ih (by omega)) fun _ => .pure _

/-! ## Groups and options kept as written -/

theorem skipGroupWithin_tracks {n m : Nat} (hnm : n ≤ m) (depth : Nat) :
    Tracks W (skipGroupWithin n depth) (skipGroupWithin m depth) := by
  induction n generalizing m depth with
  | zero => exact .outOfRounds
  | succ n ih =>
    obtain ⟨m, rfl⟩ : ∃ k, m = k + 1 := ⟨m - 1, by omega⟩
    refine .look (fun k => ?_) .unexpected
    cases k
    case eof => exact .unexpected
    case symbol mark =>
      cases mark
      case rightParen =>
        exact .bind advance_inside fun _ => .ite (.pure _) (ih (by omega) _)
      all_goals exact .bind advance_inside fun _ => ih (by omega) _
    all_goals exact .bind advance_inside fun _ => ih (by omega) _

theorem closeGroup_tracks : Tracks W closeGroup closeGroup :=
  .rounds fun _ _ hnm => skipGroupWithin_tracks hnm 1

theorem skipGroup_tracks : Tracks W skipGroup skipGroup :=
  .bind (expect_tracks _) fun _ => closeGroup_tracks

theorem rawValue_fails : FailsAtEof rawValue := .test (isAt_asks _) rfl (.look unexpected_fails)

theorem rawValue_tracks : Tracks W rawValue rawValue := by
  refine .split (.whenInside (isAt_asks _) fun _ => .ite (written_inside closeGroup_tracks) ?_)
    (.failsAtEnd rawValue_fails)
  refine .lookInside fun _ => .ite .unexpected (written_inside ?_)
  exact .bind (isAt_tracks rfl) fun _ => .ite skipGroup_tracks (.pure ())

theorem optionKeyword?_tracks : Tracks W optionKeyword? optionKeyword? := by
  refine .look (fun k => ?_) ?_
  · cases k
    case identifier => exact .bind advance_inside fun _ => .pure _
    case keyword word =>
      cases word
      case DEFAULT => exact .bind advance_inside fun _ => .bind identifier_tracks fun _ => .pure _
      case COLLATE => exact .bind advance_inside fun _ => .pure _
      case ORDER =>
        exact .bind advance_inside fun _ => .bind (expectKeyword_tracks _) fun _ => .pure _
      case PARTITION =>
        exact .bind advance_inside fun _ => .bind (expectKeyword_tracks _) fun _ => .pure _
      case PRIMARY =>
        exact .bind advance_inside fun _ => .bind (expectKeyword_tracks _) fun _ => .pure _
      all_goals exact .pure _
    all_goals exact .pure _
  · rcases W.closes.eq with he | he | he | he <;> rw [he] <;> exact .pure _

theorem tableOptions_tracks {n m : Nat} (hnm : n ≤ m) :
    Tracks W (tableOptions n) (tableOptions m) := by
  induction n generalizing m with
  | zero => exact .outOfRounds
  | succ n ih =>
    obtain ⟨m, rfl⟩ : ∃ k, m = k + 1 := ⟨m - 1, by omega⟩
    refine .bind optionKeyword?_tracks fun keyword => ?_
    cases keyword with
    | none => exact .pure _
    | some keyword =>
      refine .bind (eat_tracks rfl) fun _ => .bind rawValue_tracks fun _ => ?_
      exact .bind (eat_tracks rfl) fun _ => .bind (ih (by omega)) fun _ => .pure _

theorem tableConstraint_tracks (name : String) :
    Tracks W (tableConstraint name) (tableConstraint name) :=
  .bind parenthesizedNames_tracks fun _ => .pure _

namespace Nested

/-! ## INSERT, UPDATE and DELETE -/

theorem addColumns_tracks (hv : W.sameVerb) (table : String) (columns : List String) :
    Tracks W (columns.forM fun column => addColumn (some table) column)
      (columns.forM fun column => addColumn (some table) column) := by
  induction columns with
  | nil => exact .pure _
  | cons column columns ih => exact .bind (addColumn_tracks hv _ _) fun _ => ih

theorem insertColumns_tracks (hv : W.sameVerb) (table : String) :
    Tracks W (insertColumns table) (insertColumns table) := by
  have hnames : Inside W
      (do
        let columns ← parenthesizedNames
        columns.forM fun column => addColumn (some table) column
        return some columns)
      (do
        let columns ← parenthesizedNames
        columns.forM fun column => addColumn (some table) column
        return some columns) :=
    .bind parenthesizedNames_tracks.on fun _ => .bind (addColumns_tracks hv _ _) fun _ => .pure _
  refine .split (.peekInside (fun _ => .whenInside (isAt_asks _) fun _ => .ite hnames (.pure _)) ?_)
    ?_
  · refine .whenInside (isAt_asks _) fun _ => ?_
    rcases W.closes.eq with he | he | he | he <;> rw [he] <;> exact .ite hnames (.pure _)
  · refine .peekAtEnd fun _ _ => .whenAtEnd (isAt_asks _) ?_
    rw [W.closes.symbol rfl]
    exact .pure _

section Statements

variable (h : i.Tracked j)
include h

theorem Tracked.assignment (hv : W.sameVerb) : Tracks W i.assignment j.assignment := by
  refine .bind identifier_tracks fun _ => .bind (eat_tracks rfl) fun _ => .ite
    (.bind identifier_tracks fun _ => .bind (.pure _) ?value) (.bind (.pure _) ?value)
  refine fun _ => .bind (addColumn_tracks hv _ _) fun _ => .bind (expect_tracks _) fun _ => ?_
  exact .bind (h.expr W hv 0) fun _ => .pure _

theorem Tracked.assignments (hv : W.sameVerb) : Tracks W i.assignments j.assignments :=
  commaSeparated_tracks (h.assignment hv)

theorem Tracked.row (hv : W.sameVerb) : Tracks W i.row j.row :=
  .bind (expect_tracks _) fun _ => .bind (h.exprsUpTo hv _) fun _ => .pure _

theorem Tracked.insertSource (hv : W.sameVerb) (hw : W.ending.kind ≠ .keyword .WHERE) :
    Tracks W i.insertSource j.insertSource := by
  refine .bind (eatKeyword_tracks (by decide)) fun _ => .ite ?_ ?_
  · exact .bind (commaSeparated_tracks (h.row hv)) fun _ => .pure _
  · refine .bind isAtQuery_tracks fun _ => .ite (.bind (h.queryClosed W hw) fun _ => .pure _) ?_
    refine .bind (eat_tracks rfl) fun _ => .ite ?_ .unexpected
    exact .bind h.parenthesizedQuery fun _ => .pure _

theorem Tracked.onDuplicate? (hv : W.sameVerb) : Tracks W i.onDuplicate? j.onDuplicate? := by
  refine .bind (eatKeyword_tracks (by decide)) fun _ => .ite ?_ (.pure _)
  refine .bind (expectWord_tracks _) fun _ => .bind (expectKeyword_tracks _) fun _ => ?_
  exact .bind (expectKeyword_tracks _) fun _ => .bind (h.assignments hv) fun _ => .pure _

theorem Tracked.insert (hw : W.ending.kind ≠ .keyword .WHERE) (verb : String) :
    Inside W (i.insert verb) (j.insert verb) := by
  have hv : W.agreeing.sameVerb := trivial
  refine setVerb_tracks verb (.bind advance_inside fun _ => .bind insertWords_tracks fun _ => ?_)
  refine .bind (tableName_tracks hv) fun _ => .bind (insertColumns_tracks hv _) fun _ => ?_
  refine .bind (h.insertSource hv hw) fun _ => .bind (h.onDuplicate? hv) fun _ => ?_
  exact .bind (h.returning? hv) fun _ => .pure _

theorem Tracked.update (hw : W.ending.kind ≠ .keyword .WHERE) (withs : Option (List (Cte Expr))) :
    Tracks W (i.update withs) (j.update withs) := by
  have hv : W.agreeing.sameVerb := trivial
  refine setVerb_tracks "update"
    (.bind (expectKeyword_tracks _) fun _ => .bind (h.tableList hv) fun _ => ?_)
  refine .bind (expectKeyword_tracks _) fun _ => .bind (h.assignments hv) fun _ => ?_
  refine .bind (h.tables? hv) fun _ => .bind (h.condition? hv hw) fun _ =>
    .bind (h.orderBy? hv) fun _ => ?_
  exact .bind (h.limit? hv) fun _ => .bind (h.returning? hv) fun _ => .pure _

theorem Tracked.delete (hw : W.ending.kind ≠ .keyword .WHERE) (withs : Option (List (Cte Expr))) :
    Tracks W (i.delete withs) (j.delete withs) := by
  have hv : W.agreeing.sameVerb := trivial
  refine setVerb_tracks "delete" (.bind (expectKeyword_tracks _) fun _ => .rounds fun _ _ hnm => ?_)
  refine .bind (deleteTargets_tracks hv hnm) fun _ => .bind (expectKeyword_tracks _) fun _ => ?_
  refine .bind (h.tableList hv) fun _ => .bind (h.condition? hv hw) fun _ =>
    .bind (h.orderBy? hv) fun _ => ?_
  exact .bind (h.limit? hv) fun _ => .bind (h.returning? hv) fun _ => .pure _

/-! ## CREATE, DROP and SHOW -/

theorem Tracked.columnConstraint (hv : W.sameVerb) (d : ColumnDefinition Expr) :
    Tracks W (i.columnConstraint d) (j.columnConstraint d) := by
  refine .look (fun k => ?_) ?_
  · cases k
    case identifier =>
      refine .ite (.bind advance_inside fun _ => .pure _) (.ite ?_ (.pure _))
      exact .bind advance_inside fun _ => .bind (h.primary W hv) fun _ => .pure _
    case keyword word =>
      cases word
      case NOT =>
        exact .bind advance_inside fun _ => .bind (expectKeyword_tracks _) fun _ => .pure _
      case NULL => exact .bind advance_inside fun _ => .pure _
      case DEFAULT => exact .bind advance_inside fun _ => .bind (h.expr W hv 7) fun _ => .pure _
      case PRIMARY =>
        exact .bind advance_inside fun _ => .bind (expectKeyword_tracks _) fun _ => .pure _
      case UNIQUE =>
        exact .bind advance_inside fun _ => .bind (eatKeyword_tracks (by decide)) fun _ => .pure _
      case COLLATE => exact .bind advance_inside fun _ => .bind identifier_tracks fun _ => .pure _
      all_goals exact .pure _
    all_goals exact .pure _
  · rcases W.closes.eq with he | he | he | he <;> rw [he] <;> exact .pure _

theorem Tracked.columnConstraints (hv : W.sameVerb) {n m : Nat} (hnm : n ≤ m)
    (d : ColumnDefinition Expr) :
    Tracks W (i.columnConstraints n d) (j.columnConstraints m d) := by
  induction n generalizing m d with
  | zero => exact .outOfRounds
  | succ n ih =>
    obtain ⟨m, rfl⟩ : ∃ k, m = k + 1 := ⟨m - 1, by omega⟩
    refine .bind (h.columnConstraint hv d) fun d' => ?_
    cases d' with
    | none => exact .pure _
    | some d' => exact ih (by omega) d'

theorem Tracked.columnDefinition (hv : W.sameVerb) :
    Tracks W i.columnDefinition j.columnDefinition :=
  .bind identifier_tracks fun _ => .bind (addColumn_tracks hv _ _) fun _ =>
    .bind (h.dataType W).tracks fun _ => .rounds fun _ _ hnm => h.columnConstraints hv hnm _

theorem Tracked.createDefinition (hv : W.sameVerb) :
    Tracks W i.createDefinition j.createDefinition := by
  refine .bind (eatWord_tracks _) fun _ =>
    .ite (.bind identifier_tracks fun _ => ?definition) ?definition
  refine .bind (eatKeyword_tracks (by decide)) fun _ => .ite ?_ ?_
  · exact .bind (expectKeyword_tracks _) fun _ => tableConstraint_tracks _
  · refine .bind (eatKeyword_tracks (by decide)) fun _ => .ite ?_ ?_
    · refine .bind (eatKeyword_tracks (by decide)) fun _ => .bind (isAt_tracks rfl) fun _ => ?_
      exact .ite (.bind identifier_tracks fun _ => tableConstraint_tracks _)
        (tableConstraint_tracks _)
    · exact .bind (h.columnDefinition hv) fun _ => .pure _

theorem Tracked.createDefinitions? (hv : W.sameVerb) :
    Tracks W i.createDefinitions? j.createDefinitions? := by
  refine .bind (eat_tracks rfl) fun _ => .ite ?_ (.pure _)
  exact .bind (commaSeparated_tracks (h.createDefinition hv)) fun _ =>
    .bind (expect_tracks _) fun _ => .pure _

theorem Tracked.createTable (hv : W.sameVerb) (hw : W.ending.kind ≠ .keyword .WHERE)
    (c : Create Expr) :
    Tracks W (i.createTable c) (j.createTable c) := by
  refine .bind ifNotExists_tracks fun _ => .bind (tableName_tracks hv) fun _ => ?_
  refine .bind (h.createDefinitions? hv) fun _ => .rounds fun _ _ hnm => ?_
  refine .bind (tableOptions_tracks hnm) fun _ => .bind (eatKeyword_tracks (by decide)) fun _ => ?_
  refine .ite (.bind (h.queryClosed W hw) fun _ => .bind (.pure _) fun _ => .pure _) ?_
  exact .bind (.pure _) fun _ => .pure _

theorem Tracked.createView (hv : W.sameVerb) (hw : W.ending.kind ≠ .keyword .WHERE)
    (c : Create Expr) :
    Tracks W (i.createView c) (j.createView c) := by
  refine .bind ifNotExists_tracks fun _ => .bind (tableName_tracks hv) fun _ => ?_
  exact .bind (expectKeyword_tracks _) fun _ => .bind (h.queryClosed W hw) fun _ => .pure _

omit h in
theorem createDatabase_tracks (c : Create Expr) : Tracks W (createDatabase c) (createDatabase c) :=
  .bind ifNotExists_tracks fun _ => .bind identifier_tracks fun _ => .pure _

theorem Tracked.create (hw : W.ending.kind ≠ .keyword .WHERE) : Tracks W i.create j.create := by
  have hv : W.agreeing.sameVerb := trivial
  have hasks : Asks (do return (← isAtKeyword .TEMPORARY) || (← isAtWord "temp"))
      fun k => k == .keyword .TEMPORARY || k.isWord "temp" := fun _ _ => rfl
  have htemp : (W.agreeing.ending.kind == .keyword .TEMPORARY ||
      W.agreeing.ending.kind.isWord "temp") =
      false := by
    rw [W.agreeing.closes.keyword (by decide), W.agreeing.closes.word]
    rfl
  refine setVerb_tracks "create" (.bind (expectKeyword_tracks _) fun _ => ?_)
  refine .bind (eatKeyword_tracks (by decide)) fun _ => .ite
    (.bind (expectKeyword_tracks _) fun _ => ?object) ?object
  refine .bind (takeIf_tracks hasks rfl htemp) fun _ => .look (fun k => ?_) .unexpected
  cases objectKeyword? k with
  | none => exact .unexpected
  | some keyword =>
    refine .bind advance_inside fun _ => .ite (h.createTable hv hw _) ?_
    exact .ite (h.createView hv hw _) (createDatabase_tracks _)

omit h in
theorem drop_tracks : Tracks W drop drop := by
  refine setVerb_tracks "drop" (.bind (expectKeyword_tracks _) fun _ =>
    .look (fun k => ?_) .unexpected)
  cases objectKeyword? k with
  | none => exact .unexpected
  | some keyword =>
    refine .bind advance_inside fun _ => .bind (eatKeyword_tracks (by decide)) fun _ => .ite
      (.bind (expectKeyword_tracks _) fun _ => ?names) ?names
    exact .bind (commaSeparated_tracks (tableName_tracks trivial)) fun _ => .pure _

omit h in
theorem showTarget_tracks : Tracks W showTarget showTarget := by
  refine setVerb_tracks "show" (.bind (expectKeyword_tracks _) fun _ =>
    .look (fun k => ?_) .unexpected)
  cases k
  case identifier => exact .bind advance_inside fun _ => .pure _
  case keyword => exact .bind advance_inside fun _ => .pure _
  all_goals exact .unexpected

/-! ## Whole statements -/

theorem Tracked.withStatement (hw : W.ending.kind ≠ .keyword .WHERE) :
    Tracks W i.withStatement j.withStatement := by
  intro ts s t _ hl x s' hr
  obtain ⟨_, u, hu, hr⟩ := Returns.bind hr
  cases hu
  obtain ⟨withs, u, hwith, hr⟩ := Returns.bind hr
  obtain ⟨v, us, hwith', hlu, hsu⟩ := h.withClause ts s t trivial hl withs u hwith
  obtain ⟨k, u, hk, hr⟩ := Returns.bind hr
  obtain ⟨rfl, rfl⟩ := kind_returns hk
  cases us with
  | nil =>
    rw [hlu.kind_end.1] at hr
    exact absurd hr not_returns_unexpected
  | cons k us =>
    have hright {p : TokenKind → Parser (Statement Expr)} {t' : ParserState}
        (hp : Returns (p u.current.kind) W.right v x t') : Returns (kind >>= p) W.right v x t' :=
      returns_kind.andThen (hlu.kind_eq.2 ▸ hp)
    split at hr
    · rename_i hkind
      obtain ⟨_, u', hu', hr⟩ := Returns.bind hr
      obtain rfl := rewind_returns hu'
      have hquery : Tracks W (do return Statement.select (← i.query))
          (do return Statement.select (← j.query)) :=
        .bind (h.queryClosed W hw) fun _ => .pure _
      obtain ⟨t', ts', hq, hl', hs⟩ := hquery ts _ _ trivial (hl.rewind hlu) x s' hr
      refine ⟨t', ts', Returns.andThen (x := t) rfl (hwith'.andThen (hright ?_)), hl', hs⟩
      rw [hkind]
      exact (returns_rewind t).andThen hq
    · rename_i hkind
      have hupdate : Tracks W (do return Statement.update (← i.update (some withs)))
          (do return Statement.update (← j.update (some withs))) :=
        .bind (h.update hw _) fun _ => .pure _
      obtain ⟨t', ts', hq, hl', hs⟩ := hupdate _ _ _ trivial hlu x s' hr
      refine ⟨t', ts', Returns.andThen (x := t) rfl (hwith'.andThen (hright ?_)), hl', hs.trans hsu⟩
      rw [hkind]
      exact hq
    · rename_i hkind
      have hdelete : Tracks W (do return Statement.delete (← i.delete (some withs)))
          (do return Statement.delete (← j.delete (some withs))) :=
        .bind (h.delete hw _) fun _ => .pure _
      obtain ⟨t', ts', hq, hl', hs⟩ := hdelete _ _ _ trivial hlu x s' hr
      refine ⟨t', ts', Returns.andThen (x := t) rfl (hwith'.andThen (hright ?_)), hl', hs.trans hsu⟩
      rw [hkind]
      exact hq
    · exact absurd hr not_returns_unexpected

theorem Tracked.statement (hw : W.ending.kind ≠ .keyword .WHERE) :
    Tracks W i.statement j.statement := by
  refine .look (fun k => ?_) .unexpected
  cases k
  case keyword word =>
    cases word
    case SELECT => exact .bind (h.queryClosed W hw).on fun _ => .pure _
    case WITH => exact (h.withStatement hw).on
    case INSERT => exact .bind (h.insert hw _) fun _ => .pure _
    case REPLACE => exact .bind (h.insert hw _) fun _ => .pure _
    case UPDATE => exact .bind (h.update hw _).on fun _ => .pure _
    case DELETE => exact .bind (h.delete hw _).on fun _ => .pure _
    case CREATE => exact .bind (h.create hw).on fun _ => .pure _
    case DROP => exact .bind drop_tracks.on fun _ => .pure _
    case SHOW => exact .bind showTarget_tracks.on fun _ => .pure _
    all_goals exact .unexpected
  all_goals exact .unexpected

end Statements

end Nested

end SqlWeave.Parser
