import SqlWeave.Proofs.Parser.Tracks

/-! Following the readers of clauses, types and expressions. They are followed for readers of what
nests that are followed themselves. -/

namespace SqlWeave.Parser

/-- Of what nests, all that is read on the left is read on the right. A query by itself may end
where a WHERE comes on the right; that is the one clause it would go on with. -/
structure Nested.Tracked (i j : Nested) : Prop where
  expr : ∀ W : Overlay, W.sameVerb → ∀ least, Tracks W (i.expr least) (j.expr least)
  operand : ∀ W : Overlay, W.sameVerb → Tracks W i.operand j.operand
  primary : ∀ W : Overlay, W.sameVerb → Tracks W i.primary j.primary
  dataType : ∀ W : Overlay, TracksTaking W i.dataType j.dataType
  query : ∀ W : Overlay, TracksOrEnds W i.query j.query
  queryClosed : ∀ W : Overlay, W.ending.kind ≠ .keyword .WHERE → Tracks W i.query j.query
  expr_fails : ∀ least, FailsAtEof (i.expr least)
  operand_fails : FailsAtEof i.operand
  primary_fails : FailsAtEof i.primary
  dataType_fails : FailsAtEof i.dataType
  query_fails : FailsAtEof i.query

variable {W : Overlay} {i j : Nested}

theorem alias?_tracks : Tracks W alias? alias? := by
  refine .bind (eatKeyword_tracks (by decide)) fun _ => .ite ?_ ?_
  · refine .split (.lookInside fun k => ?_) ?_
    · cases k
      case string => exact .bind advance_inside fun _ => .pure _
      case doubleQuoted => exact .bind advance_inside fun _ => .pure _
      all_goals exact .bind identifier_tracks.on fun _ => .pure _
    · exact .failsAtEnd (.look identifier_fails.bind)
  · refine .look (fun k => ?_) ?_
    · cases k
      case identifier =>
        exact .ite (.bind advance_inside fun _ => .pure _) (.pure _)
      case quotedIdentifier => exact .bind advance_inside fun _ => .pure _
      case doubleQuoted => exact .bind advance_inside fun _ => .pure _
      all_goals exact .pure _
    · rcases W.closes.eq with he | he | he | he <;> rw [he] <;> exact .pure _

namespace Nested

theorem direction?_tracks : Tracks W direction? direction? := by
  refine .bind (eatKeyword_tracks (by decide)) fun _ => .ite (.pure _) ?_
  exact .bind (eatKeyword_tracks (by decide)) fun _ => .ite (.pure _) (.pure _)

theorem nulls?_tracks : Tracks W nulls? nulls? := by
  refine .bind (eatKeyword_tracks (by decide)) fun _ => .ite ?_ (.pure _)
  refine .when (isAtAnyWord_asks _) (any_isWord_eof _) (W.closes.anyWord _) ?_ .unexpected
  exact .textInside fun _ => .bind advance_inside fun _ => .pure _

theorem frame?_tracks : TracksOrEnds W frame? frame? := by
  refine .when (isAtAnyWord_asks _) (any_isWord_eof _) ?_ (.pure _) (.pure _)
  exact textToParenthesis_tracks.bind (fun _ => .of (.pure _)) fun _ => .pure _

section Clauses

variable (h : i.Tracked j)
include h

theorem Tracked.parenthesizedQuery : Tracks W i.parenthesizedQuery j.parenthesizedQuery :=
  (h.query W).closed (fun q => .bind (expect_tracks _) fun _ => .pure q) fun _ =>
    (expect_fails _).bind

theorem Tracked.exprsUpTo_fails (closing : Symbol) : FailsAtEof (i.exprsUpTo closing) :=
  .test (isAt_asks closing) rfl (h.expr_fails 0).bind.bind

variable (hv : W.sameVerb)
include hv

theorem Tracked.exprs : Tracks W i.exprs j.exprs := commaSeparated_tracks (h.expr W hv 0)

theorem Tracked.exprsUpTo (closing : Symbol) :
    Tracks W (i.exprsUpTo closing) (j.exprsUpTo closing) := by
  refine .split (.whenInside (isAt_asks closing) fun _ => ?_) ?_
  · refine .ite (.bind (.pure _) ?go) (.bind (h.exprs hv).on ?go)
    exact fun _ => .bind (expect_tracks closing) fun _ => .pure _
  · exact .failsAtEnd (h.exprsUpTo_fails closing)

theorem Tracked.orderItem : Tracks W i.orderItem j.orderItem :=
  .bind (h.expr W hv 0) fun _ => .bind direction?_tracks fun _ =>
    .bind nulls?_tracks fun _ => .pure _

theorem Tracked.orderBy? : Tracks W i.orderBy? j.orderBy? := by
  refine .bind (eatKeyword_tracks (by decide)) fun _ => .ite ?_ (.pure _)
  exact .bind (expectKeyword_tracks _) fun _ =>
    .bind (commaSeparated_tracks (h.orderItem hv)) fun _ =>
    .pure _

theorem Tracked.partitionBy? : Tracks W i.partitionBy? j.partitionBy? := by
  refine .bind (eatKeyword_tracks (by decide)) fun _ => .ite ?_ (.pure _)
  exact .bind (expectKeyword_tracks _) fun _ => .bind (h.exprs hv) fun _ => .pure _

theorem Tracked.windowSpec : Tracks W i.windowSpec j.windowSpec := by
  refine .look (fun k => ?_) (.failsAtEnd (expect_fails _).bind)
  cases k
  case identifier => exact .bind advance_inside fun _ => .pure _
  all_goals
    refine .bind (expect_tracks _).on fun _ => .bind (h.partitionBy? hv) fun _ => ?_
    refine .bind (h.orderBy? hv) fun _ => frame?_tracks.closed (fun _ => ?_) fun _ =>
      (expect_fails _).bind
    exact .bind (expect_tracks _) fun _ => .pure _

theorem Tracked.over? : Tracks W i.over? j.over? := by
  refine .bind (eatKeyword_tracks (by decide)) fun _ => .ite ?_ (.pure _)
  exact .bind (h.windowSpec hv) fun _ => .pure _

end Clauses

end Nested

/-! ## Types -/

theorem typeName_returns {src : Source} {s t : ParserState} {name : String}
    (h : Returns typeName src s name t) : t = s.advance := by
  obtain ⟨k, u, hk, h⟩ := Returns.bind h
  obtain ⟨_, rfl⟩ := kind_returns hk
  cases k
  case identifier => cases h; rfl
  case keyword => cases h; rfl
  case quotedIdentifier => cases h; rfl
  all_goals exact absurd h not_returns_unexpected

theorem typeName_fails : FailsAtEof typeName := .look unexpected_fails

theorem typeName_tracks : TracksTaking W typeName typeName := by
  refine TracksOn.taking ?_ typeName_fails fun _ _ _ _ => typeName_returns
  refine .split (.lookInside fun k => ?_) (.failsAtEnd typeName_fails)
  cases k
  case identifier => exact .textInside fun _ => .bind advance_inside fun _ => .pure _
  case keyword => exact .textInside fun _ => .bind advance_inside fun _ => .pure _
  case quotedIdentifier => exact .bind advance_inside fun _ => .pure _
  all_goals exact .unexpected

theorem secondWord_tracks (name : String) (types : List (String × String)) :
    Tracks W (secondWord name types) (secondWord name types) := by
  induction types generalizing name with
  | nil => exact .pure name
  | cons type types ih =>
    refine .when (isAtWord_asks type.2) rfl (W.closes.word _) ?_ ?_
    · exact .ite (.textInside fun _ => .bind advance_inside fun _ => ih _) (ih _).on
    · rw [Bool.and_false]
      exact ih name

theorem typeSize_tracks (text : String) : InsideOrEnds W (typeSize text) (typeSize text) := by
  refine advance_inside.bindOrEnds fun _ => (eat_tracks rfl).bindOrEnds fun v => ?_
  cases v with
  | false => exact .of (.pure _)
  | true =>
    refine .split (.of (.lookInside fun k => ?_)) ?_
    · cases k <;> exact .pureBind (.bind advance_inside fun _ => .pure _)
    · exact .look (.bind (.pure _) fun _ => .bind advance_stays fun _ => .pure _)

namespace Nested

theorem bracketPair_tracks : Tracks W bracketPair bracketPair := by
  refine .split (.whenInside (isAt_asks _) fun v => .peekInside (fun k => ?_) ?_)
    (.whenAtEnd (isAt_asks _) (.peekAtEnd fun _ _ => ?_))
  · exact .ite (.bind advance_inside fun _ => .pure _) (.pure _)
  · rw [W.closes.symbol rfl]
    exact .ite (.bind advance_inside fun _ => .pure _) (.pure _)
  · rw [W.closes.symbol rfl]
    exact .pure _

theorem bracketPair_yes (src : Source) (s t : ParserState) (h : Returns bracketPair src s true t) :
    t.current.kind ≠ .eof := by
  obtain ⟨b, u, hb, h⟩ := Returns.bind h
  obtain ⟨rfl, rfl⟩ := (isAt_asks _).returns hb
  obtain ⟨k, u, hk, h⟩ := Returns.bind h
  obtain ⟨rfl, rfl⟩ := nextKind_returns hk
  split at h
  · rename_i hnext
    obtain ⟨_, u, hu, h⟩ := Returns.bind h
    obtain rfl := advance_returns hu
    obtain ⟨_, rfl⟩ := Returns.pure h
    cases hrest : s.rest with
    | nil =>
      rw [hrest] at hnext
      simp at hnext
    | cons k ks =>
      rw [hrest] at hnext
      simp only [List.head?_cons, Option.map_some, Option.getD_some, Bool.and_eq_true, beq_iff_eq]
        at hnext
      simp [ParserState.advance, hrest, hnext.2]
  · obtain ⟨hv, _⟩ := Returns.pure h
    cases hv

theorem brackets_tracks {n m : Nat} (hnm : n ≤ m) :
    Tracks W (manyWithin bracketPair advance n) (manyWithin bracketPair advance m) := by
  induction n generalizing m with
  | zero => exact .outOfRounds
  | succ n ih =>
    obtain ⟨m, rfl⟩ : ∃ k, m = k + 1 := ⟨m - 1, by omega⟩
    refine .bindYes bracketPair_tracks bracketPair_yes ?_ (.pure _)
    exact .bind advance_inside fun _ => .bind (ih (by omega)) fun _ => .pure _

theorem suffixWord_tracks : Tracks W suffixWord suffixWord := by
  refine .when (isAtAnyWord_asks _) (any_isWord_eof _) (W.closes.anyWord _) ?_ (.pure _)
  exact .textInside fun _ => .bind advance_inside fun _ => .pure _

theorem suffixWords_tracks {n m : Nat} (hnm : n ≤ m) :
    Tracks W (suffixWords n) (suffixWords m) := by
  induction n generalizing m with
  | zero => exact .outOfRounds
  | succ n ih =>
    obtain ⟨m, rfl⟩ : ∃ k, m = k + 1 := ⟨m - 1, by omega⟩
    refine .bind suffixWord_tracks fun word => ?_
    cases word with
    | none => exact .pure _
    | some word => exact .bind (ih (by omega)) fun _ => .pure _

section Types

variable (h : i.Tracked j)
include h

theorem Tracked.typeArgument_fails : FailsAtEof i.typeArgument := by
  refine .look ?_
  intro src s x t hs hr
  obtain ⟨_, u, hk, hr⟩ := Returns.bind hr
  obtain ⟨_, rfl⟩ := nextKind_returns hk
  obtain ⟨_, u, hk, hr⟩ := Returns.bind hr
  obtain ⟨rfl, rfl⟩ := kind_returns hk
  rw [hs] at hr
  exact h.dataType_fails.bind _ _ _ _ hs hr

/-- A field name at the very end of the left text is read as a type there, and might be followed by
its type on the right. -/
theorem Tracked.typeArgument : TracksOrEnds W i.typeArgument j.typeArgument := by
  refine .split (.lookInside fun k => .peekInside (fun k' => .ite ?_ (.lookInside fun k => ?_)) ?_)
    h.typeArgument_fails.stays
  · exact .bind identifier_tracks.on fun _ => .bind (h.dataType W).tracks fun _ => .pure _
  · cases k
    case string => exact .bind advance_inside fun _ => .pure _
    all_goals exact .bind (h.dataType W).tracks fun _ => .pure _
  · intro k₁ s t hl x s' hr
    rw [show isTypeWord .eof = false from rfl, Bool.and_false] at hr
    obtain ⟨k₂, u, hk, hr⟩ := Returns.bind hr
    obtain ⟨_, rfl⟩ := kind_returns hk
    cases k₂
    case string =>
      cases hr
      exact hl.advance.of_placed.atEof
    all_goals
      obtain ⟨type, u, htype, hr⟩ := Returns.bind hr
      obtain ⟨_, rfl⟩ := Returns.pure hr
      exact (h.dataType W).ends hl htype

theorem Tracked.typeArguments (type : DataType Expr) :
    Tracks W (i.typeArguments type) (j.typeArguments type) := by
  refine .bind (eat_tracks rfl) fun _ => .ite (.look (fun k => ?_) ?_) (.pure _)
  · have hclose (t : DataType Expr) : Tracks W
        (do expect .rightParen; return t) (do expect .rightParen; return t) :=
      .bind (expect_tracks _) fun _ => .pure _
    cases k
    case number =>
      refine (typeSize_tracks _).closed (fun _ => ?_) fun _ => .pureBind (expect_fails _).bind
      exact .pureBind (hclose _)
    all_goals
      refine TracksOn.on ?_
      refine (commaSeparated_orEnds h.typeArgument).closed (fun _ => ?_) fun _ =>
        .pureBind (expect_fails _).bind
      exact .pureBind (hclose _)
  · exact .failsAtEnd h.typeArgument_fails.bind.bind

theorem Tracked.readDataType : TracksTaking W i.readDataType j.readDataType := by
  refine typeName_tracks.bind fun _ => .bind (secondWord_tracks _ _) fun _ => ?_
  refine .bind (h.typeArguments _) fun _ =>
    .bind (.rounds fun _ _ hnm => brackets_tracks hnm) fun _ => ?_
  exact .rounds fun _ _ hnm => .bind (suffixWords_tracks hnm) fun _ => .pure _

end Types

theorem readDataType_fails : FailsAtEof i.readDataType := typeName_fails.bind

end Nested

/-! ## Operands -/

theorem columnOf_tracks (hv : W.sameVerb) (qualifiers : List String) (column : Option String) :
    Tracks W (columnOf qualifiers column) (columnOf qualifiers column) :=
  .bind (addColumn_tracks hv _ _) fun _ => .pure _

theorem pathTail_tracks {n m : Nat} (hnm : n ≤ m) : Tracks W (pathTail n) (pathTail m) := by
  induction n generalizing m with
  | zero => exact .outOfRounds
  | succ n ih =>
    obtain ⟨m, rfl⟩ : ∃ k, m = k + 1 := ⟨m - 1, by omega⟩
    refine .bind (eat_tracks rfl) fun _ =>
      .ite (.bind (eat_tracks rfl) fun _ => .ite (.pure _) ?_) (.pure _)
    exact .bind identifier_tracks fun _ => .bind (ih (by omega)) fun _ => .pure _

namespace Nested

theorem searchMode?_tracks : TracksOrEnds W searchMode? searchMode? := by
  have hasks : Asks (do return (← isAtKeyword .IN) || (← isAtKeyword .WITH))
      fun k => k == .keyword .IN || k == .keyword .WITH := fun _ _ => rfl
  have hmode : searchMode? = ((do return (← isAtKeyword .IN) || (← isAtKeyword .WITH)) >>= fun v =>
      if v then return some (Text.lower (← textToParenthesis)) else return none) := rfl
  rw [hmode]
  refine .when hasks rfl ?_ (.pure none) (.pure none)
  exact textToParenthesis_tracks.bind (fun _ => .of (.pure _)) fun _ => .pure _

section Operands

variable (h : i.Tracked j) (hv : W.sameVerb)
include h hv

theorem Tracked.separator? : Tracks W i.separator? j.separator? := by
  refine .bind (eatWord_tracks _) fun _ => .ite ?_ (.pure _)
  exact .bind (h.primary W hv) fun _ => .pure _

theorem Tracked.aggregateCall (name : String) :
    Tracks W (i.aggregateCall name) (j.aggregateCall name) := by
  refine .bind (eatKeyword_tracks (by decide)) fun _ => .bind (h.exprs hv) fun _ => ?_
  refine .bind (h.orderBy? hv) fun _ => .bind (h.separator? hv) fun _ => ?_
  exact .bind (expect_tracks _) fun _ => .bind (h.over? hv) fun _ => .pure _

theorem Tracked.plainCall (name : String) : Tracks W (i.plainCall name) (j.plainCall name) := by
  refine .bind (h.exprsUpTo hv _) fun args => .bind (h.over? hv) fun window => ?_
  split
  · exact .ite (.pure _) (.pure _)
  · exact .ite (.pure _) (.pure _)
  · exact .pure _

theorem Tracked.callOf (name : String) : Tracks W (i.callOf name) (j.callOf name) := by
  refine .bind (expect_tracks _) fun _ => .split (.whenInside (isAt_asks _) fun _ => ?_) ?_
  · exact .ite (h.aggregateCall hv name).on (h.plainCall hv name).on
  · -- an argument or the closing parenthesis has to follow
    refine .failsAtEnd (.test (isAt_asks _) rfl ?_)
    split
    · exact takeIf_fails (isAtKeyword_asks _) rfl (h.expr_fails 0).bind.bind
    · exact (h.exprsUpTo_fails _).bind

theorem Tracked.mapLiteral (keyword : String) :
    Tracks W (i.mapLiteral keyword) (j.mapLiteral keyword) := by
  refine .state fun _ _ => .bind (expect_tracks _) fun _ => .bind (h.exprsUpTo hv _) fun _ => ?_
  exact .ite (.pure _) (.fails fun _ _ _ _ => not_returns_throw)

theorem Tracked.path (first : String) : Tracks W (i.path first) (j.path first) := by
  refine .rounds fun _ _ hnm => .bind (pathTail_tracks hnm) fun _ =>
    .ite (columnOf_tracks hv _ _) ?_
  refine .bind (isAt_tracks rfl) fun _ => .ite (h.callOf hv _) (columnOf_tracks hv _ _)

theorem Tracked.nameExpr : Tracks W i.nameExpr j.nameExpr := by
  refine .look (fun _ => .bind identifier_tracks.on fun _ => .ite (h.path hv _) ?_)
    (.failsAtEnd identifier_fails.bind)
  refine .bind (isAt_tracks rfl) fun _ => .ite (h.callOf hv _) (.ite (.pure _) ?_)
  refine .when (isAt_asks _) rfl (W.closes.symbol rfl) ?_ (h.path hv _)
  refine .ite (.ite ?_ (.ite (h.mapLiteral hv _).on (h.path hv _).on)) (h.path hv _).on
  exact .bind advance_inside fun _ => .bind (h.exprsUpTo hv _) fun _ => .pure _

theorem Tracked.parenthesizedExpr : Tracks W i.parenthesizedExpr j.parenthesizedExpr := by
  refine .bind isAtQuery_tracks fun _ => .ite (.bind h.parenthesizedQuery fun _ => .pure _) ?_
  refine .bind (h.expr W hv 0) fun _ =>
    .bind (many_tracks (eat_tracks rfl) (h.expr W hv 0)) fun _ => ?_
  exact .bind (expect_tracks _) fun _ => .ite (.pure _) (.pure _)

theorem Tracked.caseArm : Tracks W i.caseArm j.caseArm :=
  .bind (h.expr W hv 0) fun _ => .bind (expectKeyword_tracks _) fun _ =>
    .bind (h.expr W hv 0) fun _ =>
    .pure _

theorem Tracked.caseExpr : Tracks W i.caseExpr j.caseExpr := by
  refine .bind (isAtKeyword_tracks (by decide)) fun _ => .ite (.bind (.pure _) ?arms)
    (.bind (h.expr W hv 0) fun _ => .bind (.pure _) ?arms)
  intro subject
  refine .bind (many_tracks (eatKeyword_tracks (by decide)) (h.caseArm hv)) fun _ =>
    .ite .unexpected ?_
  refine .bind (eatKeyword_tracks (by decide)) fun _ => .ite
    (.bind (h.expr W hv 0) fun _ => .bind (.pure _) ?otherwise) (.bind (.pure _) ?otherwise)
  exact fun _ => .bind (expectKeyword_tracks _) fun _ => .pure _

theorem Tracked.castExpr : Tracks W i.castExpr j.castExpr := by
  refine .bind (expect_tracks _) fun _ => .bind (h.expr W hv 0) fun _ => ?_
  refine .bind (expectKeyword_tracks _) fun _ => .bind (h.dataType W).tracks fun _ => ?_
  exact .bind (expect_tracks _) fun _ => .pure _

omit hv in
theorem Tracked.existsExpr : Tracks W i.existsExpr j.existsExpr :=
  .bind (expect_tracks _) fun _ => .bind h.parenthesizedQuery fun _ => .pure _

theorem Tracked.intervalExpr : Tracks W i.intervalExpr j.intervalExpr := by
  refine .bind (h.operand W hv) fun _ => .look (fun k => ?_) ?_
  · cases k
    case identifier => exact .bind advance_inside fun _ => .pure _
    all_goals exact .pure _
  · rcases W.closes.eq with he | he | he | he <;> rw [he] <;> exact .pure _

theorem Tracked.extractExpr : Tracks W i.extractExpr j.extractExpr := by
  refine .bind (expect_tracks _) fun _ => .bind identifier_tracks fun _ => ?_
  refine .bind (expectKeyword_tracks _) fun _ => .bind (h.expr W hv 0) fun _ => ?_
  exact .bind (expect_tracks _) fun _ => .pure _

theorem Tracked.matchColumn : Tracks W i.matchColumn j.matchColumn := by
  refine .bind (h.nameExpr hv) fun e => ?_
  cases e.node <;> first | exact .pure _ | exact .unexpected

theorem Tracked.fullTextSearch : Tracks W i.fullTextSearch j.fullTextSearch := by
  refine .bind (expect_tracks _) fun _ =>
    .bind (commaSeparated_tracks (h.matchColumn hv)) fun _ => ?_
  refine .bind (expect_tracks _) fun _ => .bind (expectKeyword_tracks _) fun _ => ?_
  refine .bind (expect_tracks _) fun _ => .bind (h.operand W hv) fun _ => ?_
  refine searchMode?_tracks.closed (fun _ => ?_) fun _ => (expect_fails _).bind
  exact .bind (expect_tracks _) fun _ => .pure _

theorem Tracked.structField : Tracks W i.structField j.structField :=
  .bind (h.primary W hv) fun _ => .bind (expect_tracks _) fun _ =>
    .bind (h.expr W hv 0) fun _ => .pure _

theorem Tracked.structFields {n m : Nat} (hnm : n ≤ m) :
    Tracks W (i.structFields n) (j.structFields m) := by
  induction n generalizing m with
  | zero => exact .outOfRounds
  | succ n ih =>
    obtain ⟨m, rfl⟩ : ∃ k, m = k + 1 := ⟨m - 1, by omega⟩
    refine .bind (isAt_tracks rfl) fun _ => .ite (.pure _) (.bind (h.structField hv) fun _ => ?_)
    exact .bind (eat_tracks rfl) fun _ => .ite (.bind (ih (by omega)) fun _ => .pure _) (.pure _)

theorem Tracked.structLiteral : Tracks W i.structLiteral j.structLiteral :=
  .rounds fun _ _ hnm => .bind (h.structFields hv hnm) fun _ =>
    .bind (expect_tracks _) fun _ => .pure _

theorem Tracked.wordExpr (word : Keyword) : Inside W (i.wordExpr word) (j.wordExpr word) := by
  have hcall : Inside W (do let name ← currentText; advance; i.callOf name)
      (do let name ← currentText; advance; j.callOf name) :=
    .textInside fun name => .bind advance_inside fun _ => h.callOf hv name
  refine .peekInside (fun _ => .ite hcall (.ite (h.nameExpr hv).on .unexpected)) ?_
  rw [W.closes.symbol rfl]
  exact .ite hcall (.ite (h.nameExpr hv).on .unexpected)

theorem Tracked.keywordExpr (word : Keyword) :
    Inside W (i.keywordExpr word) (j.keywordExpr word) := by
  cases word
  case NULL => exact .bind advance_inside fun _ => .pure _
  case TRUE => exact .bind advance_inside fun _ => .pure _
  case FALSE => exact .bind advance_inside fun _ => .pure _
  case DEFAULT => exact .bind advance_inside fun _ => .pure _
  case CASE => exact .bind advance_inside fun _ => h.caseExpr hv
  case CAST => exact .bind advance_inside fun _ => h.castExpr hv
  case EXISTS => exact .bind advance_inside fun _ => h.existsExpr
  case INTERVAL => exact .bind advance_inside fun _ => h.intervalExpr hv
  case EXTRACT => exact .bind advance_inside fun _ => h.extractExpr hv
  case MATCH => exact .bind advance_inside fun _ => h.fullTextSearch hv
  all_goals exact h.wordExpr hv _

theorem Tracked.readPrimary : Tracks W i.readPrimary j.readPrimary := by
  refine .look (fun k => ?_) .unexpected
  cases k
  case keyword word => exact h.keywordExpr hv word
  case identifier => exact (h.nameExpr hv).on
  case quotedIdentifier => exact (h.nameExpr hv).on
  case fault => exact .unexpected
  case eof => exact .unexpected
  case symbol mark =>
    cases mark
    case question => exact .bind advance_inside fun _ => .pure _
    case star => exact .bind advance_inside fun _ => .pure _
    case leftParen => exact .bind advance_inside fun _ => h.parenthesizedExpr hv
    case leftBracket =>
      exact .bind advance_inside fun _ => .bind (h.exprsUpTo hv _) fun _ => .pure _
    case leftBrace => exact .bind advance_inside fun _ => h.structLiteral hv
    all_goals exact .unexpected
  all_goals exact .bind advance_inside fun _ => .pure _

end Operands

theorem readPrimary_fails : FailsAtEof i.readPrimary := .look unexpected_fails

/-! ## Operators -/

theorem operatorText?_tracks : Inside W operatorText? operatorText? := by
  refine .lookInside fun k => ?_
  split
  · exact .textInside fun _ => .pure _
  · exact .pure _

theorem operatorText?_still (src : Source) (s : ParserState) (operator : Option String)
    (t : ParserState) (h : Returns operatorText? src s operator t) : s = t := by
  obtain ⟨k, u, hk, h⟩ := Returns.bind h
  obtain ⟨_, rfl⟩ := kind_returns hk
  split at h
  · obtain ⟨_, u, hu, h⟩ := Returns.bind h
    obtain ⟨_, rfl⟩ := currentText_returns hu
    exact (Returns.pure h).2
  · exact (Returns.pure h).2

section Operators

variable (h : i.Tracked j) (hv : W.sameVerb)
include h hv

theorem Tracked.readOperand : Tracks W i.readOperand j.readOperand := by
  refine .look (fun k => ?_) (.failsAtEnd readPrimary_fails)
  cases Operator.leading? k with
  | none => exact (h.readPrimary hv).on
  | some leading => exact .bind advance_inside fun _ => .bind (h.expr W hv _) fun _ => .pure _

theorem Tracked.subscript : Tracks W i.subscript j.subscript :=
  .bind (h.expr W hv 0) fun _ => .bind (expect_tracks _) fun _ => .pure _

theorem Tracked.postfixForm (left : Expr) : Tracks W (i.postfixForm left) (j.postfixForm left) := by
  refine .bind (eat_tracks rfl) fun _ => .ite (.bind (h.dataType W).tracks fun _ => .pure _) ?_
  refine .bind (isAt_tracks rfl) fun _ => .ite ?_ ?_
  · exact .bind (many_tracks (eat_tracks rfl) (h.subscript hv)) fun _ => .pure _
  · exact .bind (expectKeyword_tracks _) fun _ => .bind identifier_tracks fun _ => .pure _

theorem Tracked.membership : Tracks W i.membership j.membership := by
  refine .bind (expect_tracks _) fun _ => .bind isAtQuery_tracks fun _ => .ite ?_ ?_
  · refine (h.query W).closed (fun _ => .bind (.pure _) ?close) fun _ =>
      .pureBind (expect_fails _).bind
    exact fun _ => .bind (expect_tracks _) fun _ => .pure _
  · refine .bind (h.exprs hv) fun _ => .bind (.pure _) fun _ => ?_
    exact .bind (expect_tracks _) fun _ => .pure _

theorem Tracked.range (power : Nat) : Tracks W (i.range power) (j.range power) :=
  .bind (h.expr W hv power) fun _ => .bind (expectKeyword_tracks _) fun _ =>
    .bind (h.expr W hv power) fun _ => .pure _

theorem Tracked.predicate (left : Expr) (negation : String) (power : Nat) :
    Tracks W (i.predicate left negation power) (j.predicate left negation power) := by
  refine .bind (eatKeyword_tracks (by decide)) fun _ =>
    .ite (.bind (h.membership hv) fun _ => .pure _) ?_
  refine .bind (eatKeyword_tracks (by decide)) fun _ =>
    .ite (.bind (h.range hv _) fun _ => .pure _) ?_
  refine .look (fun k => ?_) .unexpected
  cases Operator.text? k with
  | none => exact .unexpected
  | some operator => exact .bind advance_inside fun _ => .bind (h.expr W hv _) fun _ => .pure _

theorem Tracked.operatorForm (left : Expr) (power : Nat) :
    Inside W (i.operatorForm left power) (j.operatorForm left power) := by
  refine .bindStill operatorText?_tracks operatorText?_still fun operator => ?_
  cases operator with
  | none => exact .pure _
  | some operator => exact .bind advance_inside fun _ => .bind (h.expr W hv _) fun _ => .pure _

theorem Tracked.infixForm (left : Expr) (power : Nat) :
    Inside W (i.infixForm left power) (j.infixForm left power) := by
  refine .lookInside fun k => ?_
  cases k
  case keyword word =>
    cases word
    case IS =>
      refine .bind advance_inside fun _ => .bind (eatKeyword_tracks (by decide)) fun _ => ?_
      exact .bind (h.expr W hv _) fun _ => .pure _
    case NOT =>
      have hnot : Inside W (do advance; return some (← i.predicate left "NOT " power))
          (do advance; return some (← j.predicate left "NOT " power)) :=
        .bind advance_inside fun _ => .bind (h.predicate hv _ _ _) fun _ => .pure _
      refine .peekInside (fun _ => .ite hnot (.pure _)) ?_
      rcases W.closes.eq with he | he | he | he <;> rw [he] <;> exact .pure _
    case IN => exact .bind (h.predicate hv _ _ _).on fun _ => .pure _
    case BETWEEN => exact .bind (h.predicate hv _ _ _).on fun _ => .pure _
    all_goals exact h.operatorForm hv left power
  all_goals exact h.operatorForm hv left power

theorem Tracked.operators (least : Nat) {n m : Nat} (hnm : n ≤ m) (left : Expr) :
    Tracks W (i.operators least n left) (j.operators least m left) := by
  induction n generalizing m left with
  | zero => exact .outOfRounds
  | succ n ih =>
    obtain ⟨m, rfl⟩ : ∃ k, m = k + 1 := ⟨m - 1, by omega⟩
    refine .look (fun k => .ite (.ite (.pure _) ?_) ?_) ?_
    · exact .bind (h.postfixForm hv left).on fun e => ih (by omega) e
    · cases Operator.power? k with
      | none => exact .pure _
      | some power =>
        refine .ite (.pure _) (.bind (h.infixForm hv left _) fun e => ?_)
        cases e with
        | none => exact .pure _
        | some e => exact ih (by omega) e
    · rcases W.closes.eq with he | he | he | he <;> rw [he] <;> exact .pure _

theorem Tracked.readExpr (least : Nat) : Tracks W (i.readExpr least) (j.readExpr least) :=
  .bind (h.readOperand hv) fun left => .rounds fun _ _ hnm => h.operators hv least hnm left

end Operators

theorem readOperand_fails : FailsAtEof i.readOperand := .look readPrimary_fails

theorem readExpr_fails (least : Nat) : FailsAtEof (i.readExpr least) := readOperand_fails.bind

end Nested

end SqlWeave.Parser
