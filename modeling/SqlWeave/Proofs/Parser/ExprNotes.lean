import SqlWeave.Proofs.Parser.Notes

/-! What the readers of clauses, types and expressions note. -/

namespace SqlWeave.Parser

open HasParts (parts)

/-- All that nests notes what it names. -/
structure Nested.Noted (exact : Prop) (i : Nested) : Prop where
  expr : ∀ verb least, Notes exact verb (i.expr least)
  operand : ∀ verb, Notes exact verb i.operand
  primary : ∀ verb, Notes exact verb i.primary
  query : ∀ verb, Notes exact verb i.query
  dataType : ∀ verb, Notes exact verb i.dataType
  /-- A star without a qualifier is noted too, unless it is the sign. -/
  star : ∀ least src s e t, Returns (i.expr least) src s e t → s.current.kind ≠ .symbol .star →
    e.isStar = true → t.references.Has (.column (.of s.verb none "*"))

attribute [local simp] Node.parts Node.verb Expr.call Expr.list Expr.tuple Expr.unary Expr.binary
  Expr.column ColumnRef.ofText Expr.text Expr.string Expr.verbatim Expr.param Expr.number Expr.bool
    Expr.null

variable {exact : Prop} {verb : String} {i : Nested}

theorem alias?_quiet : Quiet alias? := by
  refine .bind (eatKeyword_quiet _) fun _ =>
    .ite (.bind kind_quiet fun k => ?_) (.bind kind_quiet fun k => ?_)
  · cases k
    case string => exact .bind advance_quiet fun _ => .pure _
    case doubleQuoted => exact .bind advance_quiet fun _ => .pure _
    all_goals exact .bind identifier_quiet fun _ => .pure _
  · cases k
    case identifier => exact .ite (.bind advance_quiet fun _ => .pure _) (.pure _)
    case quotedIdentifier => exact .bind advance_quiet fun _ => .pure _
    case doubleQuoted => exact .bind advance_quiet fun _ => .pure _
    all_goals exact .pure _

namespace Nested

theorem direction?_quiet : Quiet direction? :=
  .bind (eatKeyword_quiet _) fun _ => .ite (.pure _)
    (.bind (eatKeyword_quiet _) fun _ => .ite (.pure _) (.pure _))

theorem nulls?_quiet : Quiet nulls? := by
  refine .bind (eatKeyword_quiet _) fun _ =>
    .ite (.bind (isAtAnyWord_quiet _) fun _ => ?_) (.pure _)
  exact .ite (.bind currentText_quiet fun _ => .bind advance_quiet fun _ => .pure _) .unexpected

theorem frame?_quiet : Quiet frame? :=
  .bind (isAtAnyWord_quiet _) fun _ =>
    .ite (.bind textToParenthesis_quiet fun _ => .pure _) (.pure _)

section Clauses

variable (h : i.Noted exact)
include h

theorem Noted.parenthesizedQuery : Notes exact verb i.parenthesizedQuery :=
  .bind (h.query verb) fun _ => .quiet (expect_quiet _) fun _ => .pure (by simp)

theorem Noted.exprs : Notes exact verb i.exprs :=
  (commaSeparated_notes (h.expr verb 0)).congr (fun _ => .rfl) (by simp)

theorem Noted.exprsUpTo (closing : Symbol) : Notes exact verb (i.exprsUpTo closing) := by
  refine .quiet (isAt_quiet _) fun _ => .ite (.pureBind ?_) (.bind h.exprs fun _ => ?_)
  · exact .quiet (expect_quiet _) fun _ => .pure (by simp)
  · exact .quiet (expect_quiet _) fun _ => .pure (by simp)

theorem Noted.orderItem : Notes exact verb i.orderItem :=
  .bind (h.expr verb 0) fun _ => .quiet direction?_quiet fun _ => .quiet nulls?_quiet fun _ =>
    .pure (by simp)

theorem Noted.orderBy? : Notes exact verb i.orderBy? := by
  refine .quiet (eatKeyword_quiet _) fun _ =>
    .ite (.quiet (expectKeyword_quiet _) fun _ => ?_) (.pure (by simp))
  exact .bind (commaSeparated_notes h.orderItem) fun _ => .pure (by simp)

theorem Noted.partitionBy? : Notes exact verb i.partitionBy? := by
  refine .quiet (eatKeyword_quiet _) fun _ =>
    .ite (.quiet (expectKeyword_quiet _) fun _ => ?_) (.pure (by simp))
  refine .bind h.exprs fun es => .pure fun r => ?_
  rw [parts_some, parts_map (f := fun e => ({ expr := e } : OrderItem Expr)) (fun _ => rfl),
    false_or]

theorem Noted.windowSpec : Notes exact verb i.windowSpec := by
  refine .quiet kind_quiet fun k => ?_
  split
  · exact .quiet advance_quiet fun _ => .pure (by simp)
  · refine .quiet (expect_quiet _) fun _ => .bind h.partitionBy? fun _ =>
      .bind h.orderBy? fun _ => ?_
    exact .quiet frame?_quiet fun _ => .quiet (expect_quiet _) fun _ => .pure (by simp)

theorem Noted.over? : Notes exact verb i.over? :=
  .quiet (eatKeyword_quiet _) fun _ =>
    .ite (.bind h.windowSpec fun _ => .pure (by simp)) (.pure (by simp))

end Clauses

end Nested

/-! ## Types -/

theorem typeName_quiet : Quiet typeName := by
  refine .bind kind_quiet fun k => ?_
  split
  · exact .bind currentText_quiet fun _ => .bind advance_quiet fun _ => .pure _
  · exact .bind currentText_quiet fun _ => .bind advance_quiet fun _ => .pure _
  · exact .bind advance_quiet fun _ => .pure _
  · exact .unexpected

theorem secondWord_quiet (name : String) (types : List (String × String)) :
    Quiet (secondWord name types) := by
  induction types generalizing name with
  | nil => exact .pure name
  | cons type types ih =>
    refine .bind (isAtWord_quiet _) fun _ => .ite ?_ (ih _)
    exact .bind currentText_quiet fun _ => .bind advance_quiet fun _ => ih _

theorem typeSize_quiet (text : String) : Quiet (typeSize text) := by
  refine .bind advance_quiet fun _ => .bind (eat_quiet _) fun _ =>
    .ite (.bind kind_quiet fun k => ?_) (.pure _)
  split <;> exact .bind (.pure _) fun _ => .bind advance_quiet fun _ => .pure _

namespace Nested

theorem bracketPair_quiet : Quiet bracketPair :=
  .bind (isAt_quiet _) fun _ => .bind nextKind_quiet fun _ =>
    .ite (.bind advance_quiet fun _ => .pure _) (.pure _)

theorem suffixWord_quiet : Quiet suffixWord := by
  refine .bind (isAtAnyWord_quiet _) fun _ => .ite ?_ (.pure _)
  exact .bind currentText_quiet fun _ => .bind advance_quiet fun _ => .pure _

theorem suffixWords_quiet (n : Nat) : Quiet (suffixWords n) := by
  induction n with
  | zero => exact .outOfRounds
  | succ n ih =>
    refine .bind suffixWord_quiet fun word => ?_
    cases word with
    | none => exact .pure _
    | some word => exact .bind ih fun _ => .pure _

section Types

variable (h : i.Noted exact)
include h

/-- The name of a field is not noted. -/
theorem Noted.typeArgument :
    NotesAs exact verb (fun _ => False) i.typeArgument fun e => (Part.field e).Names verb := by
  refine .quiet kind_quiet fun _ => .quiet nextKind_quiet fun _ =>
    .ite ?_ (.quiet kind_quiet fun k => ?_)
  · refine .quiet identifier_quiet fun name => .bind (h.dataType verb) fun _ => .pure ?_
    simp [Node.fieldParts, ColumnDefinition.ofName, -ColumnRef.ofText]
  · split
    · exact .quiet advance_quiet fun _ => .pure (by simp [Node.fieldParts])
    · exact .bind (h.dataType verb) fun _ => .pure (by simp [Node.fieldParts])

theorem Noted.typeArguments (name : String) : Notes exact verb (i.typeArguments { name }) := by
  refine .quiet (eat_quiet _) fun _ => .ite (.quiet kind_quiet fun k => ?_) (.pure (by simp))
  split
  · refine .quiet (typeSize_quiet _) fun _ => .pureBind (.quiet (expect_quiet _) fun _ => ?_)
    exact .pure (by simp)
  · refine .bind (commaSeparated_notes h.typeArgument) fun _ =>
      .pureBind (.quiet (expect_quiet _) fun _ => ?_)
    exact .pure (by simp)

theorem Noted.readDataType : Notes exact verb i.readDataType := by
  refine .quiet typeName_quiet fun _ => .quiet (secondWord_quiet _ _) fun _ =>
    .bind (h.typeArguments _) fun _ => ?_
  refine .quiet (many_quiet bracketPair_quiet advance_quiet) fun _ =>
    .quiet rounds_quiet fun n => ?_
  exact .quiet (suffixWords_quiet n) fun _ => .pure (by simp)

end Types

end Nested

/-! ## Operands -/

theorem columnOf_notes (qualifiers : List String) (column : Option String) :
    Notes exact verb (columnOf qualifiers column) := by
  refine .bind (addColumn_notes _ _) fun _ =>
    .pureCovers (fun r hr => .inr ?_) fun _ r hkind hr => ?_
  · exact Part.column_of_named_parts rfl (by simpa using hr)
  · rcases hr with hr | rfl
    · exact hr.elim
    · cases hkind

theorem pathTail_quiet (n : Nat) : Quiet (pathTail n) := by
  induction n with
  | zero => exact .outOfRounds
  | succ n ih =>
    refine .bind (eat_quiet _) fun _ =>
      .ite (.bind (eat_quiet _) fun _ => .ite (.pure _) ?_) (.pure _)
    exact .bind identifier_quiet fun _ => .bind ih fun _ => .pure _

theorem numberLiteral_names (text : String) (r : Reference) :
    ¬ (numberLiteral text).Names verb r := by
  unfold numberLiteral
  split
  · simp
  · split
    · simp
    · split <;> simp

theorem parts_pairUp (es : List Expr) (h : es.length % 2 = 0) : parts (pairUp es) = parts es := by
  match es with
  | [] => rfl
  | [e] => simp at h
  | key :: value :: more =>
    have ih := parts_pairUp more (by simp at h; omega)
    simp [pairUp, ih]

namespace Nested

theorem searchMode?_quiet : Quiet searchMode? :=
  .bind (isAtKeyword_quiet _) fun _ => .bind (isAtKeyword_quiet _) fun _ =>
    .ite (.bind textToParenthesis_quiet fun _ => .pure _) (.pure _)

section Operands

variable (h : i.Noted exact)
include h

theorem Noted.separator? : Notes exact verb i.separator? :=
  .quiet (eatWord_quiet _) fun _ =>
    .ite (.bind (h.primary verb) fun _ => .pure (by simp)) (.pure (by simp))

theorem Noted.aggregateCall (name : String) : Notes exact verb (i.aggregateCall name) := by
  refine .quiet (eatKeyword_quiet _) fun _ => .bind h.exprs fun args => .bind h.orderBy? fun _ => ?_
  refine .bind h.separator? fun _ => .quiet (expect_quiet _) fun _ => .bind h.over? fun _ => ?_
  split
  · exact .pure (by simp [or_assoc])
  · exact .pure (by simp [or_assoc])

theorem Noted.plainCall (name : String) : Notes exact verb (i.plainCall name) := by
  refine .bind (h.exprsUpTo _) fun args => .bind h.over? fun window => ?_
  split
  · exact .ite (.pure (by simp)) (.pure (by simp))
  · refine .ite (.pure ?_) (.pure (by simp))
    cases args <;> simp
  · exact .pure (by simp)

theorem Noted.callOf (name : String) : Notes exact verb (i.callOf name) :=
  .quiet (expect_quiet _) fun _ => .quiet (isAt_quiet _) fun _ =>
    .ite (h.aggregateCall name) (h.plainCall name)

theorem Noted.mapLiteral (keyword : String) : Notes exact verb (i.mapLiteral keyword) := by
  refine .quiet get_quiet fun _ => .quiet (expect_quiet _) fun _ =>
    .bind (h.exprsUpTo _) fun items => ?_
  split
  · rename_i heven
    exact .pure (by simp [parts_pairUp items heven])
  · exact .fails fun _ _ _ _ => not_returns_throw

theorem Noted.path (first : String) : Notes exact verb (i.path first) := by
  refine .quiet rounds_quiet fun n => .quiet (pathTail_quiet n) fun _ =>
    .ite (columnOf_notes _ _) ?_
  exact .quiet (isAt_quiet _) fun _ => .ite (h.callOf _) (columnOf_notes _ _)

theorem Noted.nameExpr : Notes exact verb i.nameExpr := by
  refine .quiet kind_quiet fun _ => .quiet identifier_quiet fun _ => .ite (h.path _) ?_
  refine .quiet (isAt_quiet _) fun _ => .ite (h.callOf _) (.ite (.pure (by simp)) ?_)
  refine .quiet (isAt_quiet _) fun _ => .ite (.ite ?_ (.ite (h.mapLiteral _) (h.path _))) (h.path _)
  exact .quiet advance_quiet fun _ => .bind (h.exprsUpTo _) fun _ => .pure (by simp)

theorem Noted.parenthesizedExpr : Notes exact verb i.parenthesizedExpr := by
  refine .quiet isAtQuery_quiet fun _ =>
    .ite (.bind h.parenthesizedQuery fun _ => .pure (by simp)) ?_
  refine .bind (h.expr verb 0) fun _ =>
    .bind (many_notes (h.expr verb 0) (eat_quiet _)) fun more => ?_
  refine .quiet (expect_quiet _) fun _ => ?_
  cases more with
  | nil => exact .pure (by simp)
  | cons e es => exact .pure (by simp)

theorem Noted.caseArm : Notes exact verb i.caseArm :=
  .bind (h.expr verb 0) fun _ => .quiet (expectKeyword_quiet _) fun _ =>
    .bind (h.expr verb 0) fun _ =>
    .pure (by simp [CaseArm.parts])

theorem Noted.caseExpr : Notes exact verb i.caseExpr := by
  refine .quiet (isAtKeyword_quiet _) fun _ => .ite (.pureNamed (by simp) ?arms)
    (.bind (h.expr verb 0) fun _ => .pureNamed (by simp) ?arms)
  intro subject
  refine .bind (many_notes h.caseArm (eatKeyword_quiet _)) fun _ => .ite .unexpected ?_
  refine .quiet (eatKeyword_quiet _) fun _ => .ite ?_ (.pureBind ?_)
  · refine .bind (h.expr verb 0) fun _ => .pureBind (.quiet (expectKeyword_quiet _) fun _ => ?_)
    exact .pure (by simp [CaseArm.parts, or_assoc])
  · exact .quiet (expectKeyword_quiet _) fun _ => .pure (by simp)

theorem Noted.castExpr : Notes exact verb i.castExpr := by
  refine .quiet (expect_quiet _) fun _ => .bind (h.expr verb 0) fun _ =>
    .quiet (expectKeyword_quiet _) fun _ => ?_
  exact .bind (h.dataType verb) fun _ => .quiet (expect_quiet _) fun _ => .pure (by simp)

theorem Noted.existsExpr : Notes exact verb i.existsExpr :=
  .quiet (expect_quiet _) fun _ => .bind h.parenthesizedQuery fun _ => .pure (by simp)

theorem Noted.intervalExpr : Notes exact verb i.intervalExpr := by
  refine .bind (h.operand verb) fun _ => .quiet kind_quiet fun k => ?_
  split
  · exact .quiet advance_quiet fun _ => .pure (by simp)
  · exact .pure (by simp)

theorem Noted.extractExpr : Notes exact verb i.extractExpr := by
  refine .quiet (expect_quiet _) fun _ => .quiet identifier_quiet fun _ =>
    .quiet (expectKeyword_quiet _) fun _ => ?_
  exact .bind (h.expr verb 0) fun _ => .quiet (expect_quiet _) fun _ => .pure (by simp)

theorem Noted.matchColumn : Notes exact verb i.matchColumn := by
  refine .bind h.nameExpr fun e => ?_
  obtain ⟨n⟩ := e
  cases n
  case column c => exact .pure (by simp)
  all_goals exact .unexpected

theorem Noted.fullTextSearch : Notes exact verb i.fullTextSearch := by
  refine .quiet (expect_quiet _) fun _ => .bind (commaSeparated_notes h.matchColumn) fun _ => ?_
  refine .quiet (expect_quiet _) fun _ => .quiet (expectKeyword_quiet _) fun _ => ?_
  refine .quiet (expect_quiet _) fun _ => .bind (h.operand verb) fun _ => ?_
  exact .quiet searchMode?_quiet fun _ => .quiet (expect_quiet _) fun _ => .pure (by simp)

theorem Noted.structField : Notes exact verb i.structField :=
  .bind (h.primary verb) fun _ => .quiet (expect_quiet _) fun _ => .bind (h.expr verb 0) fun _ =>
    .pure (by simp)

theorem Noted.structFields (n : Nat) : Notes exact verb (i.structFields n) := by
  induction n with
  | zero => exact .outOfRounds
  | succ n ih =>
    refine .quiet (isAt_quiet _) fun _ => .ite (.pure (by simp)) (.bind h.structField fun _ => ?_)
    exact .quiet (eat_quiet _) fun _ => .ite (.bind ih fun _ => .pure (by simp)) (.pure (by simp))

theorem Noted.structLiteral : Notes exact verb i.structLiteral :=
  .quiet rounds_quiet fun n => .bind (h.structFields n) fun _ => .quiet (expect_quiet _) fun _ =>
    .pure (by simp)

theorem Noted.wordExpr (word : Keyword) : Notes exact verb (i.wordExpr word) := by
  refine .quiet nextKind_quiet fun _ => .ite ?_ (.ite h.nameExpr .unexpected)
  exact .quiet currentText_quiet fun _ => .quiet advance_quiet fun _ => h.callOf _

theorem Noted.keywordExpr (word : Keyword) : Notes exact verb (i.keywordExpr word) := by
  unfold Nested.keywordExpr
  split
  case h_5 => exact .quiet advance_quiet fun _ => h.caseExpr
  case h_6 => exact .quiet advance_quiet fun _ => h.castExpr
  case h_7 => exact .quiet advance_quiet fun _ => h.existsExpr
  case h_8 => exact .quiet advance_quiet fun _ => h.intervalExpr
  case h_9 => exact .quiet advance_quiet fun _ => h.extractExpr
  case h_10 => exact .quiet advance_quiet fun _ => h.fullTextSearch
  case h_11 => exact h.wordExpr _
  all_goals exact .quiet advance_quiet fun _ => .pure (by simp)

theorem Noted.readPrimary : Notes exact verb i.readPrimary := by
  refine .quiet kind_quiet fun k => ?_
  split
  case h_1 text => exact .quiet advance_quiet fun _ => .pure (by simp [numberLiteral_names])
  case h_9 => exact .quiet advance_quiet fun _ => h.parenthesizedExpr
  case h_10 => exact .quiet advance_quiet fun _ => .bind (h.exprsUpTo _) fun _ => .pure (by simp)
  case h_11 => exact .quiet advance_quiet fun _ => h.structLiteral
  case h_12 word => exact h.keywordExpr word
  case h_13 => exact h.nameExpr
  case h_14 => exact h.nameExpr
  case h_15 => exact .unexpected
  all_goals exact .quiet advance_quiet fun _ => .pure (by simp)

end Operands

/-! ## Operators -/

theorem operatorText?_quiet : Quiet operatorText? := by
  refine .bind kind_quiet fun k => ?_
  split
  · exact .bind currentText_quiet fun _ => .pure _
  · exact .pure _

section Operators

variable (h : i.Noted exact)
include h

theorem Noted.readOperand : Notes exact verb i.readOperand := by
  refine .quiet kind_quiet fun k => ?_
  split
  · exact .quiet advance_quiet fun _ => .bind (h.expr verb _) fun _ => .pure (by simp)
  · exact h.readPrimary

theorem Noted.subscript : Notes exact verb i.subscript :=
  .bind (h.expr verb 0) fun _ => .quiet (expect_quiet _) fun _ => .pure (by simp)

/-- The operand before an operator has been noted already. -/
theorem Noted.postfixForm (left : Expr) :
    NotesAs exact verb (left.Names verb) (i.postfixForm left) fun e => e.Names verb := by
  refine .quiet (eat_quiet _) fun _ => .ite (.bind (h.dataType verb) fun _ => .pure (by simp)) ?_
  refine .quiet (isAt_quiet _) fun _ => .ite ?_ ?_
  · exact .bind (many_notes h.subscript (eat_quiet _)) fun _ => .pure (by simp)
  · exact .quiet (expectKeyword_quiet _) fun _ => .quiet identifier_quiet fun _ => .pure (by simp)

theorem Noted.membership : Notes exact verb i.membership := by
  refine .quiet (expect_quiet _) fun _ => .quiet isAtQuery_quiet fun _ => .ite ?_ ?_
  · refine .bind (h.query verb) fun _ => .pureBind (.quiet (expect_quiet _) fun _ => ?_)
    exact .pure (by simp)
  · refine .bind h.exprs fun _ => .pureBind (.quiet (expect_quiet _) fun _ => ?_)
    exact .pure (by simp)

theorem Noted.range (power : Nat) : Notes exact verb (i.range power) :=
  .bind (h.expr verb power) fun _ => .quiet (expectKeyword_quiet _) fun _ =>
    .bind (h.expr verb power) fun _ => .pure (by simp)

theorem Noted.predicate (left : Expr) (negation : String) (power : Nat) :
    NotesAs exact verb (left.Names verb) (i.predicate left negation power) fun e =>
      e.Names verb := by
  refine .quiet (eatKeyword_quiet _) fun _ => .ite (.bind h.membership fun _ => .pure (by simp)) ?_
  refine .quiet (eatKeyword_quiet _) fun _ => .ite (.bind (h.range _) fun _ => .pure (by simp)) ?_
  refine .quiet kind_quiet fun k => ?_
  split
  · exact .quiet advance_quiet fun _ => .bind (h.expr verb _) fun _ => .pure (by simp)
  · exact .unexpected

theorem Noted.operatorForm (left : Expr) (power : Nat) :
    NotesAs exact verb (left.Names verb) (i.operatorForm left power) fun e =>
      (e.getD left).Names verb := by
  refine .quiet operatorText?_quiet fun operator => ?_
  cases operator with
  | none => exact .pure (by simp)
  | some operator =>
    exact .quiet advance_quiet fun _ => .bind (h.expr verb _) fun _ => .pure (by simp)

theorem Noted.infixForm (left : Expr) (power : Nat) :
    NotesAs exact verb (left.Names verb) (i.infixForm left power) fun e =>
      (e.getD left).Names verb := by
  refine .quiet kind_quiet fun k => ?_
  split
  · refine .quiet advance_quiet fun _ => .quiet (eatKeyword_quiet _) fun _ => ?_
    exact .bind (h.expr verb _) fun _ => .pure (by simp)
  · refine .quiet nextKind_quiet fun _ => .ite (.quiet advance_quiet fun _ => ?_) (.pure (by simp))
    exact .andThen (h.predicate _ _ _) fun _ => .pure (by simp)
  · exact .andThen (h.predicate _ _ _) fun _ => .pure (by simp)
  · exact .andThen (h.predicate _ _ _) fun _ => .pure (by simp)
  · exact h.operatorForm left power

theorem Noted.operators (least n : Nat) (left : Expr) :
    NotesAs exact verb (left.Names verb) (i.operators least n left) fun e => e.Names verb := by
  induction n generalizing left with
  | zero => exact .outOfRounds
  | succ n ih =>
    refine .quiet kind_quiet fun k => .ite (.ite (.pure fun _ => .rfl) ?_) ?_
    · exact .andThen (h.postfixForm left) fun e => ih e
    · split
      · exact .pure fun _ => .rfl
      · refine .ite (.pure fun _ => .rfl) (.andThen (h.infixForm left _) fun e => ?_)
        cases e with
        | none => exact .pure fun _ => .rfl
        | some e => exact ih e

theorem Noted.readExpr (least : Nat) : Notes exact verb (i.readExpr least) := by
  refine .bind h.readOperand fun left => .quiet rounds_quiet fun n => ?_
  exact (h.operators least n left).congr (by simp) (by simp)

end Operators

end Nested

end SqlWeave.Parser
