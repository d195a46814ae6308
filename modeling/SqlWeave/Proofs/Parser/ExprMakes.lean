import SqlWeave.Proofs.Parser.Infix
import SqlWeave.Proofs.Parser.Makes
import SqlWeave.Proofs.Tree.Built

/-! How operands are read. The readers are made of primitive ones, and the expressions that they
return are built of what was read. -/

namespace SqlWeave.Parser

open HasSlots (slots)

/-- All that nests is built. An expression is read as far as its operators bind as tightly as is
asked. -/
structure Nested.Built (K : TokenKind → Prop) (i : Nested) : Prop where
  leading : ∀ least, Makes K (fun e => e.Built K ∧ e.leads least = true) (i.expr least)
  stops : ∀ {least src s e t}, Returns (i.expr least) src s e t →
    ∀ power, t.operator? = some power → power < least
  operand : Makes K (Expr.Built K) i.operand
  primary : Makes K (Expr.Built K) i.primary
  query : Makes K (BuiltPart K) i.query
  dataType : Makes K (BuiltPart K) i.dataType

attribute [local simp] BuiltPart Node.From TextKind.quoted? Expr.built_mk Node.slots Expr.call
  Expr.list Expr.tuple Expr.unary Expr.binary
  Expr.text Expr.string Expr.verbatim Expr.param Expr.number Expr.bool Expr.null Expr.column
    ColumnRef.ofText Expr.star Expr.query throughout_list built_ofText

variable {K : TokenKind → Prop} {i : Nested}

/-! ## Readers without trees -/

instance : Control Nested.direction? :=
  ⟨fun _ => .bind fun _ => .ite (.pure trivial)
    (.bind fun _ => .ite (.pure trivial) (.pure trivial))⟩

instance : Control Nested.nulls? where
  makes K := by
    refine .bind fun _ => .ite (.bind fun _ => .ite ?_ .unexpected) (.pure trivial)
    exact .bind fun _ => .bind fun _ => .pure trivial

instance : Control Nested.frame? :=
  ⟨fun _ => .bind fun _ => .ite (.bind fun _ => .pure trivial) (.pure trivial)⟩

instance : Control Nested.searchMode? :=
  ⟨fun _ => .bind fun _ => .bind fun _ => .ite (.bind fun _ => .pure trivial) (.pure trivial)⟩

instance : Control typeName where
  makes K := by
    refine .bind fun k => ?_
    split
    · exact .bind fun _ => .bind fun _ => .pure trivial
    · exact .bind fun _ => .bind fun _ => .pure trivial
    · exact .bind fun _ => .pure trivial
    · exact .unexpected

instance (name : String) (pairs : List (String × String)) : Control (secondWord name pairs) where
  makes K := by
    induction pairs generalizing name with
    | nil => exact .pure trivial
    | cons pair more ih => exact .bind fun _ => .ite (.bind fun _ => .bind fun _ => ih _) (ih _)

instance (text : String) : Control (typeSize text) where
  makes K := by
    refine .bind fun _ => .bind fun _ => .ite (.bind fun k => ?_) (.pure trivial)
    split <;> exact .pureBind (.bind fun _ => .pure trivial)

instance : Control Nested.bracketPair :=
  ⟨fun _ => .bind fun _ => .bind fun _ => .ite (.bind fun _ => .pure trivial) (.pure trivial)⟩

instance : Control Nested.suffixWord :=
  ⟨fun _ => .bind fun _ => .ite (.bind fun _ => .bind fun _ => .pure trivial) (.pure trivial)⟩

instance (n : Nat) : Control (Nested.suffixWords n) where
  makes K := by
    induction n with
    | zero => exact .outOfRounds
    | succ n ih =>
      refine .bind fun word => ?_
      cases word with
      | none => exact .pure trivial
      | some word => exact .andThen ih fun _ _ => .pure trivial

instance (n : Nat) : Control (pathTail n) where
  makes K := by
    induction n with
    | zero => exact .outOfRounds
    | succ n ih =>
      refine .bind fun _ => .ite (.bind fun _ => .ite (.pure trivial) (.bind fun _ => ?_))
        (.pure trivial)
      exact .andThen ih fun _ _ => .pure trivial

instance : Control Nested.operatorText? where
  makes K := by
    refine .bind fun k => ?_
    split
    · exact .bind fun _ => .pure trivial
    · exact .pure trivial

namespace Nested.Built

/-! ## Clauses -/

section Clauses

variable (h : i.Built K)
include h

theorem expr (least : Nat) : Makes K (Expr.Built K) (i.expr least) :=
  (h.leading least).mono fun _ he => he.1

theorem parenthesizedQuery : Makes K (BuiltPart K) i.parenthesizedQuery :=
  .andThen h.query fun _ hq => .bind fun _ => .pure hq

theorem exprs : Makes K (fun es => ∀ e ∈ es, e.Built K) i.exprs :=
  (Makes.commaSeparated (h.expr 0)).mono fun _ hes => hes.2

theorem exprsUpTo (closing : Symbol) :
    Makes K (fun es => ∀ e ∈ es, e.Built K) (i.exprsUpTo closing) := by
  refine .bind fun _ => .ite (.pureBind ?_) (.andThen h.exprs fun _ hes => ?_)
  · exact .bind fun _ => .pure (List.forall_mem_nil _)
  · exact .bind fun _ => .pure hes

theorem orderItem : Makes K (BuiltPart K) i.orderItem :=
  .andThen (h.expr 0) fun _ he => .bind fun _ => .bind fun _ => .pure (by simp [he])

theorem orderBy? : Makes K (BuiltPart K) i.orderBy? := by
  refine .bind fun _ => .ite (.bind fun _ => ?_) (.pure throughout_nil)
  exact .andThen (Makes.commaSeparated h.orderItem) fun _ hitems => .pure (by simpa using hitems.2)

theorem partitionBy? : Makes K (BuiltPart K) i.partitionBy? := by
  refine .bind fun _ => .ite (.bind fun _ => ?_) (.pure throughout_nil)
  exact .andThen h.exprs fun _ hes => .pure (by simpa using hes)

theorem windowSpec : Makes K (BuiltPart K) i.windowSpec := by
  refine .bind fun k => ?_
  split
  · exact .bind fun _ => .pure throughout_nil
  · refine .bind fun _ => .andThen h.partitionBy? fun _ hp => .andThen h.orderBy? fun _ ho => ?_
    exact .bind fun _ => .bind fun _ => .pure (throughout_append.mpr ⟨hp, ho⟩)

theorem over? : Makes K (BuiltPart K) i.over? :=
  .bind fun _ => .ite (.andThen h.windowSpec fun w hw => .pure (by simpa using hw))
    (.pure throughout_nil)

/-! ## Types -/

theorem typeArgument : Makes K (Expr.Built K) i.typeArgument := by
  refine .bind fun _ => .bind fun _ => .ite ?_ (.andThen .kind fun k hk => ?_)
  · refine .bind fun name => .andThen h.dataType fun t ht => .pure ?_
    simpa [ColumnDefinition.ofName, ColumnRef.ofText] using ht
  · split
    · exact .bind fun _ => .pure (by simpa using hk)
    · exact .andThen h.dataType fun t ht => .pure (Expr.built_mk.mpr ⟨trivial, ht⟩)

theorem typeArguments (name : String) : Makes K (BuiltPart K) (i.typeArguments { name }) := by
  refine .bind fun _ => .ite ?_ (.pure (by simp))
  refine .bind fun k => ?_
  split
  · exact .bind fun _ => .pureBind (.bind fun _ => .pure (by simp))
  · refine .andThen (Makes.commaSeparated h.typeArgument) fun args hargs => ?_
    exact .pureBind (.bind fun _ => .pure (by simpa using hargs.2))

theorem readDataType : Makes K (BuiltPart K) i.readDataType :=
  .bind fun _ => .bind fun _ => .andThen (h.typeArguments _) fun _ ht => .bind fun _ =>
    .bind fun _ => .bind fun _ =>
    .pure ht

end Clauses

end Nested.Built

/-! ## Operands -/

/-- What is built without an operator of its own. -/
def BuiltOperand (K : TokenKind → Prop) (e : Expr) : Prop := e.Built K ∧ e.isOperation = false

theorem isOperation_numberLiteral (text : String) : (numberLiteral text).isOperation = false := by
  unfold numberLiteral
  split
  · rfl
  · split
    · rfl
    · split <;> rfl

theorem numberLiteral_built (text : String) : (numberLiteral text).Built K := by
  unfold numberLiteral
  split
  · simp
  · split
    · simp
    · split <;> simp

theorem columnOf_built (qualifiers : List String) (column : Option String) :
    Makes K (BuiltOperand K) (columnOf qualifiers column) :=
  .bind fun _ => .pure ⟨by simp, rfl⟩

theorem list_built {es : List Expr} (h : ∀ e ∈ es, e.Built K) {separator : Option String}
    {parens : Bool} :
    (Expr.mk (.list es separator parens)).Built K :=
  Expr.built_mk.mpr ⟨trivial, allBuilt_exprs.mpr h⟩

theorem call_built (name : String) {es : List Expr} (h : ∀ e ∈ es, e.Built K)
    {w : Option (WindowSpec Expr)} (hw : BuiltPart K w) :
    (Expr.mk (.call name (some (.list es)) w none false)).Built K :=
  Expr.built_mk.mpr ⟨trivial, throughout_append.mpr
    ⟨allBuilt_optionals.mpr fun _ he => Option.some.inj he ▸ list_built h, hw⟩⟩

theorem pairUp_built (es : List Expr) (h : ∀ e ∈ es, e.Built K) :
    AllBuilt K (slots (pairUp es)) := by
  match es with
  | [] => exact throughout_nil
  | [e] => exact throughout_nil
  | key :: value :: more =>
    have ih := pairUp_built more fun e he => h e (by simp [he])
    exact throughout_append.mpr ⟨by simp [h key, h value], ih⟩

theorem parenthesized_built {e : Expr} (h : e.Built K) : e.parenthesized.Built K := by
  obtain ⟨n⟩ := e
  have hn := h.slots
  have htuple : (Expr.tuple [.mk n]).Built K := list_built (List.forall_mem_singleton.mpr h)
  cases n
  case text | binary | unary => exact Expr.built_mk.mpr ⟨(Expr.built_mk.mp h).1, hn⟩
  all_goals first | exact Expr.built_mk.mpr ⟨trivial, hn⟩ | exact htuple

namespace Nested.Built

section Operands

variable (h : i.Built K)
include h

theorem aggregateCall (name : String) : Makes K (BuiltOperand K) (i.aggregateCall name) := by
  refine .bind fun _ => .andThen h.exprs fun args hargs =>
    .andThen h.orderBy? fun order horder => ?_
  have hseparator : Makes K (fun x => ∀ e, x = some e → e.Built K) i.separator? :=
    .bind fun _ => .ite (.andThen h.primary fun e he => .pure (by simpa using he))
      (.pure fun _ he => by cases he)
  refine .andThen hseparator fun separator hs => .bind fun _ => .andThen h.over? fun w hw =>
    .pure ⟨?_, rfl⟩
  refine Expr.built_mk.mpr ⟨trivial, allBuilt_expr.mpr ⟨?_, throughout_append.mpr
    ⟨throughout_append.mpr ⟨horder, allBuilt_optionals.mpr hs⟩, hw⟩⟩⟩
  split
  · exact hargs _ List.mem_cons_self
  · simpa using hargs

theorem plainCall (name : String) : Makes K (BuiltOperand K) (i.plainCall name) := by
  refine .andThen (h.exprsUpTo _) fun args hargs => .andThen h.over? fun w hw => ?_
  split
  · refine .ite (.pure ⟨?_, rfl⟩) (.pure ⟨call_built name hargs throughout_nil, rfl⟩)
    exact Expr.built_mk.mpr ⟨trivial,
      allBuilt_expr.mpr ⟨hargs _ List.mem_cons_self, throughout_nil⟩⟩
  · rename_i w
    refine .ite (.pure ⟨?_, rfl⟩) (.pure ⟨call_built name hargs hw, rfl⟩)
    refine Expr.built_mk.mpr ⟨trivial,
      throughout_append.mpr ⟨allBuilt_optionals.mpr fun e he => ?_, slots_some w ▸ hw⟩⟩
    split at he
    · cases he
    · exact Option.some.inj he ▸ list_built hargs
  · exact .pure ⟨call_built name hargs throughout_nil, rfl⟩

theorem callOf (name : String) : Makes K (BuiltOperand K) (i.callOf name) := by
  exact .bind fun _ => .bind fun _ => .ite (h.aggregateCall name) (h.plainCall name)

omit h in
theorem mapLiteral_eq (keyword : String) : i.mapLiteral keyword =
    blaming (do expect .leftBracket; i.exprsUpTo .rightBracket)
      (fun items => if items.length % 2 = 0 then some (.mk (.mapLiteral keyword (pairUp items)))
        else none)
      .oddMapItems := by
  unfold Nested.mapLiteral blaming
  simp only [bind_assoc]
  refine bind_congr fun _ => bind_congr fun _ => bind_congr fun items => ?_
  split <;> rfl

theorem mapLiteral (keyword : String) : Makes K (BuiltOperand K) (i.mapLiteral keyword) := by
  rw [mapLiteral_eq]
  refine .blaming (.bind fun _ => h.exprsUpTo _) fun items e hitems he => ?_
  split at he
  · exact Option.some.inj he ▸ ⟨Expr.built_mk.mpr ⟨trivial, pairUp_built items hitems⟩, rfl⟩
  · cases he

theorem path (first : String) : Makes K (BuiltOperand K) (i.path first) := by
  refine .bind fun _ => .bind fun tail => ?_
  split
  exact .ite (columnOf_built _ _) (.bind fun _ => .ite (h.callOf _) (columnOf_built _ _))

theorem nameExpr : Makes K (BuiltOperand K) i.nameExpr := by
  refine .bind fun k => .bind fun name =>
    .ite (h.path name) (.bind fun _ => .ite (h.callOf name) ?_)
  refine .ite (.pure ⟨by simp, rfl⟩)
    (.bind fun _ => .ite (.ite ?_ (.ite (h.mapLiteral name) (h.path name))) (h.path name))
  exact .bind fun _ => .andThen (h.exprsUpTo _) fun es hes =>
    .pure ⟨Expr.built_mk.mpr ⟨trivial, allBuilt_exprs.mpr hes⟩, rfl⟩

theorem parenthesizedExpr : Makes K (BuiltOperand K) i.parenthesizedExpr := by
  refine .bind fun _ => .ite (.andThen h.parenthesizedQuery fun q hq =>
    .pure ⟨Expr.built_mk.mpr ⟨trivial, hq⟩, rfl⟩) ?_
  refine .andThen (h.expr 0) fun first hfirst => .andThen (Makes.many (h.expr 0)) fun more hmore =>
    .bind fun _ => ?_
  exact .ite (.pure ⟨parenthesized_built hfirst, Expr.isOperation_parenthesized first⟩)
    (.pure ⟨list_built (List.forall_mem_cons.mpr ⟨hfirst, hmore⟩), rfl⟩)

theorem caseArm : Makes K (BuiltPart K) i.caseArm := by
  refine .andThen (h.expr 0) fun c hc => .bind fun _ => .andThen (h.expr 0) fun r hr => .pure ?_
  exact allBuilt_expr.mpr ⟨hc, allBuilt_expr.mpr ⟨hr, throughout_nil⟩⟩

theorem caseExpr : Makes K (BuiltOperand K) i.caseExpr := by
  refine .bind fun _ => .ite (.andThen .pureNone ?arms)
    (.andThen (h.expr 0) fun _ he => .andThen (.pureSome he) ?arms)
  intro subject hsubject
  refine .andThen (Makes.many h.caseArm) fun arms harms => .ite .unexpected (.bind fun _ => ?_)
  have hcase {otherwise : List (CaseArm Expr)} (hotherwise : BuiltPart K otherwise) :
      BuiltOperand K (.mk (.case subject (arms ++ otherwise) false)) := by
    refine ⟨Expr.built_mk.mpr ⟨trivial,
      throughout_append.mpr ⟨allBuilt_optionals.mpr hsubject, throughout_list.mpr ?_⟩⟩, rfl⟩
    exact List.forall_mem_append.mpr ⟨harms, throughout_list.mp hotherwise⟩
  refine .ite (.andThen (h.expr 0) fun e he => .pureBind (.bind fun _ => .pure (hcase ?_)))
    (.pureBind (.bind fun _ => .pure (hcase throughout_nil)))
  exact allBuilt_expr.mpr ⟨he, throughout_nil⟩

theorem castExpr : Makes K (BuiltOperand K) i.castExpr := by
  refine .bind fun _ => .andThen (h.expr 0) fun e he => .bind fun _ =>
    .andThen h.dataType fun t ht => ?_
  exact .bind fun _ => .pure ⟨Expr.built_mk.mpr ⟨trivial, allBuilt_expr.mpr ⟨he, ht⟩⟩, rfl⟩

omit h in
/-- EXISTS is no operator before an operand. -/
theorem exists_before (operand : Expr) : Operator.Before "EXISTS" operand := fun _ h => by cases h

theorem existsExpr : Makes K (BuiltOperand K) i.existsExpr :=
  .bind fun _ => .andThen h.parenthesizedQuery fun _ hq =>
    .pure ⟨Expr.built_mk.mpr ⟨exists_before _,
    allBuilt_expr.mpr ⟨Expr.built_mk.mpr ⟨trivial, hq⟩, throughout_nil⟩⟩, rfl⟩

theorem intervalExpr : Makes K (BuiltOperand K) i.intervalExpr := by
  refine .andThen h.operand fun e he => .bind fun k => ?_
  split
  · exact .bind fun _ => .pure ⟨by simp [he], rfl⟩
  · exact .pure ⟨by simp [he], rfl⟩

theorem extractExpr : Makes K (BuiltOperand K) i.extractExpr := by
  refine .bind fun _ => .bind fun _ => .bind fun _ => .andThen (h.expr 0) fun e he => ?_
  exact .bind fun _ => .pure ⟨by simp [he], rfl⟩

theorem matchColumn : Makes K (BuiltPart K) i.matchColumn := by
  refine .andThen h.nameExpr fun e he => ?_
  obtain ⟨n⟩ := e
  cases n
  case column c => exact .pure he.1.slots
  all_goals exact .unexpected

theorem fullTextSearch : Makes K (BuiltOperand K) i.fullTextSearch := by
  refine .bind fun _ => .andThen (Makes.commaSeparated h.matchColumn) fun cs hcs =>
    .bind fun _ => ?_
  refine .bind fun _ => .bind fun _ => .andThen h.operand fun e he => .bind fun _ => .bind fun _ =>
    .pure ⟨?_, rfl⟩
  exact Expr.built_mk.mpr ⟨trivial, throughout_append.mpr
    ⟨throughout_list.mpr hcs.2, allBuilt_expr.mpr ⟨he, throughout_nil⟩⟩⟩

theorem structField : Makes K (Expr.Built K) i.structField :=
  .andThen h.primary fun key hkey => .bind fun _ => .andThen (h.expr 0) fun value hvalue =>
    .pure (by simp [hkey, hvalue])

theorem structFields (n : Nat) : Makes K (fun es => ∀ e ∈ es, e.Built K) (i.structFields n) := by
  induction n with
  | zero => exact .outOfRounds
  | succ n ih =>
    refine .bind fun _ => .ite (.pure (List.forall_mem_nil _))
      (.andThen h.structField fun e he => .bind fun _ => ?_)
    refine .ite (.andThen ih fun es hes => .pure ?_) (.pure (List.forall_mem_singleton.mpr he))
    exact List.forall_mem_cons.mpr ⟨he, hes⟩

theorem structLiteral : Makes K (BuiltOperand K) i.structLiteral :=
  .bind fun n => .andThen (h.structFields n) fun _ hes => .bind fun _ =>
    .pure ⟨Expr.built_mk.mpr ⟨trivial, allBuilt_exprs.mpr hes⟩, rfl⟩

theorem wordExpr (word : Keyword) : Makes K (BuiltOperand K) (i.wordExpr word) := by
  refine .bind fun _ => .ite ?_ (.ite h.nameExpr .unexpected)
  exact .bind fun _ => .bind fun _ => h.callOf _

theorem keywordExpr (word : Keyword) : Makes K (BuiltOperand K) (i.keywordExpr word) := by
  unfold Nested.keywordExpr
  split
  case h_5 => exact .bind fun _ => h.caseExpr
  case h_6 => exact .bind fun _ => h.castExpr
  case h_7 => exact .bind fun _ => h.existsExpr
  case h_8 => exact .bind fun _ => h.intervalExpr
  case h_9 => exact .bind fun _ => h.extractExpr
  case h_10 => exact .bind fun _ => h.fullTextSearch
  case h_11 => exact h.wordExpr _
  all_goals exact .bind fun _ => .pure ⟨by simp, rfl⟩

theorem readPrimary : Makes K (BuiltOperand K) i.readPrimary := by
  refine .andThen .kind fun k hk => ?_
  split
  case h_1 text =>
    exact .bind fun _ => .pure ⟨numberLiteral_built text, isOperation_numberLiteral text⟩
  case h_9 => exact .bind fun _ => h.parenthesizedExpr
  case h_10 =>
    exact .bind fun _ => .andThen (h.exprsUpTo _) fun es hes =>
      .pure ⟨Expr.built_mk.mpr ⟨trivial, allBuilt_exprs.mpr hes⟩, rfl⟩
  case h_11 => exact .bind fun _ => h.structLiteral
  case h_12 word => exact h.keywordExpr word
  case h_13 => exact h.nameExpr
  case h_14 => exact h.nameExpr
  case h_15 => exact .unexpected
  case h_2 => exact .bind fun _ => .pure ⟨by simpa using hk, rfl⟩
  case h_3 => exact .bind fun _ => .pure ⟨by simpa using hk, rfl⟩
  all_goals exact .bind fun _ => .pure ⟨by simp, rfl⟩

end Operands

/-! ## Operators -/

section Operators

variable (h : i.Built K)
include h

theorem readOperand : Makes K (Expr.Built K) i.readOperand := by
  refine .bind fun k => ?_
  split
  · rename_i front power hfront
    refine .bind fun _ => .andThen (h.leading power) fun e he =>
      .pure (Expr.built_mk.mpr ⟨fun power' hpower => ?_, ?_⟩)
    · cases (Operator.leading?_lookup hfront).symm.trans hpower
      exact he.2
    · exact allBuilt_expr.mpr ⟨he.1, throughout_nil⟩
  · exact h.readPrimary.mono fun _ he => he.1

theorem subscript : Makes K (Expr.Built K) i.subscript :=
  .andThen (h.expr 0) fun _ he => .bind fun _ => .pure he

theorem postfixForm (left : Expr) :
    Makes K (fun e => left.Built K → BuiltOperand K e) (i.postfixForm left) := by
  refine .bind fun _ => .ite ?_ (.bind fun _ => .ite ?_ ?_)
  · refine .andThen h.dataType fun t ht => .pure fun hleft => ⟨?_, rfl⟩
    exact Expr.built_mk.mpr ⟨trivial, allBuilt_expr.mpr ⟨hleft, ht⟩⟩
  · refine .andThen (Makes.many h.subscript) fun es hes => .pure fun hleft => ⟨?_, rfl⟩
    exact Expr.built_mk.mpr ⟨trivial, allBuilt_expr.mpr ⟨hleft, allBuilt_exprs.mpr hes⟩⟩
  · exact .bind fun _ => .bind fun _ => .pure fun hleft => ⟨by simp [hleft], rfl⟩

theorem membership : Makes K (BuiltOperand K) i.membership := by
  refine .bind fun _ => .bind fun _ => .ite ?_ ?_
  · refine .andThen h.query fun q hq => .pureBind (.bind fun _ => .pure ⟨?_, rfl⟩)
    exact Expr.built_mk.mpr ⟨trivial, hq⟩
  · exact .andThen h.exprs fun es hes => .pureBind (.bind fun _ => .pure ⟨list_built hes, rfl⟩)

theorem range (power : Nat) : Makes K (fun e => e.Built K ∧
    ∃ low high : Expr, e = .list [low, high] ∧
    low.leads power = true ∧ high.leads power = true) (i.range power) :=
  .andThen (h.leading power) fun low hlow => .bind fun _ =>
    .andThen (h.leading power) fun high hhigh =>
    .pure ⟨by simp [hlow.1, hhigh.1], low, high, rfl, hlow.2, hhigh.2⟩

/-! What an operator adds depends on where the reader stands. -/

theorem predicate (left : Expr) (negation : String) (power : Nat) :
    Makes K (fun _ => True) (i.predicate left negation power) := by
  refine .bind fun _ => .ite (.andThen h.membership fun e _ => .pure trivial) (.bind fun _ => ?_)
  refine .ite (.andThen (h.range _) fun e _ => .pure trivial) (.bind fun k => ?_)
  split
  · exact .bind fun _ => .andThen (h.expr _) fun e _ => .pure trivial
  · exact .unexpected

theorem operatorForm (left : Expr) (power : Nat) :
    Makes K (fun _ => True) (i.operatorForm left power) := by
  refine .bind fun operator => ?_
  cases operator with
  | none => exact .pure trivial
  | some operator => exact .bind fun _ => .andThen (h.expr _) fun e _ => .pure trivial

theorem infixForm (left : Expr) (power : Nat) :
    Makes K (fun _ => True) (i.infixForm left power) := by
  refine .bind fun k => ?_
  split
  · exact .bind fun _ => .bind fun _ => .andThen (h.expr _) fun e _ => .pure trivial
  · refine .bind fun _ => .ite (.bind fun _ => ?_) (.pure trivial)
    exact .andThen (h.predicate left _ _) fun e _ => .pure trivial
  · exact .andThen (h.predicate left _ _) fun e _ => .pure trivial
  · exact .andThen (h.predicate left _ _) fun e _ => .pure trivial
  · exact h.operatorForm left power

end Operators

end Nested.Built

end SqlWeave.Parser
