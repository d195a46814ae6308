import SqlWeave.Proofs.Parser.StatementRecursion

/-! The rounds of the loops of the readers. Each round takes a token before the next one starts. -/

namespace SqlWeave.Parser

variable {α β : Type} {n m : Nat} {P : TokenKind → Prop}

/-! ## Loops that hold no other readers -/

/-- A round of `manyWithin`. -/
def manyRound (start : Parser Bool) (item : Parser α) (again : Unit → Parser (List α)) (_ : Unit) :
    Parser (List α) := do
  if ← start then
    let x ← item
    return x :: (← again ())
  else return []

/-- Items that each start by taking a token. -/
theorem manyWithin_driven {start : Parser Bool} {item : Parser α} [Onward start] [Onward item]
    (h : TakesOn (fun _ => True) (· = true) start) :
    TokenDriven Same (fun n (_ : Unit) => manyWithin start item n) (manyRound start item) where
  zero _ := rfl
  succ _ _ := rfl
  later hagain _ := .whenTaken h (.bind fun _ => .andThen (hagain ()) fun _ => .refl) .refl

/-- Brackets without an index count as taken. -/
theorem TakesOn.bracketPair : TakesOn P (· = true) Nested.bracketPair := by
  refine .asks (isAt_asks .leftBracket) fun b => .still nextKind_still fun k =>
    .ite (fun hb => ?_) fun _ => ?_
  · refine .seq (.advance fun k hk he => ?_) fun _ => inferInstance
    obtain rfl : b = true := (Bool.and_eq_true_iff.mp hb).1
    rw [he] at hk
    exact Bool.false_ne_true hk.2
  · exact .pure Bool.false_ne_true

/-- A round of skipping to a parenthesis. -/
def skipRound (again : Unit → Parser Unit) (_ : Unit) : Parser Unit := do
  if ← isAtParenthesisOrEnd then return ()
  else
    advance
    again ()

theorem skipWithin_driven : TokenDriven Same (fun n (_ : Unit) => skipWithin isAtParenthesisOrEnd n)
    skipRound where
  zero _ := rfl
  succ _ _ := rfl
  later hagain _ := by
    refine .asks isAtParenthesisOrEnd_asks fun b => ?_
    cases b with
    | true => exact .pure ()
    | false =>
      refine (Entering.past (.advance fun k hk he => ?_) fun _ => hagain ()).same
      rw [he] at hk
      exact Bool.false_ne_true hk.2.symm

/-- A round of the words after a type. -/
def suffixRound (again : Unit → Parser (List String)) (_ : Unit) : Parser (List String) := do
  match ← Nested.suffixWord with
  | some word => return word :: (← again ())
  | none => return []

theorem suffixWords_driven : TokenDriven Same (fun n (_ : Unit) => Nested.suffixWords n)
    suffixRound where
  zero _ := rfl
  succ _ _ := rfl
  later hagain _ := by
    refine .whenSome .refl (.asks (isAtAnyWord_asks _) fun b => .ite (fun hb => ?_) fun _ =>
      .pure nofun) (.pure [])
      fun _ => .andThen (hagain ()) fun _ => .refl
    refine .still currentText_still fun _ => .seq (.advance fun k hk he => ?_) fun _ =>
      inferInstance
    rw [he, any_isWord_eof] at hk
    exact Bool.false_ne_true (hk.2.trans hb)

/-- A round of the names after the points of a path. -/
def pathRound (again : Unit → Parser (List String × Bool)) (_ : Unit) :
    Parser (List String × Bool) := do
  if ← eat .dot then
    if ← eat .star then return ([], true)
    else
      let name ← identifier
      let (names, star) ← again ()
      return (name :: names, star)
  else return ([], false)

theorem pathTail_driven : TokenDriven Same (fun n (_ : Unit) => pathTail n) pathRound where
  zero _ := rfl
  succ _ _ := rfl
  later hagain _ := .whenTaken (.eat .dot)
    (.bind fun _ => .ite .refl (.bind fun _ => .andThen (hagain ()) fun _ => .refl)) .refl

/-- A round of the names after the points of a DELETE target. -/
def targetRound (again : Unit → Parser (List String)) (_ : Unit) : Parser (List String) := do
  if ← eat .dot then
    if ← eat .star then return []
    else
      let name ← identifier
      return name :: (← again ())
  else return []

theorem targetTail_driven : TokenDriven Same (fun n (_ : Unit) => targetTail n) targetRound where
  zero _ := rfl
  succ _ _ := rfl
  later hagain _ := .whenTaken (.eat .dot)
    (.bind fun _ => .ite .refl (.bind fun _ => .andThen (hagain ()) fun _ => .refl)) .refl

/-- A round of DELETE targets. -/
def deleteTargetsRound (again : Unit → Parser (List (Table Expr))) (_ : Unit) :
    Parser (List (Table Expr)) := do
  if ← isAtKeyword .FROM then return []
  else
    let target ← deleteTarget
    if ← eat .comma then return target :: (← again ()) else return [target]

theorem deleteTargets_driven :
    TokenDriven Same (fun n (_ : Unit) => deleteTargets n) deleteTargetsRound where
  zero _ := rfl
  succ _ _ := rfl
  later hagain _ := .bind fun _ => .ite .refl (.bind fun _ =>
    .whenTaken (.eat .comma) (.andThen (hagain ()) fun _ => .refl) .refl)

/-- A round of skipping a group. -/
def skipGroupRound (again : Nat → Parser Unit) (depth : Nat) : Parser Unit := do
  match ← kind with
  | .symbol .leftParen =>
    advance
    again (depth + 1)
  | .symbol .rightParen =>
    advance
    if depth ≤ 1 then return () else again (depth - 1)
  | .eof => unexpected ")"
  | _ =>
    advance
    again depth

theorem skipGroupWithin_driven : TokenDriven Same skipGroupWithin skipGroupRound where
  zero _ := rfl
  succ _ _ := rfl
  later {m f g} hagain depth := by
    refine .look fun k => ?_
    cases k
    case symbol mark =>
      cases mark
      case leftParen => exact (Entering.step (by nofun) (hagain (depth + 1))).same
      case rightParen => exact (Entering.step (by nofun) (.ite .refl (hagain (depth - 1)))).same
      all_goals exact (Entering.step (by nofun) (hagain depth)).same
    case eof => exact .unexpected
    all_goals exact (Entering.step (by nofun) (hagain depth)).same

/-- A round of table options. -/
def tableOptionsRound (again : Unit → Parser (List TableOption)) (_ : Unit) :
    Parser (List TableOption) := do
  match ← optionKeyword? with
  | none => return []
  | some keyword =>
    let symbol := if ← eat .eq then some "=" else none
    let value ← rawValue
    let _ ← eat .comma
    return { keyword, symbol, value } :: (← again ())

theorem TakesOn.optionKeyword? : TakesOn P (·.isSome) optionKeyword? := by
  refine .look fun k hk => ?_
  clear hk
  cases k
  case identifier => exact .seq (.advance (by rintro _ rfl; nofun)) fun _ => inferInstance
  case keyword word =>
    cases word
    case DEFAULT => exact .seq (.advance (by rintro _ rfl; nofun)) fun _ => .parts
    case COLLATE => exact .seq (.advance (by rintro _ rfl; nofun)) fun _ => inferInstance
    case ORDER => exact .seq (.advance (by rintro _ rfl; nofun)) fun _ => .parts
    case PARTITION => exact .seq (.advance (by rintro _ rfl; nofun)) fun _ => .parts
    case PRIMARY => exact .seq (.advance (by rintro _ rfl; nofun)) fun _ => .parts
    all_goals exact .pure nofun
  all_goals exact .pure nofun

theorem tableOptions_driven : TokenDriven Same (fun n (_ : Unit) => tableOptions n)
    tableOptionsRound where
  zero _ := rfl
  succ _ _ := rfl
  later hagain _ := .whenSome .refl .optionKeyword? (.pure [])
    fun _ => .bind fun _ => .bind fun _ => .bind fun _ => .andThen (hagain ()) fun _ => .refl

namespace Nested

variable {i j : Nested}

/-! ## Loops over what nests -/

/-- A round of the fields of a struct. -/
def structFieldsRound (i : Nested) (again : Unit → Parser (List Expr)) (_ : Unit) :
    Parser (List Expr) := do
  if ← isAt .rightBrace then return []
  else
    let field ← i.structField
    if ← eat .comma then return field :: (← again ()) else return [field]

theorem Onward.structFields_driven (h : i.Onward) :
    TokenDriven Same (fun n (_ : Unit) => i.structFields n) i.structFieldsRound where
  zero _ := rfl
  succ _ _ := rfl
  later hagain _ := .bind fun _ => .ite .refl (.andThen (h.agree _).structField fun _ =>
    .whenTaken (.eat .comma) (.andThen (hagain ()) fun _ => .refl) .refl)

/-- A round of the operators after an operand. -/
def operatorsRound (i : Nested) (least : Nat) (again : Expr → Parser Expr) (left : Expr) :
    Parser Expr := do
  let k ← kind
  if Operator.isPostfix k then
    if Operator.postfixPower < least then return left
    else again (← i.postfixForm left)
  else
    match Operator.power? k with
    | none => return left
    | some power =>
      if power < least then return left
      else
        match ← i.infixForm left (power + 1) with
        | some e => again e
        | none => return left

/-- At what starts an item, an item is taken. -/
theorem many_takes {check : Parser Bool} {b : TokenKind → Bool} {item : Parser α}
    [Parser.Onward check] [Parser.Onward item] (h : Asks check b) (heof : b .eof = false)
    {w : List α → Prop} :
    TakesOn (fun k => P k ∧ b k = true) w (many (takeIf check) item) := by
  intro src s xs t hs hk hr _
  obtain ⟨n, u, hn, hr⟩ := Returns.bind hr
  obtain ⟨rfl, rfl⟩ := rounds_returns hn
  obtain ⟨v, u, hv, hr⟩ := Returns.bind hr
  obtain ⟨rfl, rfl⟩ := hv.det (takeIf_takes h hk.2)
  refine (hs.later_advance fun he => ?_).trans (Onward.later inferInstance hr)
  rw [he, heof] at hk
  exact Bool.false_ne_true hk.2

theorem Onward.postfixForm_takes (h : i.Onward) (left : Expr) :
    TakesOn P (fun _ => True) (i.postfixForm left) := by
  have hform := (h.agree 0).subscript.left
  have htype := h.dataType
  refine .whenTaken (.eat .doubleColon) .parts
    (.asks (isAt_asks .leftBracket) fun b => .ite (fun hb => ?_) fun _ => ?_)
  · subst hb
    exact .seq (many_takes (isAt_asks .leftBracket) rfl) fun _ => inferInstance
  · exact .seq (.expectKeyword .COLLATE) fun _ => inferInstance

theorem Onward.predicate_takes (h : i.Onward) (left : Expr) (negation : String) (power : Nat) :
    TakesOn P (fun _ => True) (i.predicate left negation power) := by
  have hset := (h.agree 0).membership.left
  have hrange := ((h.agree 0).range power).left
  have hexpr := h.expr power
  refine .whenTaken (.eatKeyword .IN) .parts
    (.whenTaken (.eatKeyword .BETWEEN) .parts (.look fun k _ => ?_))
  cases hk : Operator.text? k with
  | none => exact .unexpected
  | some operator =>
    refine .seq (.advance ?_) fun _ => inferInstance
    rintro _ rfl rfl
    cases hk

/-- An operator of one token is one that is taken. -/
theorem Onward.operatorForm_takes (h : i.Onward) (left : Expr) (power : Nat) :
    TakesOn P (·.isSome) (i.operatorForm left power) := by
  intro src s e t hs hP hr he
  obtain ⟨operator, u, hoperator, hr⟩ := Returns.bind hr
  cases operator with
  | none =>
    obtain ⟨rfl, -⟩ := Returns.pure hr
    cases he
  | some operator =>
    obtain rfl := operatorText?_still src s _ u hoperator
    obtain ⟨_, v, hv, hr⟩ := Returns.bind hr
    obtain rfl := advance_returns hv
    have hexpr := h.expr power
    refine (hs.later_advance fun heof => ?_).trans (Onward.later inferInstance hr)
    obtain ⟨k, v, hk, hoperator⟩ := Returns.bind hoperator
    obtain ⟨rfl, rfl⟩ := kind_returns hk
    rw [heof] at hoperator
    cases hoperator

theorem Onward.infixForm_takes (h : i.Onward) (left : Expr) (power : Nat) :
    TakesOn P (·.isSome) (i.infixForm left power) := by
  have hpredicate (negation : String) := ((h.agree 0).predicate left negation power).left
  have hexpr := h.expr power
  refine .look fun k hk => ?_
  clear hk
  cases k
  case keyword word =>
    cases word
    case IS => exact .seq (.advance (by rintro _ rfl; nofun)) fun _ => inferInstance
    case NOT =>
      refine .still nextKind_still fun _ => .ite (fun _ => ?_) fun _ => .pure nofun
      exact .seq (.advance (by rintro _ rfl; nofun)) fun _ => inferInstance
    case IN => exact .seq (h.predicate_takes left "" power) fun _ => inferInstance
    case BETWEEN => exact .seq (h.predicate_takes left "" power) fun _ => inferInstance
    all_goals exact h.operatorForm_takes left power
  all_goals exact h.operatorForm_takes left power

theorem Onward.operators_driven (h : i.Onward) (least : Nat) :
    TokenDriven Same (i.operators least) (i.operatorsRound least) where
  zero _ := rfl
  succ _ _ := rfl
  later {m f g} hagain left := by
    refine .bind fun k => .ite (.ite .refl ?_) ?_
    · exact (Entering.andThen ⟨((h.agree _).postfixForm left), h.postfixForm_takes left⟩
        hagain).same
    · cases Operator.power? k with
      | none => exact .pure left
      | some power =>
        refine .ite .refl (.whenSome ((h.agree _).infixForm left _) (h.infixForm_takes left _)
          ?_ hagain)
        exact .pure left

/-- A round of the entries of a FROM list after the first. -/
def moreTablesRound (i : Nested) (again : Unit → Parser (List (Table Expr))) (_ : Unit) :
    Parser (List (Table Expr)) := do
  if ← eat .comma then
    let table ← i.tableFactor
    return table :: (← again ())
  else
    match ← join? with
    | none => return []
    | some join =>
      let table ← i.joinedTable join
      return table :: (← again ())

theorem join?_takes : TakesOn P (·.isSome) join? := by
  have hside {words : List String} : TakesOn (fun _ => True) (·.isSome) (do
      if ← eatKeyword .JOIN then return some (" ".intercalate (words ++ ["JOIN"]))
      else if words.isEmpty then return none
      else Parser.unexpected "JOIN") :=
    .whenTaken (.eatKeyword .JOIN) inferInstance (.ite (fun _ => .pure nofun) fun _ => .unexpected)
  exact .after fun _ => .ite (fun _ => .after fun _ => .after fun _ => hside) fun _ =>
    .after fun _ => .after fun _ => hside

theorem Onward.moreTables_driven (h : i.Onward) :
    TokenDriven Same (fun n (_ : Unit) => i.moreTables n) i.moreTablesRound where
  zero _ := rfl
  succ _ _ := rfl
  later hagain _ := by
    refine .whenTaken (.eat .comma) ?_ (.whenSome .refl join?_takes (.pure []) fun join => ?_)
    · exact .andThen (h.agree _).tableFactor fun _ => .andThen (hagain ()) fun _ => .refl
    · exact .andThen ((h.agree _).joinedTable join) fun _ => .andThen (hagain ()) fun _ => .refl

/-- A round of the constraints of a column. -/
def columnConstraintsRound (i : Nested)
    (again : ColumnDefinition Expr → Parser (ColumnDefinition Expr)) (d : ColumnDefinition Expr) :
    Parser (ColumnDefinition Expr) := do
  match ← i.columnConstraint d with
  | some d => again d
  | none => return d

theorem Onward.columnConstraint_takes (h : i.Onward) (d : ColumnDefinition Expr) :
    TakesOn P (·.isSome) (i.columnConstraint d) := by
  have hprimary := h.primary
  have hexpr := h.expr 7
  refine .look fun k hk => ?_
  clear hk
  cases k
  case identifier =>
    refine .ite (fun _ => ?_) fun _ => .ite (fun _ => ?_) fun _ => .pure nofun
    · exact .seq (.advance (by rintro _ rfl; nofun)) fun _ => inferInstance
    · exact .seq (.advance (by rintro _ rfl; nofun)) fun _ => inferInstance
  case keyword word =>
    cases word
    case NOT => exact .seq (.advance (by rintro _ rfl; nofun)) fun _ => .parts
    case NULL => exact .seq (.advance (by rintro _ rfl; nofun)) fun _ => inferInstance
    case DEFAULT => exact .seq (.advance (by rintro _ rfl; nofun)) fun _ => inferInstance
    case PRIMARY => exact .seq (.advance (by rintro _ rfl; nofun)) fun _ => .parts
    case UNIQUE => exact .seq (.advance (by rintro _ rfl; nofun)) fun _ => .parts
    case COLLATE => exact .seq (.advance (by rintro _ rfl; nofun)) fun _ => inferInstance
    all_goals exact .pure nofun
  all_goals exact .pure nofun

theorem Onward.columnConstraints_driven (h : i.Onward) :
    TokenDriven Same i.columnConstraints i.columnConstraintsRound where
  zero _ := rfl
  succ _ _ := rfl
  later hagain d := .whenSome ((h.agree _).columnConstraint d) (h.columnConstraint_takes d)
    (.pure d) hagain

end Nested

end SqlWeave.Parser
