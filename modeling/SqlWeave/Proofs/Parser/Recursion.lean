import SqlWeave.Proofs.Parser.Onward

/-! What the readers ask of the readers inside them. Where those do the same at later tokens, the
readers of expressions, operands, queries and types do the same one token before: each takes a token
before it asks. -/

namespace SqlWeave.Parser

variable {α β : Type} {n m : Nat} {P : TokenKind → Prop}

/-! ## Primitive readers -/

instance (x : α) : Onward (Pure.pure x : Parser α) := .still (pure_still x)
instance : Onward kind := .still kind_still
instance : Onward nextKind := .still nextKind_still
instance : Onward currentText := .still currentText_still
instance : Onward advance := .advance
instance : Onward rounds := .still fun _ _ _ _ h => by cases h; exact ⟨rfl, rfl⟩

instance : Onward (get : Parser ParserState) := .still get_still
instance : Onward (read : Parser Source) := .still fun _ _ _ _ h => by cases h; exact ⟨rfl, rfl⟩
instance (e : ParseError) : Onward (throw e : Parser α) :=
  .still fun _ _ _ _ h => absurd h not_returns_throw

theorem setVerb_still (verb : String) : Still (setVerb verb) :=
  fun _ _ _ _ h => by cases h; exact ⟨rfl, rfl⟩

instance (verb : String) : Onward (setVerb verb) := .still (setVerb_still verb)
instance (db : Option String) (table : String) : Onward (addTable db table) :=
  .still fun _ _ _ _ h => by cases h; exact ⟨rfl, rfl⟩
instance (table : Option String) (column : String) : Onward (addColumn table column) :=
  .still fun _ _ _ _ h => by cases h; exact ⟨rfl, rfl⟩
instance (aliasName table : String) : Onward (addAlias aliasName table) :=
  .still fun _ _ _ _ h => by cases h; exact ⟨rfl, rfl⟩
instance (name : String) : Onward (addCte name) :=
  .still fun _ _ _ _ h => by cases h; exact ⟨rfl, rfl⟩

theorem Onward.ite {c : Prop} [Decidable c] {p q : Parser α} (hp : Onward p) (hq : Onward q) :
    Onward (if c then p else q) := by
  split
  · exact hp
  · exact hq

/-- A reader in two parts. -/
theorem Onward.parts {p : Parser α} {f : α → Parser β} [hp : Onward p] [hf : ∀ x, Onward (f x)] :
    Onward (p >>= f) :=
  .seq hp hf

instance {p : Parser α} {f : α → Parser β} [Onward p] [∀ x, Onward (f x)] :
    Onward (p >>= f) := .parts

instance {c : Prop} [Decidable c] {p q : Parser α} [hp : Onward p] [hq : Onward q] :
    Onward (if c then p else q) :=
  .ite hp hq

/-! ## Single tokens -/

instance (mark : Symbol) : Onward (isAt mark) := .still (isAt_asks mark).still
instance (word : Keyword) : Onward (isAtKeyword word) := .still (isAtKeyword_asks word).still
instance (word : String) : Onward (isAtWord word) := .still (isAtWord_asks word).still
instance (words : List String) : Onward (isAtAnyWord words) := .still (isAtAnyWord_asks words).still
instance : Onward isAtQuery := .still isAtQuery_asks.still
instance : Onward isAtParenthesisOrEnd := .still isAtParenthesisOrEnd_asks.still
instance (check : Parser Bool) [Onward check] : Onward (takeIf check) := .parts
instance (mark : Symbol) : Onward (eat mark) := inferInstanceAs (Onward (takeIf _))
instance (word : Keyword) : Onward (eatKeyword word) := inferInstanceAs (Onward (takeIf _))
instance (word : String) : Onward (eatWord word) := inferInstanceAs (Onward (takeIf _))
instance (mark : Symbol) : Onward (expect mark) := .parts
instance (word : Keyword) : Onward (expectKeyword word) := .parts
instance (words : List String) : Onward (expectWord words) := .parts

theorem TakesOn.takeIf {check : Parser Bool} {b : TokenKind → Bool} (h : Asks check b)
    (heof : b .eof = false) :
    TakesOn P (· = true) (takeIf check) := by
  refine .asks h fun x => .ite (fun hx => .seq (.advance fun k hk he => ?_) fun _ => inferInstance)
    fun _ => ?_
  · rw [he, heof] at hk
    exact Bool.false_ne_true (hk.2.trans hx)
  · exact .pure Bool.false_ne_true

theorem TakesOn.eat (mark : Symbol) : TakesOn P (· = true) (eat mark) :=
  .takeIf (isAt_asks mark) rfl

theorem TakesOn.eatKeyword (word : Keyword) : TakesOn P (· = true) (eatKeyword word) :=
  .takeIf (isAtKeyword_asks word) rfl

/-- What is expected is taken. -/
theorem TakesOn.expected {check : Parser Bool} {what : String} {v : Unit → Prop}
    (h : TakesOn P (· = true) check) :
    TakesOn P v (check >>= fun b => if b = true then Pure.pure () else Parser.unexpected what) := by
  intro src s x t hs hk hr _
  obtain ⟨b, u, hb, hr⟩ := Returns.bind hr
  cases b with
  | false => exact absurd hr not_returns_unexpected
  | true =>
    obtain ⟨-, rfl⟩ := Returns.pure hr
    exact h _ _ _ _ hs hk hb rfl

theorem TakesOn.expectKeyword (word : Keyword) {v : Unit → Prop} :
    TakesOn P v (expectKeyword word) :=
  .expected (.eatKeyword word)

instance : Onward identifier := by
  refine .seq inferInstance fun k => ?_
  cases k
  case identifier => exact .parts
  case quotedIdentifier => exact .parts
  case keyword => exact .ite .parts inferInstance
  all_goals exact inferInstanceAs (Onward (unexpected _))

theorem TakesOn.identifier {v : String → Prop} : TakesOn P v identifier := by
  refine .look fun k _ => ?_
  cases k
  case identifier => exact .seq (.advance (by rintro _ rfl; nofun)) fun _ => inferInstance
  case quotedIdentifier => exact .seq (.advance (by rintro _ rfl; nofun)) fun _ => inferInstance
  case keyword =>
    refine .ite (fun _ => .still currentText_still fun _ => ?_) fun _ => .unexpected
    exact .seq (.advance (by rintro _ rfl; nofun)) fun _ => inferInstance
  all_goals exact .unexpected

theorem Entering.withVerb {p q : Parser α} (h : Entering P m p q) (verb : String) :
    Entering P m (withVerb verb p) (withVerb verb q) :=
  .still get_still fun _ => .still (setVerb_still verb) fun _ => h.andThen fun _ => .refl

/-! ## Lists -/

section Lists

variable {start : Parser Bool} [Onward start] {item item' : Parser α}

theorem SameOn.manyWithin (h : Same m item item') (n : Nat) :
    Same m (manyWithin start item n) (manyWithin start item' n) := by
  induction n with
  | zero => exact .outOfRounds
  | succ n ih => exact .bind fun _ => .ite (.andThen h fun _ => .andThen ih fun _ => .refl) .refl

theorem SameOn.many (h : Same m item item') : Same m (many start item) (many start item') :=
  .bind fun n => .manyWithin h n

theorem SameOn.commaSeparated (h : Same m item item') :
    Same m (commaSeparated item) (commaSeparated item') :=
  .andThen h fun _ => .andThen (.many h) fun _ => .refl

instance [Onward item] (n : Nat) : Onward (manyWithin start item n) :=
  (SameOn.manyWithin (m := 0) .refl n).left
instance [Onward item] : Onward (many start item) := .parts
instance [Onward item] : Onward (commaSeparated item) := .parts

end Lists

instance : Onward dottedName := .parts
instance : Onward parenthesizedNames := .parts

instance (stop : Parser Bool) [Onward stop] (n : Nat) : Onward (skipWithin stop n) := by
  induction n with
  | zero => exact inferInstanceAs (Onward outOfRounds)
  | succ n ih => exact .seq inferInstance fun _ => .ite inferInstance .parts

instance (span : Span) : Onward (sliceOf span) := .parts
instance (p : Parser Unit) [Onward p] : Onward (written p) := .parts
instance : Onward textToParenthesis := inferInstanceAs (Onward (written _))

/-! ## Clauses and types -/

instance : Onward alias? := by
  refine .seq inferInstance fun _ =>
    .ite (.seq inferInstance fun k => ?_) (.seq inferInstance fun k => ?_)
  · cases k
    case string => exact .parts
    case doubleQuoted => exact .parts
    all_goals exact inferInstanceAs (Onward (identifier >>= _))
  · cases k
    case identifier => exact .ite .parts inferInstance
    case quotedIdentifier => exact .parts
    case doubleQuoted => exact .parts
    all_goals exact .still (pure_still none)

instance : Onward Nested.direction? := .parts
instance : Onward Nested.nulls? := .parts
instance : Onward Nested.frame? := .parts
instance : Onward Nested.searchMode? := .parts

instance : Onward typeName := by
  refine .seq inferInstance fun k => ?_
  cases k
  case identifier => exact .parts
  case keyword => exact .parts
  case quotedIdentifier => exact .parts
  all_goals exact inferInstanceAs (Onward (unexpected _))

theorem TakesOn.typeName {v : String → Prop} : TakesOn P v typeName := by
  refine .look fun k _ => ?_
  cases k
  case quotedIdentifier => exact .seq (.advance (by rintro _ rfl; nofun)) fun _ => inferInstance
  case identifier =>
    exact .still currentText_still fun _ => .seq (.advance (by rintro _ rfl; nofun)) fun _ =>
      inferInstance
  case keyword =>
    exact .still currentText_still fun _ => .seq (.advance (by rintro _ rfl; nofun)) fun _ =>
      inferInstance
  all_goals exact .unexpected

instance (name : String) (pairs : List (String × String)) : Onward (secondWord name pairs) := by
  induction pairs generalizing name with
  | nil => exact .still (pure_still name)
  | cons pair more ih =>
    exact .seq inferInstance fun _ => .ite (.seq inferInstance fun _ => .parts) (ih _)

instance (text : String) : Onward (typeSize text) := by
  refine .seq inferInstance fun _ => .seq inferInstance fun _ =>
    .ite (.seq inferInstance fun k => ?_) inferInstance
  cases k <;> exact .parts

instance : Onward Nested.bracketPair := .parts
instance : Onward Nested.suffixWord := .parts

instance (n : Nat) : Onward (Nested.suffixWords n) := by
  induction n with
  | zero => exact inferInstanceAs (Onward outOfRounds)
  | succ n ih =>
    refine .seq inferInstance fun word => ?_
    cases word with
    | none => exact .still (pure_still [])
    | some word => exact .parts

/-! ## Names and operators -/

instance (qualifiers : List String) (column : Option String) :
    Onward (columnOf qualifiers column) := .parts

instance (n : Nat) : Onward (pathTail n) := by
  induction n with
  | zero => exact inferInstanceAs (Onward outOfRounds)
  | succ n ih =>
    exact .seq inferInstance fun _ =>
      .ite (.seq inferInstance fun _ => .ite inferInstance .parts) inferInstance

instance : Onward Nested.operatorText? := by
  refine .seq inferInstance fun k => ?_
  cases k
  case symbol mark =>
    cases mark
    case notEq => exact .parts
    all_goals exact .still (pure_still _)
  all_goals exact .still (pure_still _)

/-! ## Tables -/

instance (parts : List String) : Onward (tableOf parts) := .parts
instance : Onward tableName := .parts

instance : Onward setOperator? := by
  refine .seq inferInstance fun k => ?_
  cases setWord? k with
  | none => exact .still (pure_still none)
  | some operator => exact .parts

instance : Onward joinSide := by
  refine .seq inferInstance fun _ =>
    .ite inferInstance (.seq inferInstance fun _ => .ite inferInstance ?_)
  refine .seq inferInstance fun k => ?_
  cases sideWord? k with
  | none => exact .still (pure_still [])
  | some side => exact .parts

instance : Onward join? := .parts
instance : Onward Nested.selectDistinct := .parts

/-! ## Readers that do the same further on -/

/-- The readers of what nests do the same wherever fewer than `m` tokens are left. -/
structure Nested.Agree (m : Nat) (i j : Nested) : Prop where
  expr : ∀ least, Same m (i.expr least) (j.expr least)
  operand : Same m i.operand j.operand
  primary : Same m i.primary j.primary
  query : Same m i.query j.query
  dataType : Same m i.dataType j.dataType

/-- All that nests goes onward. -/
structure Nested.Onward (i : Nested) : Prop where
  expr : ∀ least, Parser.Onward (i.expr least)
  operand : Parser.Onward i.operand
  primary : Parser.Onward i.primary
  query : Parser.Onward i.query
  dataType : Parser.Onward i.dataType

namespace Nested

variable {i j : Nested}

theorem Onward.agree (h : i.Onward) (m : Nat) : i.Agree m i where
  expr least := @SameOn.refl _ _ _ _ (h.expr least)
  operand := @SameOn.refl _ _ _ _ h.operand
  primary := @SameOn.refl _ _ _ _ h.primary
  query := @SameOn.refl _ _ _ _ h.query
  dataType := @SameOn.refl _ _ _ _ h.dataType

namespace Agree

theorem left (h : i.Agree m j) : i.Onward :=
  ⟨fun least => (h.expr least).left, h.operand.left, h.primary.left, h.query.left, h.dataType.left⟩

theorem right (h : i.Agree m j) : j.Onward :=
  ⟨fun least => (h.expr least).right, h.operand.right, h.primary.right, h.query.right,
    h.dataType.right⟩

variable (h : i.Agree m j)
include h

/-! ## Clauses -/

theorem exprs : Same m i.exprs j.exprs := .commaSeparated (h.expr 0)

theorem exprsUpTo (closing : Symbol) : Same m (i.exprsUpTo closing) (j.exprsUpTo closing) :=
  .bind fun _ => .ite .refl (.andThen h.exprs fun _ => .refl)

theorem parenthesizedQuery : Same m i.parenthesizedQuery j.parenthesizedQuery :=
  .andThen h.query fun _ => .refl

theorem orderItem : Same m i.orderItem j.orderItem := .andThen (h.expr 0) fun _ => .refl

theorem orderBy? : Same m i.orderBy? j.orderBy? :=
  .bind fun _ => .ite (.bind fun _ => .andThen (.commaSeparated h.orderItem) fun _ => .refl) .refl

theorem partitionBy? : Same m i.partitionBy? j.partitionBy? :=
  .bind fun _ => .ite (.bind fun _ => .andThen h.exprs fun _ => .refl) .refl

theorem windowSpec : Same m i.windowSpec j.windowSpec := by
  refine .bind fun k => ?_
  cases k
  case identifier => exact .refl
  all_goals exact .bind fun _ => .andThen h.partitionBy? fun _ => .andThen h.orderBy? fun _ => .refl

theorem over? : Same m i.over? j.over? :=
  .bind fun _ => .ite (.andThen h.windowSpec fun _ => .refl) .refl

/-! ## Types -/

theorem typeArgument : Same m i.typeArgument j.typeArgument := by
  refine .bind fun _ => .bind fun _ =>
    .ite (.bind fun _ => .andThen h.dataType fun _ => .refl) (.bind fun k => ?_)
  cases k
  case string => exact .refl
  all_goals exact .andThen h.dataType fun _ => .refl

theorem typeArguments (t : DataType Expr) : Same m (i.typeArguments t) (j.typeArguments t) := by
  refine .bind fun _ => .ite (.bind fun k => ?_) .refl
  cases k
  case number => exact .bind fun (_, _) => .refl
  all_goals exact .andThen (.commaSeparated h.typeArgument) fun _ => .refl

theorem readDataType : Entering P m i.readDataType j.readDataType :=
  .past .typeName fun _ => .bind fun _ => .andThen (h.typeArguments _) fun _ => .refl

/-! ## Operands -/

theorem separator? : Same m i.separator? j.separator? :=
  .bind fun _ => .ite (.andThen h.primary fun _ => .refl) .refl

theorem aggregateCall (name : String) : Same m (i.aggregateCall name) (j.aggregateCall name) :=
  .bind fun _ => .andThen h.exprs fun _ => .andThen h.orderBy? fun _ =>
    .andThen h.separator? fun _ =>
    .bind fun _ => .andThen h.over? fun _ => .refl

theorem plainCall (name : String) : Same m (i.plainCall name) (j.plainCall name) := by
  refine .andThen (h.exprsUpTo _) fun args => .andThen h.over? fun window => ?_
  cases window with
  | some w => exact .ite .refl .refl
  | none =>
    match args with
    | [] => exact .refl
    | [e] => exact .ite .refl .refl
    | _ :: _ :: _ => exact .refl

theorem callOf (name : String) : Same m (i.callOf name) (j.callOf name) :=
  .bind fun _ => .bind fun _ => .ite (h.aggregateCall name) (h.plainCall name)

theorem mapLiteral (keyword : String) : Same m (i.mapLiteral keyword) (j.mapLiteral keyword) :=
  .bind fun _ => .bind fun _ => .andThen (h.exprsUpTo _) fun _ => .refl

theorem path (first : String) : Same m (i.path first) (j.path first) :=
  .bind fun _ => .bind fun (_, _) => .ite .refl (.bind fun _ => .ite (h.callOf _) .refl)

theorem nameExpr : Entering P m i.nameExpr j.nameExpr := by
  refine .still kind_still fun _ => .past .identifier fun name =>
    .ite (h.path name) (.bind fun _ => ?_)
  refine .ite (h.callOf name) (.ite .refl
    (.bind fun _ => .ite (.ite ?array (.ite (h.mapLiteral name) ?path)) ?path))
  case array => exact .bind fun _ => .andThen (h.exprsUpTo _) fun _ => .refl
  case path => exact h.path name

theorem parenthesizedExpr : Same m i.parenthesizedExpr j.parenthesizedExpr :=
  .bind fun _ => .ite (.andThen h.parenthesizedQuery fun _ => .refl)
    (.andThen (h.expr 0) fun _ => .andThen (.many (h.expr 0)) fun _ => .refl)

theorem caseArm : Same m i.caseArm j.caseArm :=
  .andThen (h.expr 0) fun _ => .bind fun _ => .andThen (h.expr 0) fun _ => .refl

theorem caseExpr : Same m i.caseExpr j.caseExpr := by
  refine .bind fun _ => .ite (.bind ?arms) (.andThen (h.expr 0) fun _ => .bind ?arms)
  exact fun _ => .andThen (.many h.caseArm) fun _ => .ite .refl
    (.bind fun _ => .ite (.andThen (h.expr 0) fun _ => .refl) .refl)

theorem castExpr : Same m i.castExpr j.castExpr :=
  .bind fun _ => .andThen (h.expr 0) fun _ => .bind fun _ => .andThen h.dataType fun _ => .refl

theorem existsExpr : Same m i.existsExpr j.existsExpr :=
  .bind fun _ => .andThen h.parenthesizedQuery fun _ => .refl

theorem intervalExpr : Same m i.intervalExpr j.intervalExpr := by
  refine .andThen h.operand fun _ => .bind fun k => ?_
  cases k
  case identifier => exact .refl
  all_goals exact .pure _

theorem extractExpr : Same m i.extractExpr j.extractExpr :=
  .bind fun _ => .bind fun _ => .bind fun _ => .andThen (h.expr 0) fun _ => .refl

theorem matchColumn : Same m i.matchColumn j.matchColumn := by
  refine .andThen (h.nameExpr.same.mono (Nat.le_succ m) fun _ => id) fun e => ?_
  cases e.node
  case column => exact .refl
  all_goals exact .unexpected

theorem fullTextSearch : Same m i.fullTextSearch j.fullTextSearch :=
  .bind fun _ => .andThen (.commaSeparated h.matchColumn) fun _ => .bind fun _ => .bind fun _ =>
    .bind fun _ =>
    .andThen h.operand fun _ => .refl

theorem structField : Same m i.structField j.structField :=
  .andThen h.primary fun _ => .bind fun _ => .andThen (h.expr 0) fun _ => .refl

theorem structFields (n : Nat) : Same m (i.structFields n) (j.structFields n) := by
  induction n with
  | zero => exact .outOfRounds
  | succ n ih =>
    refine .bind fun _ => .ite .refl (.andThen h.structField fun _ => .bind fun _ => ?_)
    exact .ite (.andThen ih fun _ => .refl) .refl

theorem structLiteral : Same m i.structLiteral j.structLiteral :=
  .bind fun n => .andThen (h.structFields n) fun _ => .refl

/-! ## Operators -/

theorem subscript : Same m i.subscript j.subscript := .andThen (h.expr 0) fun _ => .refl

theorem postfixForm (left : Expr) : Same m (i.postfixForm left) (j.postfixForm left) :=
  .bind fun _ => .ite (.andThen h.dataType fun _ => .refl)
    (.bind fun _ => .ite (.andThen (.many h.subscript) fun _ => .refl) .refl)

theorem membership : Same m i.membership j.membership :=
  .bind fun _ => .bind fun _ => .ite (.andThen h.query fun _ => .refl)
    (.andThen h.exprs fun _ => .refl)

theorem range (power : Nat) : Same m (i.range power) (j.range power) :=
  .andThen (h.expr power) fun _ => .bind fun _ => .andThen (h.expr power) fun _ => .refl

theorem predicate (left : Expr) (negation : String) (power : Nat) :
    Same m (i.predicate left negation power) (j.predicate left negation power) := by
  refine .bind fun _ => .ite (.andThen h.membership fun _ => .refl) ?_
  refine .bind fun _ => .ite (.andThen (h.range power) fun _ => .refl) (.bind fun k => ?_)
  cases Operator.text? k with
  | none => exact .unexpected
  | some operator => exact .bind fun _ => .andThen (h.expr power) fun _ => .refl

theorem operatorForm (left : Expr) (power : Nat) :
    Same m (i.operatorForm left power) (j.operatorForm left power) := by
  refine .bind fun operator => ?_
  cases operator with
  | none => exact .pure _
  | some operator => exact .bind fun _ => .andThen (h.expr power) fun _ => .refl

theorem infixForm (left : Expr) (power : Nat) :
    Same m (i.infixForm left power) (j.infixForm left power) := by
  refine .bind fun k => ?_
  cases k
  case keyword word =>
    cases word
    case IS => exact .bind fun _ => .bind fun _ => .andThen (h.expr power) fun _ => .refl
    case NOT =>
      exact .bind fun _ => .ite (.bind fun _ => .andThen (h.predicate left "NOT " power) fun _ =>
        .refl) .refl
    case IN => exact .andThen (h.predicate left "" power) fun _ => .refl
    case BETWEEN => exact .andThen (h.predicate left "" power) fun _ => .refl
    all_goals exact h.operatorForm left power
  all_goals exact h.operatorForm left power

theorem operators (least n : Nat) (left : Expr) :
    Same m (i.operators least n left) (j.operators least n left) := by
  induction n generalizing left with
  | zero => exact .outOfRounds
  | succ n ih =>
    refine .bind fun k => .ite (.ite .refl (.andThen (h.postfixForm left) ih)) ?_
    cases Operator.power? k with
    | none => exact .pure _
    | some power =>
      refine .ite .refl (.andThen (h.infixForm left (power + 1)) fun e => ?_)
      cases e with
      | none => exact .pure _
      | some e => exact ih e

/-! ## Readers that take a token first -/

theorem wordExpr (word : Keyword) :
    Entering (fun k => P k ∧ k = .keyword word) m (i.wordExpr word) (j.wordExpr word) := by
  refine .still nextKind_still fun _ => .ite ?_ (.ite h.nameExpr ⟨.refl, .unexpected⟩)
  exact .still currentText_still fun _ => .step (by nofun) (h.callOf _)

theorem keywordExpr (word : Keyword) :
    Entering (fun k => P k ∧ k = .keyword word) m (i.keywordExpr word) (j.keywordExpr word) := by
  cases word
  case NULL => exact .step (by nofun) .refl
  case TRUE => exact .step (by nofun) .refl
  case FALSE => exact .step (by nofun) .refl
  case DEFAULT => exact .step (by nofun) .refl
  case CASE => exact .step (by nofun) h.caseExpr
  case CAST => exact .step (by nofun) h.castExpr
  case EXISTS => exact .step (by nofun) h.existsExpr
  case INTERVAL => exact .step (by nofun) h.intervalExpr
  case EXTRACT => exact .step (by nofun) h.extractExpr
  case MATCH => exact .step (by nofun) h.fullTextSearch
  all_goals exact h.wordExpr _

theorem readPrimary : Entering P m i.readPrimary j.readPrimary := by
  refine .look fun k => ?_
  cases k
  case keyword word => exact h.keywordExpr word
  case identifier => exact h.nameExpr
  case quotedIdentifier => exact h.nameExpr
  case symbol mark =>
    cases mark
    case question => exact .step (by nofun) .refl
    case star => exact .step (by nofun) .refl
    case leftParen => exact .step (by nofun) h.parenthesizedExpr
    case leftBracket => exact .step (by nofun) (.andThen (h.exprsUpTo _) fun _ => .refl)
    case leftBrace => exact .step (by nofun) h.structLiteral
    all_goals exact ⟨.unexpected, .unexpected⟩
  case fault => exact ⟨.unexpected, .unexpected⟩
  case eof => exact ⟨.unexpected, .unexpected⟩
  all_goals exact .step (by nofun) .refl

theorem readOperand : Entering P m i.readOperand j.readOperand := by
  refine .look fun k => ?_
  cases hk : Operator.leading? k with
  | none => exact h.readPrimary
  | some leading =>
    refine .step ?_ (.andThen (h.expr _) fun _ => .refl)
    rintro rfl
    cases hk

theorem readExpr (least : Nat) : Entering P m (i.readExpr least) (j.readExpr least) :=
  h.readOperand.andThen fun left => .bind fun n => h.operators least n left

/-! ## Queries -/

theorem column : Same m i.column j.column := .andThen (h.expr 0) fun _ => .refl

theorem columns : Same m i.columns j.columns :=
  .bind fun _ => .ite
    (.bind fun _ => .bind fun _ => .ite (.andThen (.commaSeparated h.column) fun _ => .refl) .refl)
    (.andThen (.commaSeparated h.column) fun _ => .refl)

theorem condition? : Same m i.condition? j.condition? :=
  .bind fun _ => .ite (.andThen (h.expr 0) fun _ => .refl) .refl

theorem tableFactor : Same m i.tableFactor j.tableFactor := by
  refine .bind fun _ => .ite (.andThen h.parenthesizedQuery fun _ => .refl)
    (.bind fun _ => .ite .refl ?_)
  refine .bind fun parts => .bind fun _ => .ite (.andThen (h.callOf _) fun _ => .refl) ?_
  refine .bind fun table => .bind fun aliasName => ?_
  split <;> exact .refl

theorem joinedTable (join : String) : Same m (i.joinedTable join) (j.joinedTable join) :=
  .andThen h.tableFactor fun _ => .bind fun _ => .ite (.andThen (h.expr 0) fun _ => .refl) .refl

theorem moreTables (n : Nat) : Same m (i.moreTables n) (j.moreTables n) := by
  induction n with
  | zero => exact .outOfRounds
  | succ n ih =>
    refine .bind fun _ => .ite (.andThen h.tableFactor fun _ => .andThen ih fun _ => .refl)
      (.bind fun join => ?_)
    cases join with
    | none => exact .pure _
    | some join => exact .andThen (h.joinedTable join) fun _ => .andThen ih fun _ => .refl

theorem tableList : Same m i.tableList j.tableList :=
  .andThen h.tableFactor fun _ => .bind fun n => .andThen (h.moreTables n) fun _ => .refl

theorem tables? : Same m i.tables? j.tables? :=
  .bind fun _ => .ite (.andThen h.tableList fun _ => .refl) .refl

theorem groupBy? : Same m i.groupBy? j.groupBy? :=
  .bind fun _ => .ite (.bind fun _ => .andThen h.exprs fun _ => .refl) .refl

theorem having? : Same m i.having? j.having? :=
  .bind fun _ => .ite (.andThen (h.expr 0) fun _ => .refl) .refl

theorem namedWindow : Same m i.namedWindow j.namedWindow :=
  .bind fun _ => .bind fun _ => .andThen h.windowSpec fun _ => .refl

theorem windows? : Same m i.windows? j.windows? :=
  .bind fun _ => .ite (.andThen (.commaSeparated h.namedWindow) fun _ => .refl) .refl

theorem fetch : Same m i.fetch j.fetch := by
  refine .bind fun _ => .andThen (h.expr 0) fun _ => .bind fun _ => .ite (.bind ?rows) (.bind ?rows)
  exact fun _ => .bind fun _ => .bind fun _ => .ite .refl .refl

theorem limitAfterWord : Same m i.limitAfterWord j.limitAfterWord :=
  .andThen (h.expr 0) fun _ => .bind fun _ => .ite (.andThen (h.expr 0) fun _ => .refl)
    (.bind fun _ => .ite (.andThen (h.expr 0) fun _ => .refl) .refl)

theorem offsetAfterWord : Same m i.offsetAfterWord j.offsetAfterWord :=
  .andThen (h.expr 0) fun _ => .bind fun _ => .bind fun _ =>
    .ite (.andThen h.fetch fun (_, _) => .refl) .refl

theorem limit? : Same m i.limit? j.limit? :=
  .bind fun _ => .ite (.andThen h.limitAfterWord fun _ => .refl) (.bind fun _ => .ite
    (.andThen h.offsetAfterWord fun _ => .refl)
      (.bind fun _ => .ite (.andThen h.fetch fun (_, _) => .refl) .refl))

theorem returning? : Same m i.returning? j.returning? :=
  .bind fun _ => .bind fun _ => .ite (.bind fun _ => .andThen h.columns fun _ => .refl) .refl

theorem cte (recursive : Bool) : Same m (i.cte recursive) (j.cte recursive) := by
  refine .bind fun _ => .bind fun _ => .bind fun _ =>
    .ite (.bind fun _ => .bind ?body) (.bind ?body)
  exact fun _ => .bind fun _ => .bind fun _ => .andThen h.parenthesizedQuery fun _ => .refl

theorem withClause : Entering P m i.withClause j.withClause :=
  .past (.expectKeyword .WITH) fun _ => .bind fun recursive => .commaSeparated (h.cte recursive)

theorem selectCore (withs : Option (List (Cte Expr))) :
    Entering P m (i.selectCore withs) (j.selectCore withs) :=
  .past (.expectKeyword .SELECT) fun _ => .bind fun _ => .andThen h.columns fun _ =>
    .andThen h.tables? fun _ => .andThen h.condition? fun _ => .andThen h.groupBy? fun _ =>
    .andThen h.having? fun _ => .andThen h.windows? fun _ => .andThen h.orderBy? fun _ =>
    .andThen h.limit? fun _ => .refl

theorem selectChain (withs : Option (List (Cte Expr))) :
    Entering P m (i.selectChain withs) (j.selectChain withs) := by
  refine (h.selectCore withs).andThen fun _ => .bind fun operator => ?_
  cases operator with
  | none => exact .refl
  | some operator => exact .andThen h.query fun _ => .refl

theorem setChain : Entering P m i.setChain j.setChain := by
  refine .still (isAtKeyword_asks .WITH).still fun _ =>
    .ite ?_ (.still (pure_still none) fun _ => h.selectChain _)
  exact h.withClause.andThen fun _ => .bind fun withs =>
    (h.selectChain withs).same.mono (Nat.le_succ m) fun _ => id

theorem readQuery : Entering P m i.readQuery j.readQuery := h.setChain.withVerb "select"

end Agree

/-! ## Nesting -/

/-- The readers around those of what nests. -/
def around (i : Nested) : Nested where
  expr := i.readExpr
  operand := i.readOperand
  primary := i.readPrimary
  query := i.readQuery
  dataType := i.readDataType

theorem nested_succ (n : Nat) : nested (n + 1) = (nested n).around := rfl

/-- What nests is asked for at later tokens only: where that does the same, so do the readers around
it from one token before. -/
theorem Agree.around (h : i.Agree m j) : i.around.Agree (m + 1) j.around where
  expr least := (h.readExpr least).same
  operand := h.readOperand.same
  primary := h.readPrimary.same
  query := h.readQuery.same
  dataType := h.readDataType.same

/-- Where as many readers nest as there are tokens, it makes no difference what would nest in
them. -/
theorem Agree.iterate_around (h : i.Agree 0 j) (n : Nat) :
    (Nested.around^[n] i).Agree n (Nested.around^[n] j) := by
  induction n with
  | zero => exact h
  | succ n ih =>
    rw [Function.iterate_succ_apply', Function.iterate_succ_apply']
    exact ih.around

end Nested

end SqlWeave.Parser
