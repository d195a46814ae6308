import SqlWeave.Proofs.ExprReadBack
import SqlWeave.Proofs.Parser.StatementMakes

/-! Binding powers in the expressions that are read. Every operator has beside it what its binding
power lets stand there. An operator in front takes those behind it that bind as tightly as itself,
too. -/

namespace SqlWeave

open SqlWeave.Parser (parseExpr)

variable {d : Dialect} {text : String} {least : Nat} {e left right operand : Expr}
  {refs : References}
  {front operator : String} {power : Nat}

/-! ## Operators of a tree -/

/-- The operator between two operands, if that is what the expression is, and its sides. -/
def Expr.between? (e : Expr) : Option (String × Expr × Expr) :=
  match e.node with
  | .binary operator left right false => some (operator, left, right)
  | _ => none

theorem Expr.between?_eq_some (h : e.between? = some (operator, left, right)) :
    e = left.binary operator right := by
  obtain ⟨n⟩ := e
  unfold between? at h
  split at h
  · rename_i hn
    cases h
    exact congrArg Expr.mk hn
  · cases h

/-! ## Between two operands -/

/-- In whatever expression is read the operators stand where their binding powers put them. -/
theorem operators_stand (h : parseExpr d text least = .ok (e, refs)) :
    e.leads least = true ∧
      (∀ operator left right parens, e.HasNode (.binary operator left right parens) →
        Operator.Between operator left right) ∧
      ∀ front operand parens, e.HasNode (.unary front operand parens) →
        Operator.Before front operand := by
  obtain ⟨hbuilt, hleads⟩ := Parser.parseExpr_leading h (K := fun _ => True) fun _ _ => trivial
  exact ⟨hleads, fun _ _ _ _ hnode => hbuilt.hasNode hnode, fun _ _ _ hnode => hbuilt.hasNode hnode⟩

/-- Two columns with an operator between them. -/
theorem columns_core {d : Dialect} {operator : String} {power : Nat}
    (h : (operator, power) ∈ Operator.betweenOperands) :
    Phrase.Core d (.expr ((Expr.column "a").binary operator (.column "b"))) :=
  .binary operator power _ _ (.ofName (by decide)) (.ofName (by decide)) h rfl rfl rfl
    fun _ => by decide

/-- Subtraction from the left, with a sign before a product on its right side. -/
def difference : Expr :=
  ((Expr.column "a").binary "-" (.column "b")).binary "-"
    (.unary "+" ((Expr.column "a").binary "*" (.column "b")))

theorem operators_stand_difference : ∃ refs,
    parseExpr .mySql "`a` - `b` - +`a` * `b`" 13 = .ok (difference, refs) ∧
      difference.leads 13 = true ∧
      Operator.Between "-" ((Expr.column "a").binary "-" (.column "b"))
        (.unary "+" ((Expr.column "a").binary "*" (.column "b"))) ∧
      Operator.Before "+" ((Expr.column "a").binary "*" (.column "b")) := by
  have hpowers : ("-", 13) ∈ Operator.betweenOperands ∧
      ("*", 15) ∈ Operator.betweenOperands := by decide
  have hright :
      Phrase.Core .mySql (.expr (.unary "+" ((Expr.column "a").binary "*" (.column "b")))) :=
    .unary "+" 15 _ (columns_core hpowers.2) (by decide) rfl (by decide)
  have hcore : Phrase.Core .mySql (.expr difference) :=
    .binary "-" 13 _ _ (columns_core hpowers.1) hright hpowers.1 rfl rfl rfl (by decide)
  have hnode : difference.HasNode (.unary "+" ((Expr.column "a").binary "*" (.column "b")) false) :=
    .inr ⟨.expr _, .unary "+" _, .here (List.mem_cons_of_mem _ List.mem_cons_self), rfl, rfl⟩
  obtain ⟨text, refs, htext, h⟩ :=
    parseExpr_core (by decide) .strict hcore (show difference.leads 13 = true from rfl)
  cases htext.symm.trans (show _ = Except.ok "`a` - `b` - +`a` * `b`" from rfl)
  obtain ⟨hleads, hbetween, hbefore⟩ := operators_stand h
  exact ⟨refs, h, hleads, hbetween _ _ _ _ (.inl rfl), hbefore _ _ false hnode⟩

/-- What is multiplied is a comparison without parentheses. -/
theorem membership_multiplied : ∃ (left right : Expr) (refs : References),
    parseExpr .mySql "a IN (1) * b" 0 = .ok (left.binary "*" right, refs) ∧
      left.leads (Operator.level "*") = false := by
  obtain ⟨⟨e, refs⟩, h, hbetween⟩ := ok_of_toOption (x := parseExpr .mySql "a IN (1) * b" 0)
    (fun x => x.1.between?.map fun o => (o.1, o.2.1.leads (Operator.level "*")))
      (v := some ("*", false))
    (by decide +kernel)
  obtain ⟨⟨operator, left, right⟩, hsides, hleft⟩ := Option.map_eq_some_iff.mp hbetween
  cases Expr.between?_eq_some hsides
  obtain ⟨rfl, hleads⟩ := Prod.mk.inj hleft
  exact ⟨left, right, refs, h, hleads⟩

/-! ## In front of an operand -/

theorem Renderer.unary_over_left (r : Renderer) :
    r.expr ((Expr.unary front left).binary operator right) =
      r.expr (.unary front (left.binary operator right)) := by
  rw [r.expr_binary, r.expr_unary, r.expr_unary, r.expr_binary]
  cases r.expr left with
  | error _ => rfl
  | ok tl =>
    cases Render.rightSide (Render.operatorText operator) (r.item right) with
    | error _ => rfl
    | ok tr =>
      show Except.ok _ = Except.ok _
      simp only [String.append_assoc]

/-- An operator in front of a core operation that binds as tightly is read as that of the whole,
although the text is that of the operation with the operator in front of its left side. -/
theorem parseExpr_front (hd : d.identifierQuote ≠ .bare) (mode : RenderMode) (least : Nat)
    (hfront : (front, power) ∈ Operator.beforeOperand)
    (hoperator : (operator, power) ∈ Operator.betweenOperands)
    (he : Phrase.Core d (.expr (left.binary operator right)))
    (hdash : front = "-" → left.leading? ≠ some "-") :
    ∃ text refs, ({ config := ⟨d, mode⟩ } : Renderer).expr
      ((Expr.unary front left).binary operator right) = .ok text ∧
      parseExpr d text least = .ok (.unary front (left.binary operator right), refs) := by
  have hleads : (left.binary operator right).leads power = true := by
    rw [Expr.leads_binary, Operator.level_infixes _ (List.mem_append_left _ hoperator)]
    exact decide_eq_true (Nat.le_refl _)
  have hcore : Phrase.Core d (.expr (.unary front (left.binary operator right))) :=
    .unary front power _ he hfront hleads fun h => by rw [Expr.leading?_binary]; exact hdash h
  rw [Renderer.unary_over_left]
  exact parseExpr_core hd mode hcore rfl

/-- What an operator in front of an operation without parentheses may be, by what it stands in front
of. -/
theorem Operator.Before.front_cases (h : Operator.Before front (left.binary operator right)) :
    (front = "NOT" → operator ≠ "OR") ∧
      (front ∈ ["-", "+", "~", "!"] → operator ∈ ["*", "/", "%"]) := by
  constructor
  · rintro rfl rfl
    cases h Operator.notPower rfl
  · intro hfront
    have hsign : Operator.beforeOperand.lookup front = some Operator.signPower := by
      have hall : ∀ sign ∈ ["-", "+", "~", "!"], Operator.beforeOperand.lookup sign =
          some Operator.signPower := by decide
      exact hall _ hfront
    have hlevel : Operator.signPower ≤ Operator.level operator := of_decide_eq_true (h _ hsign)
    have htight : ∀ o ∈ Operator.betweenOperands, Operator.signPower ≤ o.2 →
        o.1 ∈ ["*", "/", "%"] := by decide
    exact htight _ (Operator.betweenOperands_of_level (Nat.lt_of_lt_of_le (by decide) hlevel))
      hlevel

/-- An operator in front never takes an operation that binds less tightly than itself, but it always
takes one of core operands that binds as tightly: NOT takes an AND, and a sign takes a product. -/
theorem front_takes {d : Dialect} :
    (∀ {text : String} {least : Nat} {e : Expr} {refs : References}, parseExpr d text least =
      .ok (e, refs) →
      ∀ front operator (left right : Expr) parens,
        e.HasNode (.unary front (left.binary operator right) parens) →
        (front = "NOT" → operator ≠ "OR") ∧
          (front ∈ ["-", "+", "~", "!"] → operator ∈ ["*", "/", "%"])) ∧
    (d.identifierQuote ≠ .bare →
      ∀ (mode : RenderMode) (least : Nat) {front operator : String} {power : Nat}
      {left right : Expr}, (front, power) ∈ Operator.beforeOperand →
        (operator, power) ∈ Operator.betweenOperands →
      Phrase.Core d (.expr (left.binary operator right)) →
        (front = "-" → left.leading? ≠ some "-") →
      ∃ text refs, ({ config := ⟨d, mode⟩ } : Renderer).expr
        ((Expr.unary front left).binary operator right) = .ok text ∧
        parseExpr d text least = .ok (.unary front (left.binary operator right), refs)) := by
  refine ⟨fun h front operator left right parens hnode => ?_,
    fun hd mode least _ _ _ _ _ hfront hoperator he hdash =>
    parseExpr_front hd mode least hfront hoperator he hdash⟩
  have hbuilt := Parser.parseExpr_built h (K := fun _ => True) fun _ _ => trivial
  exact Operator.Before.front_cases (hbuilt.hasNode hnode)

theorem front_takes_remainder : ∃ refs,
    ({ config := ⟨.hive, .strict⟩ } : Renderer).expr
      ((Expr.unary "~" (.column "a")).binary "%" (.column "b")) =
        .ok "~`a` % `b`" ∧
      parseExpr .hive "~`a` % `b`" 16 =
        .ok (.unary "~" ((Expr.column "a").binary "%" (.column "b")), refs) ∧
      "%" ∈ ["*", "/", "%"] := by
  have hpowers : ("~", 15) ∈ Operator.beforeOperand ∧
      ("%", 15) ∈ Operator.betweenOperands := by decide
  obtain ⟨text, refs, htext, h⟩ :=
    front_takes.2 (by decide) .strict 16 hpowers.1 hpowers.2 (columns_core (d := .hive) hpowers.2)
      (by decide)
  cases htext.symm.trans (show _ = Except.ok "~`a` % `b`" from rfl)
  exact ⟨refs, htext, h, (front_takes.1 h "~" "%" _ _ false (.inl rfl)).2 (by decide)⟩

/-- What is negated is a conjunction without parentheses. -/
theorem conjunction_negated : ∃ refs,
    parseExpr .mySql "NOT `a` AND `b`" 0 =
      .ok (.unary "NOT" ((Expr.column "a").binary "AND" (.column "b")), refs) := by
  have hpowers : ("NOT", 3) ∈ Operator.beforeOperand ∧
      ("AND", 3) ∈ Operator.betweenOperands := by decide
  obtain ⟨text, refs, htext, h⟩ :=
    parseExpr_front (by decide) .strict 0 hpowers.1 hpowers.2 (columns_core (d := .mySql) hpowers.2)
      (by decide)
  cases htext.symm.trans (show _ = Except.ok "NOT `a` AND `b`" from rfl)
  exact ⟨refs, h⟩

end SqlWeave
