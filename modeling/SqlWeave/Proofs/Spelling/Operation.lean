import SqlWeave.Proofs.Spelling.Compound
import SqlWeave.Proofs.Tree.Precedence

/-! Expressions made of an operator and its operands. -/

namespace SqlWeave

open Token (Piece Lexes Quoting)
open SqlWeave.Parser (Nested Reads nested next)
open Render (Result Item commas inParens)

variable {r : Renderer} {e left right operand : Expr} {operator text : String} {power : Nat}
  {ks : List Piece}

/-! ## What an operation starts and ends with -/

theorem Expr.leading?_unary : (Expr.unary operator operand).leading? = some operator := by
  unfold Expr.leading? Expr.unary
  rw [Expr.fold_mk]
  rfl

theorem Expr.leading?_binary : (left.binary operator right).leading? = left.leading? := by
  unfold Expr.leading? Expr.binary
  rw [Expr.fold_mk]
  rfl

theorem Expr.yields_unary (power : Nat) : (Expr.unary operator operand).yields power =
    ((Operator.beforeOperand.lookup operator).all (power < ·) && operand.yields power) := by
  unfold Expr.yields Expr.unary
  rw [Expr.fold_mk]
  rfl

theorem Expr.yields_binary (power : Nat) : (left.binary operator right).yields power =
    (decide (power ≤ Operator.level operator) && right.yields power) := by
  unfold Expr.yields Expr.binary
  rw [Expr.fold_mk]
  rfl

theorem lookup_beforeOperand (h : (operator, power) ∈ Operator.beforeOperand) :
    Operator.beforeOperand.lookup operator = some power := by
  have hall : ∀ o ∈ Operator.beforeOperand, Operator.beforeOperand.lookup o.1 =
      some o.2 := by decide
  exact hall _ h

/-! ## Operators in front -/

theorem unary_leaves (hoperator : (operator, power) ∈ Operator.beforeOperand) {k : TokenKind}
    (h : (Expr.unary operator operand).leaves k = true) :
    operand.leaves k = true ∧ (Operator.power? k).all (· < power) = true := by
  simp only [Expr.leaves, Bool.and_eq_true] at h ⊢
  cases hk : Operator.power? k with
  | none => exact ⟨⟨h.1, rfl⟩, rfl⟩
  | some p =>
    have hyields := h.2
    rw [hk, Option.all_some, Expr.yields_unary, lookup_beforeOperand hoperator] at hyields
    simp only [Option.all_some, Bool.and_eq_true] at hyields
    exact ⟨⟨h.1, hyields.2⟩, hyields.1⟩

theorem Renderer.expr_unary (r : Renderer) : r.expr (.unary operator operand) = (do
    return Render.operatorText operator ++
      (if Render.tightOperators.contains (Render.operatorText operator) then "" else " ") ++
        (← r.expr operand)) := by
  rw [Expr.unary, r.expr_mk]
  exact bind_pure _

theorem unary_rendered {text : String} (htext : Render.operatorText operator = operator)
    (h : r.expr operand = .ok text) :
    r.expr (.unary operator operand) =
      .ok (operator ++ (if Render.tightOperators.contains operator then "" else " ") ++ text) := by
  rw [r.expr_unary, htext, h]
  rfl

theorem unary_continues {k : Piece} (hoperator : (operator, power) ∈ Operator.beforeOperand)
    (hk : Operator.leading? k.kind = some (operator, power)) (htight : operand.leads power = true)
    (h : Continues operand ks) : Continues (.unary operator operand) (k :: ks) := by
  refine .operand fun n hn rest hrest => ?_
  obtain ⟨hleaves, hweak⟩ := unary_leaves hoperator hrest
  rw [List.length_cons] at hn
  refine .look ?_
  rw [List.cons_append, Parser.next_cons, hk]
  exact .step ((h.reads (by omega) htight hleaves hweak).bind (.pure _))

theorem Spelled.sign {c : Char} {mark : Symbol} (hmark : (c, mark) ∈ Token.leadingSigns)
    (hoperator : (String.singleton c, power) ∈ Operator.beforeOperand)
    (hk : Operator.leading? (.symbol mark) = some (String.singleton c, power))
    (htext : Render.operatorText (String.singleton c) = String.singleton c ∧
      Render.tightOperators.contains (String.singleton c) = true ∧ c ≠ '=' ∧
        opensExpr (.symbol mark) = true)
    (h : Spelled r operand text ks) (htight : operand.leads power = true)
    (hdash : c = '-' → operand.leading? ≠ some "-") :
    Spelled r (.unary (String.singleton c) operand) (String.singleton c ++ text)
      (⟨.symbol mark, String.singleton c⟩ :: ks) := by
  obtain ⟨htext, hcontains, heq, hopens⟩ := htext
  refine ⟨?_, ?_, hopens, ?_, (fun h => by cases h),
    unary_continues hoperator hk htight h.continues⟩
  · rw [unary_rendered htext h.rendered, hcontains, if_pos rfl, String.append_empty]
  · obtain ⟨first, cs, hcs, hfirst, hminus⟩ := h.first
    exact h.lexes.tight hmark hcs hfirst fun hc hdash' => hdash hc (hminus hdash')
  · refine ⟨c, text.toList, by simp, heq, ?_⟩
    rintro rfl
    exact Expr.leading?_unary

theorem Spelled.negation (h : Spelled r operand text ks)
    (htight : operand.leads Operator.notPower = true) :
    Spelled r (.unary "NOT" operand) ("NOT" ++ " " ++ text) (.word .NOT :: ks) where
  rendered := by
    have htext : Render.operatorText "NOT" = "NOT" := by decide
    rw [unary_rendered htext h.rendered]
    rfl
  lexes := Lexes.spaced (.keyword .NOT) h.lexes
  opens := rfl
  first := ⟨'N', "OT ".toList ++ text.toList, by simp, by decide, fun h => by cases h⟩
  negates := fun _ => Expr.leading?_unary
  continues := unary_continues (by decide) rfl htight h.continues

theorem Spelled.unary (hoperator : (operator, power) ∈ Operator.beforeOperand)
    (h : ∃ text ks, Spelled r operand text ks) (htight : operand.leads power = true)
    (hdash : operator = "-" → operand.leading? ≠ some "-") :
    ∃ text ks, Spelled r (.unary operator operand) text ks := by
  obtain ⟨text, ks, hspelled⟩ := h
  have hmem := hoperator
  simp only [Operator.beforeOperand, List.mem_cons, Prod.mk.injEq, List.not_mem_nil,
    or_false] at hmem
  rcases hmem with ⟨rfl, rfl⟩ | ⟨rfl, rfl⟩ | ⟨rfl, rfl⟩ | ⟨rfl, rfl⟩ | ⟨rfl, rfl⟩
  · exact ⟨_, _, @Spelled.sign _ _ _ _ _ '-' .minus (by decide) hoperator rfl (by decide)
      hspelled htight
      fun _ => hdash rfl⟩
  · exact ⟨_, _, @Spelled.sign _ _ _ _ _ '+' .plus (by decide) hoperator rfl (by decide)
      hspelled htight
      fun h => by cases h⟩
  · exact ⟨_, _, @Spelled.sign _ _ _ _ _ '~' .bitNot (by decide) hoperator rfl (by decide)
      hspelled htight
      fun h => by cases h⟩
  · exact ⟨_, _, @Spelled.sign _ _ _ _ _ '!' .bang (by decide) hoperator rfl (by decide)
      hspelled htight
      fun h => by cases h⟩
  · exact ⟨_, _, hspelled.negation htight⟩

/-! ## Operators between operands -/

theorem Renderer.expr_binary (r : Renderer) : r.expr (left.binary operator right) = (do
    let tl ← r.expr left
    let tr ← Render.rightSide (Render.operatorText operator) (r.item right)
    return tl ++ " " ++ Render.operatorText operator ++ " " ++ tr) := by
  rw [Expr.binary, r.expr_mk]
  exact bind_pure _

theorem binary_rendered {tl tr : String} (htext : Render.operatorText operator = operator)
    (hl : r.expr left = .ok tl) (hr : Render.rightSide operator (r.item right) = .ok tr) :
    r.expr (left.binary operator right) = .ok (tl ++ " " ++ operator ++ " " ++ tr) := by
  rw [r.expr_binary, htext, hl, hr]
  rfl

/-- A left side, an operator, and what is written and read behind it. -/
theorem Spelled.between {tl tr : String} {kl ko kr : List Piece} (hl : Spelled r left tl kl)
    (hrendered : r.expr (left.binary operator right) = .ok (tl ++ " " ++ operator ++ " " ++ tr))
    (hoperator : Lexes r.config.dialect.quoting operator ko) (hsome : ko ≠ [])
    (hends : endsOperand (next ko) = true) (hpower : Operator.power? (next ko) = some power)
    (hlevel : Operator.level operator = power)
    (hr : Lexes r.config.dialect.quoting tr kr) (hleads : left.leads power = true)
    (hyields : left.yields power = true)
    (hform : ∀ n, kr.length < n → ∀ rest, (left.binary operator right).leaves (next rest) = true →
      Reads ((nested n).infixForm left (power + 1)) (ko ++ (kr ++ rest))
        (some (left.binary operator right)) rest) :
    Spelled r (left.binary operator right) (tl ++ " " ++ operator ++ " " ++ tr)
      (kl ++ ko ++ kr) where
  rendered := hrendered
  lexes := (hl.lexes.spaced hoperator).spaced hr
  opens := by
    rw [List.append_assoc, Parser.next_append (ne_nil_of_opens hl.opens)]
    exact hl.opens
  first := by
    obtain ⟨c, cs, hcs, heq, hdash⟩ := hl.first
    refine ⟨c, cs ++ (" " ++ operator ++ " " ++ tr).toList, by simp [hcs], heq, fun hc => ?_⟩
    rw [Expr.leading?_binary]
    exact hdash hc
  negates := by
    rw [List.append_assoc, Parser.next_append (ne_nil_of_opens hl.opens), Expr.leading?_binary]
    exact hl.negates
  continues := by
    refine hl.continues.between hsome hends hpower hleads hyields (fun least hleast => ?_) hform
    rw [Expr.leads_binary, hlevel] at hleast
    exact of_decide_eq_true hleast

/-- Nothing that the operation leaves alone belongs to its last operand. -/
theorem binary_leaves (hlevel : Operator.level operator = power)
    {k : TokenKind} (h : (left.binary operator right).leaves k = true) :
    right.leaves k = true ∧ (Operator.power? k).all (· < power + 1) = true := by
  simp only [Expr.leaves, Bool.and_eq_true] at h ⊢
  cases hk : Operator.power? k with
  | none => exact ⟨⟨h.1, rfl⟩, rfl⟩
  | some p =>
    have hyields := h.2
    rw [hk, Option.all_some, Expr.yields_binary, hlevel] at hyields
    simp only [Bool.and_eq_true, decide_eq_true_eq] at hyields
    exact ⟨⟨h.1, hyields.2⟩, by simpa using Nat.lt_succ_of_le hyields.1⟩

theorem betweenOperands_plain : ∀ o ∈ Operator.betweenOperands, Render.operatorText o.1 = o.1 ∧
    Render.isBetween o.1 = false ∧ Render.isMembership o.1 = false := by
  decide

theorem rightSide_plain (hbetween : Render.isBetween operator = false)
    (hmembership : Render.isMembership operator = false) (i : Item) :
    Render.rightSide operator i = i.sql := by
  unfold Render.rightSide
  split
  · simp [hbetween, hmembership]
  · simp [hmembership]
  · rfl

theorem Spelled.binary (hoperator : (operator, power) ∈ Operator.betweenOperands)
    (hl : ∃ text ks, Spelled r left text ks) (hr : ∃ text ks, Spelled r right text ks)
    (hleads : left.leads power = true) (hyields : left.yields power = true)
    (htight : right.leads (power + 1) = true)
    (hnot : operator = "IS" → right.leading? ≠ some "NOT") :
    ∃ text ks, Spelled r (left.binary operator right) text ks := by
  obtain ⟨tl, kl, hl⟩ := hl
  obtain ⟨tr, kr, hr⟩ := hr
  obtain ⟨ko, hsome, ho⟩ := @IsOperator.of_mem r.config.dialect.quoting _ _ hoperator
  obtain ⟨htext, hbetween, hmembership⟩ := betweenOperands_plain _ hoperator
  have hlevel := Operator.level_infixes _ (List.mem_append_left _ hoperator)
  have hrendered := binary_rendered htext hl.rendered
    ((rightSide_plain hbetween hmembership _).trans hr.rendered)
  refine ⟨_, _, hl.between hrendered ho.lexes hsome ho.ends ho.binds hlevel hr.lexes hleads
    hyields ?_⟩
  intro n hn rest hrest
  obtain ⟨hleaves, hweak⟩ := binary_leaves hlevel hrest
  refine ho.reads _ _ _ _ _ (fun his hnext => hnot his (hr.negates ?_))
    (hr.continues.reads hn htight hleaves hweak)
  rwa [Parser.next_append (ne_nil_of_opens hr.opens)] at hnext

/-! ## IN and BETWEEN -/

/-- The pieces of such a predicate. -/
structure IsPredicate (q : Quoting) (operator : String) (word : Keyword)
    (ko : List Piece) : Prop where
  lexes : Lexes q operator ko
  nonempty : ko ≠ []
  ends : endsOperand (next ko) = true
  binds : Operator.power? (next ko) = some Operator.predicatePower
  reads : ∀ (i : Nested) (left right : Expr) (ks rest : List Piece),
    (∀ negation, Reads (i.predicate left negation (Operator.predicatePower + 1)) (.word word :: ks)
      (left.binary (negation ++ word.spelling) right) rest) →
    Reads (i.infixForm left (Operator.predicatePower + 1)) (ko ++ ks)
      (some (left.binary operator right)) rest

theorem IsPredicate.of {q : Quoting} {word : Keyword} (hword : word = .IN ∨ word = .BETWEEN)
    (hoperator : operator = word.spelling ∨ operator = "NOT " ++ word.spelling) :
    ∃ ko, IsPredicate q operator word ko := by
  rcases hoperator with rfl | rfl
  · refine ⟨[.word word], .keyword word, List.cons_ne_nil _ _, ?_, ?_, ?_⟩
    · rcases hword with rfl | rfl <;> rfl
    · rcases hword with rfl | rfl <;> rfl
    · intro i left right ks rest h
      have hplain := h ""
      rw [String.empty_append] at hplain
      refine .look ?_
      rcases hword with rfl | rfl
      · exact hplain.bind (.pure _)
      · exact hplain.bind (.pure _)
  · refine ⟨[.word .NOT, .word word], ?_, List.cons_ne_nil _ _, rfl, rfl, ?_⟩
    · have hspaced : Lexes q ("NOT" ++ " " ++ word.spelling) ([.word .NOT] ++ [.word word]) :=
        .spaced (.keyword .NOT) (.keyword word)
      rwa [show "NOT" ++ " " = "NOT " from rfl] at hspaced
    · intro i left right ks rest h
      refine .look (.peek ?_)
      rcases hword with rfl | rfl
      · exact .step ((h "NOT ").bind (.pure _))
      · exact .step ((h "NOT ").bind (.pure _))

/-- An expression with a predicate behind it. -/
theorem Spelled.predicate {tl tr : String} {kl kr : List Piece} {word : Keyword}
    (hword : word = .IN ∨ word = .BETWEEN)
    (hoperator : operator = word.spelling ∨ operator = "NOT " ++ word.spelling)
    (hl : Spelled r left tl kl) (hrendered : Render.rightSide operator (r.item right) = .ok tr)
    (hr : Lexes r.config.dialect.quoting tr kr) (hleads : left.leads Operator.predicatePower = true)
    (hyields : left.yields Operator.predicatePower = true)
    (hreads : ∀ n, kr.length < n → ∀ rest, right.leaves (next rest) = true →
      (Operator.power? (next rest)).all (· < Operator.predicatePower + 1) = true → ∀ negation,
      Reads ((nested n).predicate left negation (Operator.predicatePower + 1))
        (.word word :: (kr ++ rest))
        (left.binary (negation ++ word.spelling) right) rest) :
    ∃ text ks, Spelled r (left.binary operator right) text ks := by
  have hfacts : Render.operatorText operator = operator ∧
      Operator.level operator = Operator.predicatePower := by
    rcases hword with rfl | rfl <;> rcases hoperator with rfl | rfl <;> decide
  obtain ⟨ko, ho⟩ := @IsPredicate.of operator r.config.dialect.quoting word hword hoperator
  refine ⟨_, _, hl.between (binary_rendered hfacts.1 hl.rendered hrendered) ho.lexes ho.nonempty
    ho.ends ho.binds
    hfacts.2 hr hleads hyields ?_⟩
  intro n hn rest hrest
  obtain ⟨hleaves, hweak⟩ := binary_leaves hfacts.2 hrest
  exact ho.reads _ _ _ _ _ (hreads n hn rest hleaves hweak)

theorem memberships_cases (h : operator ∈ Operator.memberships) :
    (operator = Keyword.IN.spelling ∨ operator = "NOT " ++ Keyword.IN.spelling) ∧
      Render.isBetween operator = false := by
  simp only [Operator.memberships, List.mem_cons, List.not_mem_nil, or_false] at h
  rcases h with rfl | rfl <;> decide

theorem Spelled.member {items : List Expr} (hoperator : operator ∈ Operator.memberships)
    (hl : ∃ text ks, Spelled r left text ks) (hitems : ∀ e ∈ items, ∃ text ks, Spelled r e text ks)
    (hleads : left.leads Operator.predicatePower = true)
    (hyields : left.yields Operator.predicatePower = true) (hne : items ≠ []) :
    ∃ text ks, Spelled r (left.binary operator (.tuple items)) text ks := by
  obtain ⟨tl, kl, hl⟩ := hl
  obtain ⟨text, ks, hrendered, hopens, hlegible⟩ := Spelled.list hne hitems
  obtain ⟨hcases, hbetween⟩ := memberships_cases hoperator
  refine Spelled.predicate (.inl rfl) hcases hl ?_ hlegible.lexes.inParens hleads hyields ?_
  · have htuple : Render.rightSide operator (r.item (.tuple items)) = r.expr (.tuple items) := by
      show (if Render.isBetween operator && items.length == 2 then _
        else if Render.isMembership operator && !true then _ else _) = _
      rw [hbetween, Bool.false_and, Bool.not_true, Bool.and_false]
      rfl
    exact htuple.trans (tuple_rendered hrendered)
  · intro n hn rest _ _ negation
    simp only [List.length_cons, List.length_append] at hn
    refine .taken (Parser.isAtKeyword_asks .IN) rfl (.bind (x := .tuple items) ?_ (.pure _))
    rw [List.cons_append, List.append_assoc]
    refine (Parser.expect_reads .leftParen "(").bind (.isFalse Parser.isAtQuery_asks ?_ ?_)
    · rw [Parser.next_append (ne_nil_of_opens hopens)]
      exact opensExpr_not_query hopens
    · refine (hlegible.reads n (by omega) _ rfl).bind (.pureBind ?_)
      exact (Parser.expect_reads .rightParen ")").bind (.pure _)

theorem Spelled.memberOf {q : Query Expr} (hoperator : operator ∈ Operator.memberships)
    (hl : ∃ text ks, Spelled r left text ks) (hq : ∃ text ks, q.Spelled r text ks)
    (hleads : left.leads Operator.predicatePower = true)
    (hyields : left.yields Operator.predicatePower = true) :
    ∃ text ks, Spelled r (left.binary operator (.query q.parenthesized)) text ks := by
  obtain ⟨tl, kl, hl⟩ := hl
  obtain ⟨text, ks, hq⟩ := hq
  obtain ⟨hcases, -⟩ := memberships_cases hoperator
  refine Spelled.predicate (.inl rfl) hcases hl ?_ hq.legible.lexes.inParens hleads hyields ?_
  · have hquery : Render.rightSide operator (r.item (.query q.parenthesized)) =
        r.expr (.query q.parenthesized) := by
      show (if Render.isMembership operator && !true then _ else _) = _
      rw [Bool.not_true, Bool.and_false]
      rfl
    exact hquery.trans hq.subquery.rendered
  · intro n hn rest _ _ negation
    simp only [List.length_cons, List.length_append] at hn
    refine .taken (Parser.isAtKeyword_asks .IN) rfl
      (.bind (x := .query q.parenthesized) ?_ (.pure _))
    rw [List.cons_append, List.append_assoc]
    refine (Parser.expect_reads .leftParen "(").bind
      (.isTrue Parser.isAtQuery_asks (hq.opens_append _) ?_)
    exact (hq.legible.reads n (by omega) _ rfl).bind
      (.pureBind ((Parser.expect_reads .rightParen ")").bind (.pure _)))

theorem Expr.yields_pair (low high : Expr) (power : Nat) :
    (Expr.list [low, high]).yields power = high.yields power := by
  unfold Expr.yields Expr.list
  rw [Expr.fold_mk]
  rfl

theorem Spelled.range {low high : Expr} (hoperator : operator ∈ Operator.ranges)
    (hl : ∃ text ks, Spelled r left text ks) (hlow : ∃ text ks, Spelled r low text ks)
    (hhigh : ∃ text ks, Spelled r high text ks) (hleads : left.leads Operator.predicatePower = true)
    (hyields : left.yields Operator.predicatePower = true)
    (hlowTight : low.leads (Operator.predicatePower + 1) = true) (hand : low.yields 3 = true)
    (hhighTight : high.leads (Operator.predicatePower + 1) = true) :
    ∃ text ks, Spelled r (left.binary operator (.list [low, high])) text ks := by
  obtain ⟨tl, kl, hl⟩ := hl
  obtain ⟨text, ks, hlow⟩ := hlow
  obtain ⟨text', ks', hhigh⟩ := hhigh
  have hcases : (operator = Keyword.BETWEEN.spelling ∨
      operator = "NOT " ++ Keyword.BETWEEN.spelling) ∧
      Render.isBetween operator = true := by
    simp only [Operator.ranges, List.mem_cons, List.not_mem_nil, or_false] at hoperator
    rcases hoperator with rfl | rfl <;> decide
  have hlexes : Lexes r.config.dialect.quoting (text ++ " " ++ "AND" ++ " " ++ text') (ks ++
      [.word .AND] ++ ks') :=
    (hlow.lexes.spaced (.keyword .AND)).spaced hhigh.lexes
  refine Spelled.predicate (.inr rfl) hcases.1 hl ?_ hlexes hleads hyields ?_
  · have hmembers : (r.item (.list [low, high])).2.members = .ok [text, text'] := by
      refine (r.members_mk _).trans ?_
      show (do return [← r.expr low, ← r.expr high]) = _
      rw [hlow.rendered, hhigh.rendered]
      rfl
    show (if Render.isBetween operator && [low, high].length == 2 then
      return " AND ".intercalate (← (r.item (.list [low, high])).2.members) else _) = _
    rw [hcases.2, hmembers]
    show Except.ok (text ++ " AND " ++ text') = _
    simp only [String.append_assoc]
    rfl
  · intro n hn rest hrest hweak negation
    simp only [List.length_append, List.length_singleton] at hn
    have hrest' : high.leaves (next rest) = true := by
      rw [Expr.leaves, show (Expr.list [low, high]).yields = high.yields from
        funext (Expr.yields_pair low high)] at hrest
      exact hrest
    have hlowReads : Reads ((nested n).expr (Operator.predicatePower + 1)) (ks ++
        .word .AND :: (ks' ++ rest)) low
        (.word .AND :: (ks' ++ rest)) :=
      hlow.continues.reads (by omega) hlowTight hand rfl
    have hhighReads := hhigh.continues.reads (n := n) (by omega) hhighTight hrest' hweak
    refine .left (Parser.isAtKeyword_asks .IN) rfl
      (.taken (Parser.isAtKeyword_asks .BETWEEN) rfl ?_)
    rw [List.append_assoc, List.append_assoc, List.singleton_append]
    refine .bind (x := .list [low, high]) ?_ (.pure _)
    exact hlowReads.bind ((Parser.expectKeyword_reads .AND).bind (hhighReads.bind (.pure _)))

end SqlWeave
