import SqlWeave.Proofs.Parser.ExprMakes
import SqlWeave.Proofs.Parser.Lockstep

/-! How operators are read. At every operator that the reader takes, what was read so far may stand
on its left; what it then reads on the right goes up to an operator that may have the whole on its
left. -/

namespace SqlWeave.Parser

variable {K : TokenKind → Prop} {i : Nested} {src : Source} {s t : ParserState}
  {left right e : Expr}
  {operator : String} {power : Nat}

theorem OnText.advance (hs : OnText K src s) : OnText K src s.advance :=
  (Makes.advance.returns hs returns_advance).2

theorem ParserState.advance_kind {k : TokenKind} (hk : k ≠ .eof)
    (h : (s.rest.head?.map Token.kind).getD .eof = k) :
    s.advance.current.kind = k := by
  unfold ParserState.advance
  cases hrest : s.rest with
  | nil =>
    rw [hrest] at h
    exact absurd h.symm hk
  | cons a as =>
    rw [hrest] at h
    exact h

/-! ## Left and right of an operator -/

/-- The operator that the reader stands at may have the expression on its left. -/
def Offers (left : Expr) (s : ParserState) : Prop :=
  ∀ power, s.operator? = some power →
    (left.leads power = true ∨ left.isMembership = true) ∧ left.isTight power = true

theorem Offers.of_isOperation (h : left.isOperation = false) : Offers left s :=
  fun _ _ => ⟨.inl (Expr.beside_of_isOperation h).1, (Expr.beside_of_isOperation h).2⟩

/-- What an operator of this power has on its right, where the reader then is at `t`. -/
structure Behind (K : TokenKind → Prop) (power : Nat) (operator : String) (right : Expr)
    (t : ParserState) : Prop where
  known : (operator, power) ∈ Operator.infixes
  built : right.Built K
  leads : right.leads (power + 1) = true
  bounds : operator ∈ Operator.ranges → ∃ low high : Expr, right = .list [low, high] ∧
    low.leads (power + 1) = true ∧ high.leads (power + 1) = true
  stop : operator ∈ Operator.memberships ∨ ∀ power', t.operator? = some power' → power' ≤ power

namespace Behind

theorem level (h : Behind K power operator right t) : Operator.level operator = power :=
  Operator.level_infixes _ h.known

theorem binary_built (h : Behind K power operator right t) (hleft : left.Built K)
    (hside : (left.leads power = true ∨ left.isMembership = true) ∧ left.isTight power = true) :
    (left.binary operator right).Built K := by
  obtain rfl := h.level
  obtain ⟨hknown, hright, hleads, hbounds, -⟩ := h
  refine Expr.built_mk.mpr ⟨⟨hknown, hside.1, hside.2, hleads, hbounds⟩, ?_⟩
  exact allBuilt_expr.mpr ⟨hleft, allBuilt_expr.mpr ⟨hright, throughout_nil⟩⟩

/-- The operator behind is no tighter, or comes after the parentheses of an IN. -/
theorem offers (h : Behind K power operator right t) : Offers (left.binary operator right) t := by
  intro power' hpower'
  refine ⟨?_, rfl⟩
  rcases h.stop with hmember | hstop
  · exact .inr (List.contains_iff_mem.mpr hmember)
  · rw [Expr.leads_binary, h.level]
    exact .inl (decide_eq_true (hstop power' hpower'))

end Behind

/-! ## What the operators have on their right -/

/-- An operator of one token has its text, or one of its texts. -/
theorem operatorText?_returns {operator : String} (hs : OnText K src s)
    (hpower : Operator.power? s.current.kind = some power)
    (hr : Returns Nested.operatorText? src s (some operator) t) :
    s = t ∧ (operator, power) ∈ Operator.infixes ∧ operator ∉ Operator.ranges := by
  obtain ⟨k, u, hk, hr⟩ := Returns.bind hr
  obtain ⟨rfl, rfl⟩ := kind_returns hk
  split at hr
  · rename_i hnotEq
    obtain ⟨text, u, htext, hr⟩ := Returns.bind hr
    obtain ⟨rfl, rfl⟩ := currentText_returns htext
    obtain ⟨htext, rfl⟩ := Returns.pure hr
    have hwritten : ∀ text ∈ ["!=", "<>"], (text, Operator.predicatePower) ∈ Operator.infixes ∧
        text ∉ Operator.ranges := by
      decide
    rw [hnotEq] at hpower
    cases hpower
    exact ⟨rfl, hwritten _ (Option.some.inj htext ▸ Token.notEq_text hs.current hnotEq)⟩
  · obtain ⟨htext, rfl⟩ := Returns.pure hr
    exact ⟨rfl, Operator.text?_mem htext hpower⟩

theorem Returns.ofSome {α : Type} {p : Parser α} {x : α}
    (hr : Returns (p >>= fun x => Pure.pure (some x)) src s (some x) t) :
    Returns p src s x t := by
  obtain ⟨y, u, hy, hr⟩ := Returns.bind hr
  obtain ⟨hxy, rfl⟩ := Returns.pure hr
  exact Option.some.inj hxy ▸ hy

namespace Nested.Built

section Operators

variable (h : i.Built K)
include h

theorem expr_behind (hs : OnText K src s)
    (hoperator : (operator, power) ∈ Operator.infixes ∧ operator ∉ Operator.ranges)
    (hr : Returns (i.expr (power + 1)) src s right t) : Behind K power operator right t := by
  obtain ⟨⟨hbuilt, hleads⟩, -⟩ := (h.leading _).returns hs hr
  exact ⟨hoperator.1, hbuilt, hleads, fun hmem => absurd hmem hoperator.2,
    .inr fun power' hpower' => Nat.lt_succ_iff.mp (h.stops hr power' hpower')⟩

theorem membership_behind (hs : OnText K src s) (hoperator : operator ∈ Operator.memberships)
    (hr : Returns i.membership src s right t) :
    Behind K Operator.predicatePower operator right t := by
  obtain ⟨⟨hbuilt, hoperation⟩, -⟩ := h.membership.returns hs hr
  have hdisjoint : ∀ operator ∈ Operator.memberships, operator ∉ Operator.ranges := by decide
  exact ⟨Operator.mem_infixes_of_membership hoperator, hbuilt,
    (Expr.beside_of_isOperation hoperation).1, fun hrange => absurd hrange (hdisjoint _ hoperator),
      .inl hoperator⟩

theorem range_behind (hs : OnText K src s) (hoperator : operator ∈ Operator.ranges)
    (hr : Returns (i.range (Operator.predicatePower + 1)) src s right t) :
    Behind K Operator.predicatePower operator right t := by
  obtain ⟨⟨hbuilt, low, high, rfl, hlow, hhigh⟩, -⟩ := (h.range _).returns hs hr
  refine ⟨Operator.mem_infixes_of_range hoperator, hbuilt, rfl,
    fun _ => ⟨low, high, rfl, hlow, hhigh⟩, .inr ?_⟩
  -- the reader stands where the upper bound ends
  obtain ⟨_, _, -, hr⟩ := Returns.bind hr
  obtain ⟨_, _, -, hr⟩ := Returns.bind hr
  obtain ⟨_, _, hhigh, hr⟩ := Returns.bind hr
  obtain ⟨-, rfl⟩ := Returns.pure hr
  exact fun power' hpower' => Nat.lt_succ_iff.mp (h.stops hhigh power' hpower')

theorem predicate_behind (hs : OnText K src s) {negation : String}
    (hnegation : negation = "" ∧ (s.current.kind = .keyword .IN ∨
      s.current.kind = .keyword .BETWEEN) ∨
      negation = "NOT " ∧ Operator.isNegatable s.current.kind = true)
    (hr : Returns (i.predicate left negation (Operator.predicatePower + 1)) src s e t) :
    ∃ operator right, e = left.binary operator right ∧
      Behind K Operator.predicatePower operator right t := by
  have hwords :
      negation ++ "IN" ∈ Operator.memberships ∧ negation ++ "BETWEEN" ∈ Operator.ranges := by
    rcases hnegation with ⟨rfl, -⟩ | ⟨rfl, -⟩ <;> decide
  obtain ⟨v, u, hv, hr⟩ := Returns.bind hr
  rcases takeIf_returns (isAtKeyword_asks .IN) hv with ⟨rfl, -, rfl⟩ | ⟨rfl, hin, rfl⟩
  · obtain ⟨right, w, hright, hr⟩ := Returns.bind hr
    obtain ⟨rfl, rfl⟩ := Returns.pure hr
    exact ⟨_, right, rfl, h.membership_behind hs.advance hwords.1 hright⟩
  obtain ⟨v, u, hv, hr⟩ := Returns.bind hr
  rcases takeIf_returns (isAtKeyword_asks .BETWEEN) hv with ⟨rfl, -, rfl⟩ | ⟨rfl, hbetween, rfl⟩
  · obtain ⟨right, w, hright, hr⟩ := Returns.bind hr
    obtain ⟨rfl, rfl⟩ := Returns.pure hr
    exact ⟨_, right, rfl, h.range_behind hs.advance hwords.2 hright⟩
  obtain ⟨k, u, hk, hr⟩ := Returns.bind hr
  obtain ⟨rfl, rfl⟩ := kind_returns hk
  split at hr
  · rename_i operator htext
    obtain ⟨_, u, hu, hr⟩ := Returns.bind hr
    obtain rfl := advance_returns hu
    obtain ⟨right, w, hright, hr⟩ := Returns.bind hr
    obtain ⟨rfl, rfl⟩ := Returns.pure hr
    rcases hnegation with ⟨-, hkind⟩ | ⟨rfl, hnegatable⟩
    · rcases hkind with hkind | hkind
      · exact absurd hkind (beq_eq_false_iff_ne.mp hin)
      · exact absurd hkind (beq_eq_false_iff_ne.mp hbetween)
    · exact ⟨_, right, rfl, h.expr_behind hs.advance (Operator.negated_mem hnegatable htext) hright⟩
  · exact absurd hr not_returns_unexpected

theorem is_behind (hs : OnText K src s) {negated : Bool} {u : ParserState}
    (hn : Returns (eatKeyword .NOT) src s negated u)
    (hr : Returns (i.expr (Operator.predicatePower + 1)) src u right t) :
    Behind K Operator.predicatePower (if negated then "IS NOT" else "IS") right t := by
  refine h.expr_behind (Makes.returns (Control.makes K) hs hn).2 ?_ hr
  cases negated <;> decide

/-- An operator is read with what it has on its right. -/
theorem infixForm_behind (hs : OnText K src s)
    (hpower : Operator.power? s.current.kind = some power)
    (hr : Returns (i.infixForm left (power + 1)) src s (some e) t) :
    s.operator? = some power ∧ ∃ operator right, e = left.binary operator right ∧
      Behind K power operator right t := by
  obtain ⟨k, u, hk, hr⟩ := Returns.bind hr
  obtain ⟨rfl, rfl⟩ := kind_returns hk
  have hoperator (hnot : s.current.kind ≠ .keyword .NOT) : s.operator? = some power := by
    rw [ParserState.operator?, if_neg fun hand => hnot hand.1, hpower]
  split at hr
  case h_1 his =>
    obtain ⟨_, u, hu, hr⟩ := Returns.bind hr
    obtain rfl := advance_returns hu
    obtain ⟨negated, u, hnegated, hr⟩ := Returns.bind hr
    obtain ⟨right, w, hright, hr⟩ := Returns.bind hr
    obtain ⟨he, rfl⟩ := Returns.pure hr
    cases he
    refine ⟨hoperator (by simp [his]), _, right, rfl, ?_⟩
    rw [his] at hpower
    cases hpower
    exact h.is_behind hs.advance hnegated hright
  case h_2 hnot =>
    obtain ⟨next, u, hnext, hr⟩ := Returns.bind hr
    obtain ⟨rfl, rfl⟩ := nextKind_returns hnext
    split at hr
    case isTrue hnegatable =>
      obtain ⟨_, u, hu, hr⟩ := Returns.bind hr
      obtain rfl := advance_returns hu
      have hnext : s.advance.current.kind = (s.rest.head?.map Token.kind).getD .eof :=
        ParserState.advance_kind (fun heof => by simp [heof, Operator.isNegatable] at hnegatable)
          rfl
      rw [ParserState.operator?, if_neg fun hand => by simp [hand.2] at hnegatable]
      refine ⟨hpower, ?_⟩
      rw [hnot] at hpower
      cases hpower
      exact h.predicate_behind hs.advance (.inr ⟨rfl, hnext ▸ hnegatable⟩) hr.ofSome
    case isFalse => cases (Returns.pure hr).1
  case h_3 hin =>
    refine ⟨hoperator (by simp [hin]), ?_⟩
    rw [hin] at hpower
    cases hpower
    exact h.predicate_behind hs (.inl ⟨rfl, .inl hin⟩) hr.ofSome
  case h_4 hbetween =>
    refine ⟨hoperator (by simp [hbetween]), ?_⟩
    rw [hbetween] at hpower
    cases hpower
    exact h.predicate_behind hs (.inl ⟨rfl, .inr hbetween⟩) hr.ofSome
  case h_5 _ hnot _ _ =>
    obtain ⟨operator, u, htext, hr⟩ := Returns.bind hr
    cases operator with
    | none => cases (Returns.pure hr).1
    | some operator =>
      obtain ⟨rfl, hlevel⟩ := operatorText?_returns hs hpower htext
      obtain ⟨_, u, hu, hr⟩ := Returns.bind hr
      obtain rfl := advance_returns hu
      obtain ⟨right, w, hright, hr⟩ := Returns.bind hr
      obtain ⟨he, rfl⟩ := Returns.pure hr
      cases he
      exact ⟨hoperator hnot, operator, right, rfl, h.expr_behind hs.advance hlevel hright⟩

/-! ## Operands and what follows them -/

theorem operators_built {least n : Nat} (hs : OnText K src s) (hleft : left.Built K)
    (hleads : left.leads least = true) (hoffers : Offers left s)
    (hr : Returns (i.operators least n left) src s e t) :
    e.Built K ∧ e.leads least = true := by
  induction n generalizing left s with
  | zero => exact absurd hr not_returns_outOfRounds
  | succ n ih =>
    obtain ⟨k, u, hk, hr⟩ := Returns.bind hr
    obtain ⟨rfl, rfl⟩ := kind_returns hk
    split at hr
    case isTrue =>
      split at hr
      case isTrue =>
        obtain ⟨rfl, -⟩ := Returns.pure hr
        exact ⟨hleft, hleads⟩
      case isFalse =>
        obtain ⟨e', u, he', hr⟩ := Returns.bind hr
        obtain ⟨hform, hu⟩ := (h.postfixForm left).returns hs he'
        obtain ⟨hbuilt, hoperation⟩ := hform hleft
        exact ih hu hbuilt (Expr.beside_of_isOperation hoperation).1 (.of_isOperation hoperation) hr
    case isFalse =>
      split at hr
      case h_1 =>
        obtain ⟨rfl, -⟩ := Returns.pure hr
        exact ⟨hleft, hleads⟩
      case h_2 power hpower =>
        split at hr
        case isTrue =>
          obtain ⟨rfl, -⟩ := Returns.pure hr
          exact ⟨hleft, hleads⟩
        case isFalse hstrong =>
          obtain ⟨form, u, hform, hr⟩ := Returns.bind hr
          cases form with
          | none =>
            obtain ⟨rfl, -⟩ := Returns.pure hr
            exact ⟨hleft, hleads⟩
          | some e' =>
            have hu : OnText K src u := ((h.infixForm left (power + 1)).returns hs hform).2
            obtain ⟨hoperator, operator, right, rfl, hbehind⟩ := h.infixForm_behind hs hpower hform
            refine ih hu (hbehind.binary_built hleft (hoffers power hoperator)) ?_ hbehind.offers hr
            rw [Expr.leads_binary, hbehind.level]
            exact decide_eq_true (Nat.le_of_not_lt hstrong)

/-- An operand may stand on the left of what comes after it; one with an operator in front has taken
all that binds as tightly. -/
theorem readOperand_offers (hs : OnText K src s) (hr : Returns i.readOperand src s e t) :
    (∀ power, e.leads power = true) ∧ Offers e t := by
  obtain ⟨k, u, hk, hr⟩ := Returns.bind hr
  obtain ⟨rfl, rfl⟩ := kind_returns hk
  split at hr
  case h_1 front strength hfront =>
    obtain ⟨_, u, -, hr⟩ := Returns.bind hr
    obtain ⟨operand, u, hoperand, hr⟩ := Returns.bind hr
    obtain ⟨rfl, rfl⟩ := Returns.pure hr
    refine ⟨fun _ => rfl, fun power hpower => ⟨.inl rfl, ?_⟩⟩
    simp only [Expr.isTight, Expr.unary, Expr.node, Operator.leading?_lookup hfront,
      Option.all_some]
    exact decide_eq_true (h.stops hoperand power hpower)
  case h_2 =>
    have hoperation := (h.readPrimary.returns hs hr).1.2
    exact ⟨fun power => (Expr.beside_of_isOperation hoperation).1, .of_isOperation hoperation⟩

/-! ## Expressions -/

theorem operators (least n : Nat) (left : Expr) :
    Makes K (fun _ => True) (i.operators least n left) := by
  induction n generalizing left with
  | zero => exact .outOfRounds
  | succ n ih =>
    refine .bind fun k =>
      .ite (.ite (.pure trivial) (.andThen (h.postfixForm left) fun e _ => ih e)) ?_
    split
    · exact .pure trivial
    · refine .ite (.pure trivial) (.andThen (h.infixForm left _) fun form _ => ?_)
      cases form with
      | none => exact .pure trivial
      | some e => exact ih e

theorem readExpr (least : Nat) :
    Makes K (fun e => e.Built K ∧ e.leads least = true) (i.readExpr least) := by
  refine .shows (.andThen h.readOperand fun left _ => .bind fun n => h.operators least n left) ?_
  intro src s e t hs hr _
  obtain ⟨left, u, hleft, hr⟩ := Returns.bind hr
  obtain ⟨n, v, hn, hr⟩ := Returns.bind hr
  obtain ⟨rfl, rfl⟩ := rounds_returns hn
  obtain ⟨hbuilt, hu⟩ := h.readOperand.returns hs hleft
  obtain ⟨hleads, hoffers⟩ := h.readOperand_offers hs hleft
  exact h.operators_built hu hbuilt (hleads least) hoffers hr

end Operators

end Nested.Built

end SqlWeave.Parser
