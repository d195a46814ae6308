import SqlWeave.Proofs.Tree.Core

/-! Operators where their binding powers put them. An operator between two operands has on its left
what binds at least as tightly and on its right what binds more tightly; an operator in front has
behind it what binds at least as tightly as itself. Only an IN may stand to the left of whatever
comes after its parentheses. -/

namespace SqlWeave

namespace Operator

/-- All operators between two operands and their binding powers. -/
def infixes : List (String × Nat) :=
  betweenOperands ++ (memberships ++ ranges).map (·, predicatePower)

/-- How tightly the operator binds that has this text. -/
def level (operator : String) : Nat := (betweenOperands.lookup operator).getD predicatePower

theorem level_infixes : ∀ o ∈ infixes, level o.1 = o.2 := by decide

theorem betweenOperands_of_level {operator : String} (h : predicatePower < level operator) :
    (operator, level operator) ∈ betweenOperands := by
  unfold level at h ⊢
  cases hlookup : betweenOperands.lookup operator with
  | none =>
    rw [hlookup] at h
    exact absurd h (Nat.lt_irrefl _)
  | some power =>
    obtain ⟨before, after, hsplit, -⟩ := List.lookup_eq_some_iff.mp hlookup
    rw [hsplit]
    exact List.mem_append_right _ List.mem_cons_self

theorem mem_infixes_of_membership {operator : String} (h : operator ∈ memberships) :
    (operator, predicatePower) ∈ infixes :=
  List.mem_append_right _ (List.mem_map_of_mem (List.mem_append_left _ h))

theorem mem_infixes_of_range {operator : String} (h : operator ∈ ranges) :
    (operator, predicatePower) ∈ infixes :=
  List.mem_append_right _ (List.mem_map_of_mem (List.mem_append_right _ h))

end Operator

namespace Expr

/-- Whether the expression ends with the parentheses of an IN. -/
def isMembership (e : Expr) : Bool :=
  match e.node with
  | .binary operator _ _ false => Operator.memberships.contains operator
  | _ => false

/-- Whether the expression has an operator that is not in parentheses. -/
def isOperation (e : Expr) : Bool :=
  match e.node with
  | .binary _ _ _ false => true
  | .unary front _ false => (Operator.beforeOperand.lookup front).isSome
  | _ => false

/-- Whether the operator in front of the expression, if one is, binds more tightly than that. -/
def isTight (e : Expr) (power : Nat) : Bool :=
  match e.node with
  | .unary front _ false => (Operator.beforeOperand.lookup front).all (power < ·)
  | _ => true

variable {e left right : Expr} {operator : String} {power : Nat}

theorem leads_binary : (left.binary operator right).leads power =
    decide (power ≤ Operator.level operator) := rfl

/-- Without an operator of its own an expression may stand beside any operator. -/
theorem beside_of_isOperation (h : e.isOperation = false) :
    e.leads power = true ∧ e.isTight power = true := by
  obtain ⟨n⟩ := e
  cases n
  case binary operator left right parens =>
    cases parens with
    | false => cases h
    | true => exact ⟨rfl, rfl⟩
  case unary front operand parens =>
    cases parens with
    | false =>
      have hnone : Operator.beforeOperand.lookup front = none :=
        Option.isSome_eq_false_iff.mp h |> Option.isNone_iff_eq_none.mp
      exact ⟨rfl, by simp only [isTight, node, hnone, Option.all_none]⟩
    | true => exact ⟨rfl, rfl⟩
  all_goals exact ⟨rfl, rfl⟩

theorem isOperation_parenthesized (e : Expr) : e.parenthesized.isOperation = false := by
  obtain ⟨n⟩ := e
  cases n
  all_goals rfl

end Expr

namespace Operator

/-- The sides of an operator between two operands are where the binding powers put them. -/
structure Between (operator : String) (left right : Expr) : Prop where
  known : (operator, level operator) ∈ infixes
  leftLeads : left.leads (level operator) = true ∨ left.isMembership = true
  leftTight : left.isTight (level operator) = true
  rightLeads : right.leads (level operator + 1) = true
  bounds : operator ∈ ranges → ∃ low high : Expr, right = .list [low, high] ∧
    low.leads (level operator + 1) = true ∧ high.leads (level operator + 1) = true

/-- What stands behind an operator in front is where the binding powers put it. -/
def Before (front : String) (operand : Expr) : Prop :=
  ∀ power, beforeOperand.lookup front = some power → operand.leads power = true

end Operator

end SqlWeave
