import SqlWeave.Parser.Operator
import SqlWeave.Parser.Primary

/-! Expressions with operators. An operator takes the operand before it if it binds at least as
tightly as the caller asks, and what follows it is read one notch tighter. -/

namespace SqlWeave.Parser.Nested

variable (inner : Nested)

/-- An operand with the operators in front of it. -/
def readOperand : Parser Expr := do
  match Operator.leading? (← kind) with
  | some (operator, power) =>
    advance
    return .unary operator (← inner.expr power)
  | none => inner.readPrimary

def subscript : Parser Expr := do
  let index ← inner.expr 0
  expect .rightBracket
  return index

/-- `::type`, `[index]…` or `COLLATE name` after an operand. -/
def postfixForm (left : Expr) : Parser Expr := do
  if ← eat .doubleColon then return .mk (.cast "CAST" left "::" (← inner.dataType) false)
  else if ← isAt .leftBracket then
    return .mk (.subscript left (← many (eat .leftBracket) inner.subscript))
  else
    expectKeyword .COLLATE
    return .mk (.collate (some left) (← identifier) none)

/-- What stands between the parentheses of IN. -/
def membership : Parser Expr := do
  expect .leftParen
  let set ← if ← isAtQuery then pure (.query (← inner.query).parenthesized)
    else pure (.tuple (← inner.exprs))
  expect .rightParen
  return set

def range (power : Nat) : Parser Expr := do
  let low ← inner.expr power
  expectKeyword .AND
  let high ← inner.expr power
  return .list [low, high]

/-- IN, BETWEEN, LIKE and the like, after NOT if `negation` says so. -/
def predicate (left : Expr) (negation : String) (power : Nat) : Parser Expr := do
  if ← eatKeyword .IN then return left.binary (negation ++ "IN") (← inner.membership)
  else if ← eatKeyword .BETWEEN then
    return left.binary (negation ++ "BETWEEN") (← inner.range power)
  else
    match Operator.text? (← kind) with
    | some operator =>
      advance
      return left.binary (negation ++ operator) (← inner.expr power)
    | none => unexpected "IN, BETWEEN or LIKE"

/-- `!=` and `<>` are one operator and keep their spelling. -/
def operatorText? : Parser (Option String) := do
  match ← kind with
  | .symbol .notEq => return some (← currentText)
  | k => return Operator.text? k

/-- The operand and what an operator of one token adds. -/
def operatorForm (left : Expr) (power : Nat) : Parser (Option Expr) := do
  match ← operatorText? with
  | some operator =>
    advance
    return some (left.binary operator (← inner.expr power))
  | none => return none

/-- The operand and what the operator after it adds; none if it turns out to be no operator. -/
def infixForm (left : Expr) (power : Nat) : Parser (Option Expr) := do
  match ← kind with
  | .keyword .IS =>
    advance
    let operator := if ← eatKeyword .NOT then "IS NOT" else "IS"
    return some (left.binary operator (← inner.expr power))
  | .keyword .NOT =>
    if Operator.isNegatable (← nextKind) then
      advance
      return some (← inner.predicate left "NOT " power)
    else return none
  | .keyword .IN | .keyword .BETWEEN => return some (← inner.predicate left "" power)
  | _ => inner.operatorForm left power

def operators (least : Nat) : Nat → Expr → Parser Expr
  | 0, _ => outOfRounds
  | n + 1, left => do
    let k ← kind
    if Operator.isPostfix k then
      if Operator.postfixPower < least then return left
      else operators least n (← inner.postfixForm left)
    else
      match Operator.power? k with
      | none => return left
      | some power =>
        if power < least then return left
        else
          match ← inner.infixForm left (power + 1) with
          | some e => operators least n e
          | none => return left

/-- An expression whose operators bind at least as tightly as `least`. -/
def readExpr (least : Nat) : Parser Expr := do
  let left ← inner.readOperand
  inner.operators least (← rounds) left

end SqlWeave.Parser.Nested
