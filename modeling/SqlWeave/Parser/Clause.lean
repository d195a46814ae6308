import SqlWeave.Parser.State
import SqlWeave.Tree.Build

/-! Clauses that expressions, queries and statements share. What may nest inside a clause comes in
as a record of readers, so that each reader is written without recursion. -/

namespace SqlWeave.Parser

/-- The readers of what nests: an expression that binds at least so tightly, an operand with its
leading operators, an operand alone, a query and a type. -/
structure Nested where
  expr : Nat → Parser Expr
  operand : Parser Expr
  primary : Parser Expr
  query : Parser (Query Expr)
  dataType : Parser (DataType Expr)

/-- Words that end a clause, so that they are no alias without AS. -/
def nonAliasWords : List String :=
  ["natural", "window", "qualify", "final", "sample", "format", "settings", "rows", "row", "lock",
    "for", "straight_join", "ilike", "regexp", "rlike", "glob"]

def isImplicitAlias (name : String) : Bool := !nonAliasWords.any (Text.sameAscii name)

/-- `[AS] alias`; after AS also a string. -/
def alias? : Parser (Option String) := do
  if ← eatKeyword .AS then
    match ← kind with
    | .string name | .doubleQuoted name =>
      advance
      return some name
    | _ => return some (← identifier)
  else
    match ← kind with
    | .identifier name =>
      if isImplicitAlias name then
        advance
        return some name
      else return none
    | .quotedIdentifier name | .doubleQuoted name =>
      advance
      return some name
    | _ => return none

namespace Nested

variable (inner : Nested)

def exprs : Parser (List Expr) := commaSeparated (inner.expr 0)

/-- Items up to and including `closing`; there may be none. -/
def exprsUpTo (closing : Symbol) : Parser (List Expr) := do
  let items ← if ← isAt closing then pure [] else inner.exprs
  expect closing
  return items

def parenthesizedQuery : Parser (Query Expr) := do
  let q ← inner.query
  expect .rightParen
  return q

def direction? : Parser (Option String) := do
  if ← eatKeyword .ASC then return some "ASC"
  else if ← eatKeyword .DESC then return some "DESC"
  else return none

def nulls? : Parser (Option String) := do
  if ← eatKeyword .NULLS then
    if ← isAtAnyWord ["first", "last"] then
      let position ← currentText
      advance
      return some ("NULLS " ++ Text.upper position)
    else unexpected "FIRST or LAST"
  else return none

def orderItem : Parser (OrderItem Expr) := do
  let e ← inner.expr 0
  let direction ← direction?
  let nulls ← nulls?
  return { expr := e, direction, nulls }

def orderBy? : Parser (Option (List (OrderItem Expr))) := do
  if ← eatKeyword .ORDER then
    expectKeyword .BY
    return some (← commaSeparated inner.orderItem)
  else return none

def partitionBy? : Parser (Option (List (OrderItem Expr))) := do
  if ← eatKeyword .PARTITION then
    expectKeyword .BY
    return some ((← inner.exprs).map fun e => { expr := e })
  else return none

/-- A frame is kept as written, up to the closing parenthesis. -/
def frame? : Parser (Option String) := do
  if ← isAtAnyWord ["rows", "range", "groups"] then return some (← textToParenthesis)
    else return none

/-- A window's name, or a specification in parentheses. -/
def windowSpec : Parser (WindowSpec Expr) := do
  match ← kind with
  | .identifier name =>
    advance
    return { name := some name }
  | _ =>
    expect .leftParen
    let partitionBy ← inner.partitionBy?
    let orderBy ← inner.orderBy?
    let frame ← frame?
    expect .rightParen
    return { partitionBy, orderBy, frame }

def over? : Parser (Option (WindowSpec Expr)) := do
  if ← eatKeyword .OVER then return some (← inner.windowSpec) else return none

end Nested

end SqlWeave.Parser
