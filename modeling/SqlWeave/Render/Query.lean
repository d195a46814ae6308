import SqlWeave.Render.Clause

/-! Queries and insertions, which may stand inside an expression. -/

namespace SqlWeave.Renderer

open Render

variable (r : Renderer)

def select (s : Select Item) : Result String := do
  let groupBy ← match s.groupBy with
    | some items => pure (clause "GROUP BY" (commas (← sqls items)))
    | none => pure ""
  let having ← match s.having with
    | some i => pure (clause "HAVING" (← i.sql))
    | none => pure ""
  let windows ← match s.windows with
    | some ws => pure (clause "WINDOW" (← namedWindows ws))
    | none => pure ""
  let withs ← r.withClause s.withs
  let list ← r.selectList s.columns s.tables
  let tables ← r.fromClause s.tables
  let condition ← condition s.condition
  let order ← orderBy s.orderBy
  let limit ← r.limit s.limit
  return fragments [
    withs, "SELECT", onlyIf s.distinct "DISTINCT", list, tables, condition, groupBy, having,
    windows, order, limit]

/-- The SELECTs after one whose operator is given; a missing operator is a union. -/
def chain (operator : Option String) : List (Select Item) → Result String
  | [] => return ""
  | s :: ss => do
    let sql ← r.select s
    return " " ++ Text.upper (operator.getD "union") ++ " " ++ sql ++ (← chain s.setOperator ss)

def query (q : Query Item) : Result String := do
  let head ← r.select q.head
  let rest ← r.chain q.head.setOperator q.rest
  return Text.parenthesize q.parens (head ++ rest)

/-- A row of values, always in parentheses. -/
def row (i : Item) : Result String :=
  match i.1.node with
  | .list .. => return inParens (commas (← i.2.members))
  | _ => return inParens (← i.sql)

def insertSource : Option (InsertSource Item) → Result String
  | none => return ""
  | some (.rows rows) => return clause "VALUES" (commas (← rows.mapM row))
  | some (.query q) => q.sql

def insert (verb : String) (i : Insert Item) : Result String := do
  let columns := match i.columns with
    | none | some [] => ""
    | some columns => inParens (commas (r.idents columns))
  let source ← insertSource i.source
  let onDuplicate ← match i.onDuplicate with
    | some as => pure (clause "ON DUPLICATE KEY UPDATE" (← r.assignments as))
    | none => pure ""
  let tables ← r.tables i.tables
  let returning ← r.returning i.returning
  return fragments [
    verb, Text.upper (i.into.getD "into"), tables, columns, source, onDuplicate, returning]

end SqlWeave.Renderer
