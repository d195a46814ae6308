import SqlWeave.Render.Expr
import SqlWeave.Tree.Statement

/-! Statements and scripts. -/

namespace SqlWeave

def Render.tableOption (o : TableOption) : String :=
  match o.symbol with
  | some symbol => Text.upper o.keyword ++ " " ++ symbol ++ " " ++ o.value
  | none => Text.upper o.keyword ++ " " ++ o.value

namespace Renderer

open Render

variable (r : Renderer)

def update (u : Update Item) : Result String := do
  let withs ← r.withClause u.withs
  let tables ← r.tables u.tables
  let assignments ← r.assignments u.assignments
  let source ← r.fromClause u.source
  let condition ← condition u.condition
  let order ← orderBy u.orderBy
  let limit ← r.limit u.limit
  let returning ← r.returning u.returning
  return fragments [
    withs, "UPDATE", tables, clause "SET" assignments, source, condition, order, limit, returning]

/-- A target of a DELETE: the qualifier of a column, or a bare name. -/
def deleteTarget (c : Column Item) (source : Option (List (Table Item))) : Result String :=
  match c.expr.1.node with
  | .column ref =>
    match ref.table with
    | some table => return r.dottedName ((ref.db.map (fun db => [db])).getD [] ++ [table])
    | none => return (ref.column.text?.map r.ident).getD ""
  | _ => return commas (← r.columns (.list [c]) source)

/-- Entries that only repeat a FROM table are left out. -/
def deleteTargets (d : Delete Item) : Result String :=
  match d.columns with
  | some (c :: cs) => do
    let targets ← (c :: cs).mapM fun c => r.deleteTarget c d.source
    return commas (targets.filter (!·.isEmpty))
  | _ => r.tables ((d.targets.getD []).filter (!·.addition))

def delete (d : Delete Item) : Result String := do
  let targets ← if r.config.dialect.printsDeleteTargets then r.deleteTargets d else pure ""
  let withs ← r.withClause d.withs
  let source ← r.fromClause (d.source <|> d.targets)
  let condition ← condition d.condition
  let order ← orderBy d.orderBy
  let limit ← r.limit d.limit
  let returning ← r.returning d.returning
  return fragments [withs, "DELETE", targets, source, condition, order, limit, returning]

def createName (c : Create Item) : Result String :=
  match c.tables, c.database with
  | some (t :: ts), _ => r.tables (t :: ts)
  | _, some database => return r.ident database
  | _, none => return ""

def create (c : Create Item) : Result String := do
  let name ← r.createName c
  let definitions ← match c.definitions with
    | none | some [] => pure ""
    | some items => pure (inParens (commas (← sqls items)))
  let options := " ".intercalate ((c.options.getD []).map tableOption)
  let query ← optional "AS" c.query
  return fragments [
    "CREATE", onlyIf c.orReplace "OR REPLACE", onlyIf c.temporary "TEMPORARY", Text.upper c.keyword,
    onlyIf c.ifNotExists "IF NOT EXISTS", name, definitions, options, query]

def drop {E : Type} (d : Drop E) : String :=
  fragments [
    "DROP", Text.upper d.keyword, onlyIf d.ifExists "IF EXISTS",
    commas (d.names.map fun t => r.dottedName t.nameParts)]

def statementOf : Statement Item → Result String
  | .select q => r.query q
  | .insert i => r.insert "INSERT" i
  | .replace i => r.insert "REPLACE" i
  | .update u => r.update u
  | .delete d => r.delete d
  | .create c => r.create c
  | .drop d => return r.drop d
  | .showing keyword => return showing keyword

def statement (s : Statement Expr) : Result String := r.statementOf (s.map r.item)

def script (s : Script Expr) : Result String :=
  return " ; ".intercalate (← s.statements.mapM r.statement)

end Renderer

end SqlWeave
