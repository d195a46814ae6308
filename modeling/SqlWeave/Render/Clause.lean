import SqlWeave.Render.Column

/-! Clauses that several statements share. -/

namespace SqlWeave

namespace Render

/-- A query that must stand in parentheses. -/
def subquery (i : Item) : Result String :=
  match i.1.node with
  | .query q => if q.parens then i.sql else return inParens (← i.sql)
  | .list .. => i.sql
  | _ => return inParens (← i.sql)

def orderItem (i : OrderItem Item) : Result String := do
  let sql ← i.expr.sql
  return fragments [sql, (i.direction.map Text.upper).getD "ASC", upper? i.nulls]

def orderBy : Option (List (OrderItem Item)) → Result String
  | none => return ""
  | some items => return clause "ORDER BY" (commas (← items.mapM orderItem))

/-- Directions have no meaning here and are left out. -/
def partitionBy : Option (List (OrderItem Item)) → Result String
  | none => return ""
  | some items => return clause "PARTITION BY" (commas (← items.mapM (·.expr.sql)))

/-- A window's name, or its specification in parentheses. -/
def windowSpec (w : WindowSpec Item) : Result String :=
  match w.name with
  | some name => return name
  | none => do
    let partition ← partitionBy w.partitionBy
    let order ← orderBy w.orderBy
    return inParens (fragments [partition, order, w.frame.getD ""])

def overClause (w : WindowSpec Item) : Result String := return "OVER " ++ (← windowSpec w)

/-- An OVER clause after a call, if there is one. -/
def over? : Option (WindowSpec Item) → Result String
  | none => return ""
  | some w => return " " ++ (← overClause w)

def namedWindow (w : NamedWindow Item) : Result String :=
  return w.name ++ " AS " ++ (← windowSpec w.spec)

def namedWindows (ws : List (NamedWindow Item)) : Result String :=
  return commas (← ws.mapM namedWindow)

def condition : Option Item → Result String
  | none => return ""
  | some i => return clause "WHERE" (← i.sql)

end Render

namespace Renderer

open Render

variable (r : Renderer)

def cte (c : Cte Item) : Result String := do
  let columns := match c.columns with
    | some columns => inParens (commas (r.idents columns))
    | none => ""
  return r.ident c.name ++ columns ++ " AS " ++ (← subquery c.body)

/-- Whether the clause is recursive is taken from its first entry. -/
def withClause : Option (List (Cte Item)) → Result String
  | none | some [] => return ""
  | some (c :: cs) => do
    let ctes ← (c :: cs).mapM r.cte
    return clause (if c.recursive then "WITH RECURSIVE" else "WITH") (commas ctes)

def dottedName (parts : List String) : String := ".".intercalate (r.idents parts)

/-- A table without its join. -/
def table (t : Table Item) : Result String :=
  if t.isDual then return "DUAL"
  else do
    let sql ← match t.expr with
      | some i =>
        match i.1.node with
        | .query _ => subquery i
        | _ => i.sql
      | none => pure (r.dottedName t.nameParts)
    match t.aliasName with
    | none => return sql
    | some aliasName =>
      return sql ++ (if r.config.dialect.tableAliasKeyword then " AS " else " ") ++
        r.ident aliasName

/-- What a join adds after its table. -/
def joinCondition (t : Table Item) : Result String :=
  match t.condition, t.usingColumns with
  | some i, _ => return " ON " ++ (← i.sql)
  | none, some columns => return " USING " ++ inParens (commas (r.idents columns))
  | none, none => return ""

/-- An entry after the first one: a join, or an entry after a comma. -/
def laterTable (t : Table Item) : Result String := do
  let sql ← r.table t
  match t.join with
  | some join => return " " ++ Text.upper join ++ " " ++ sql ++ (← r.joinCondition t)
  | none => return ", " ++ sql

def tables : List (Table Item) → Result String
  | [] => return ""
  | t :: ts => do
    let first ← r.table t
    return first ++ String.join (← ts.mapM r.laterTable)

def fromClause : Option (List (Table Item)) → Result String
  | none | some [] => return ""
  | some ts => return clause "FROM" (← r.tables ts)

def returning : Option (Columns Item) → Result String
  | none => return ""
  | some cs => return clause "RETURNING" (← r.selectList cs none)

def assignment (a : Assignment Item) : Result String := do
  let value ← a.value.sql
  return r.dottedName ((a.table.map (fun table => [table])).getD [] ++ [a.column]) ++ " = " ++ value

def assignments (as : List (Assignment Item)) : Result String :=
  return commas (← as.mapM r.assignment)

/-- `[OFFSET o ROWS] FETCH {FIRST | NEXT} count words`; a dialect that accepts FETCH only after an
offset gets `OFFSET 0 ROWS`. -/
def fetch (count : String) (offset : Option String) (words : String) : String :=
  match offset with
  | some offset => "OFFSET " ++ offset ++ " ROWS FETCH NEXT " ++ count ++ " " ++ words
  | none =>
    if r.config.dialect.requiresOffsetBeforeFetch then
      "OFFSET 0 ROWS FETCH NEXT " ++ count ++ " " ++ words
    else "FETCH FIRST " ++ count ++ " " ++ words

def limitText (l : Limit Item) (count offset : Option String) : String :=
  match count, l.fetchSuffix with
  | some count, word :: words => r.fetch count offset (" ".intercalate (word :: words))
  | count, _ =>
    match r.config.dialect.limitStyle, count, offset with
    | .limitOffset, some count, some offset =>
      if l.comma && r.config.dialect.supportsLimitComma then "LIMIT " ++ offset ++ ", " ++ count
      else "LIMIT " ++ count ++ " OFFSET " ++ offset
    | .limitOffset, some count, none => "LIMIT " ++ count
    | .limitOffset, none, some offset => "OFFSET " ++ offset
    | .fetchOffset, some count, offset => r.fetch count offset "ROWS ONLY"
    | .fetchOffset, none, some offset => "OFFSET " ++ offset ++ " ROWS"
    | _, none, none => ""

/-- A limit with words after its count is written as FETCH in every dialect, since LIMIT has no
spelling for them. -/
def limit : Option (Limit Item) → Result String
  | none => return ""
  | some l => do
    let count ← l.count.mapM (·.sql)
    let offset ← l.offset.mapM (·.sql)
    return r.limitText l count offset

end Renderer

end SqlWeave
