import SqlWeave.Parser.Primary
import SqlWeave.Tree.Query

/-! Queries: SELECT with its clauses, WITH, and set operations. -/

namespace SqlWeave.Parser

/-- A table under its dotted name, noted as met. -/
def tableOf (parts : List String) : Parser (Table Expr) := do
  let (name, outer) := match parts.reverse with
    | [] => ("", [])
    | name :: outer => (name, outer)
  let (db, schema) := qualify outer
  addTable db name
  return { db, schema, table := some name }

def tableName : Parser (Table Expr) := do tableOf (← dottedName)

def setWord? : TokenKind → Option String
  | .keyword .UNION => some "union"
  | .keyword .INTERSECT => some "intersect"
  | .keyword .EXCEPT => some "except"
  | _ => none

/-- `UNION [ALL | DISTINCT]`, `INTERSECT` or `EXCEPT`, in small letters. -/
def setOperator? : Parser (Option String) := do
  match setWord? (← kind) with
  | none => return none
  | some operator =>
    advance
    if ← eatKeyword .ALL then return some (operator ++ " all")
    else if ← eatKeyword .DISTINCT then return some (operator ++ " distinct")
    else return some operator

def sideWord? : TokenKind → Option String
  | .keyword .LEFT => some "LEFT"
  | .keyword .RIGHT => some "RIGHT"
  | .keyword .FULL => some "FULL"
  | _ => none

/-- The words before JOIN, in capitals. -/
def joinSide : Parser (List String) := do
  if ← eatKeyword .INNER then return ["INNER"]
  else if ← eatKeyword .CROSS then return ["CROSS"]
  else
    match sideWord? (← kind) with
    | none => return []
    | some side =>
      advance
      if ← eatKeyword .OUTER then return [side, "OUTER"] else return [side]

def join? : Parser (Option String) := do
  let natural ← if ← eatWord "natural" then pure ["NATURAL"] else pure []
  let words := natural ++ (← joinSide)
  if ← eatKeyword .JOIN then return some (" ".intercalate (words ++ ["JOIN"]))
  else if words.isEmpty then return none
  else unexpected "JOIN"

namespace Nested

variable (inner : Nested)

def column : Parser (Column Expr) := do
  let e ← inner.expr 0
  return { expr := e, aliasName := ← alias? }

/-- A select list; a star by itself is all columns. -/
def columns : Parser (Columns Expr) := do
  if ← eat .star then
    addColumn none "*"
    if ← eat .comma then return .list ({ expr := .star } :: (← commaSeparated inner.column))
    else return .all
  else return .list (← commaSeparated inner.column)

def condition? : Parser (Option Expr) := do
  if ← eatKeyword .WHERE then return some (← inner.expr 0) else return none

/-- A table name, a derived table, a table function or DUAL. -/
def tableFactor : Parser (Table Expr) := do
  if ← eat .leftParen then
    let q ← inner.parenthesizedQuery
    return { Table.derived (Expr.query q) with aliasName := ← alias? }
  else if ← eatWord "dual" then return .dual
  else
    let parts ← dottedName
    if ← isAt .leftParen then
      let call ← inner.callOf (".".intercalate parts)
      return { Table.derived call with aliasName := ← alias? }
    else
      let table ← tableOf parts
      let aliasName ← alias?
      match aliasName, table.table with
      | some aliasName, some name => addAlias aliasName name
      | _, _ => pure ()
      return { table with aliasName }

/-- A joined table with its condition. -/
def joinedTable (join : String) : Parser (Table Expr) := do
  let table ← inner.tableFactor
  if ← eatKeyword .ON then
    return { table with join := some join, condition := some (← inner.expr 0) }
  else if ← eatKeyword .USING then
    return { table with join := some join, usingColumns := some (← parenthesizedNames) }
  else return { table with join := some join }

def moreTables : Nat → Parser (List (Table Expr))
  | 0 => outOfRounds
  | n + 1 => do
    if ← eat .comma then
      let table ← inner.tableFactor
      return table :: (← moreTables n)
    else
      match ← join? with
      | none => return []
      | some join =>
        let table ← inner.joinedTable join
        return table :: (← moreTables n)

/-- Entries of a FROM list, after commas or joins. -/
def tableList : Parser (List (Table Expr)) := do
  let first ← inner.tableFactor
  return first :: (← inner.moreTables (← rounds))

def tables? : Parser (Option (List (Table Expr))) := do
  if ← eatKeyword .FROM then return some (← inner.tableList) else return none

def groupBy? : Parser (Option (List Expr)) := do
  if ← eatKeyword .GROUP then
    expectKeyword .BY
    return some (← inner.exprs)
  else return none

def having? : Parser (Option Expr) := do
  if ← eatKeyword .HAVING then return some (← inner.expr 0) else return none

def namedWindow : Parser (NamedWindow Expr) := do
  let name ← identifier
  expectKeyword .AS
  return { name, spec := ← inner.windowSpec }

def windows? : Parser (Option (List (NamedWindow Expr))) := do
  if ← eatWord "window" then return some (← commaSeparated inner.namedWindow) else return none

/-- `FETCH {FIRST | NEXT} n [PERCENT] ROWS {ONLY | WITH TIES}` after its first word: the count and
the words after it. -/
def fetch : Parser (Expr × List String) := do
  expectWord ["first", "next"]
  let count ← inner.expr 0
  let percent ← if ← eatWord "percent" then pure ["PERCENT"] else pure []
  expectWord ["rows", "row"]
  if ← eatKeyword .WITH then
    expectWord ["ties"]
    return (count, percent ++ ["ROWS", "WITH", "TIES"])
  else
    expectWord ["only"]
    return (count, percent ++ ["ROWS", "ONLY"])

def limitAfterWord : Parser (Limit Expr) := do
  let first ← inner.expr 0
  if ← eat .comma then
    let count ← inner.expr 0
    return ((Limit.ofCount count).withOffset first).withComma
  else if ← eatKeyword .OFFSET then
    let offset ← inner.expr 0
    return (Limit.ofCount first).withOffset offset
  else return .ofCount first

def offsetAfterWord : Parser (Limit Expr) := do
  let limit := Limit.ofOffset (← inner.expr 0)
  let _ ← takeIf (isAtAnyWord ["rows", "row"])
  if ← eatKeyword .FETCH then
    let (count, words) ← inner.fetch
    return { limit with count := some count }.withFetchSuffix words
  else return limit

/-- `LIMIT n`, `LIMIT n OFFSET m`, `LIMIT m, n`, `OFFSET m [ROWS]`, `FETCH …`. -/
def limit? : Parser (Option (Limit Expr)) := do
  if ← eatKeyword .LIMIT then return some (← inner.limitAfterWord)
  else if ← eatKeyword .OFFSET then return some (← inner.offsetAfterWord)
  else if ← eatKeyword .FETCH then
    let (count, words) ← inner.fetch
    return some ((Limit.ofCount count).withFetchSuffix words)
  else return none

/-- A dialect without RETURNING leaves the word where it is. -/
def returning? : Parser (Option (Columns Expr)) := do
  if (← isAtKeyword .RETURNING) && (← read).dialect.supportsReturning then
    advance
    return some (← inner.columns)
  else return none

def cte (recursive : Bool) : Parser (Cte Expr) := do
  let name ← identifier
  addCte name
  let columns ← if ← isAt .leftParen then pure (some (← parenthesizedNames)) else pure none
  expectKeyword .AS
  expect .leftParen
  let body ← inner.parenthesizedQuery
  return { name, columns, body := .query body, recursive }

/-- `WITH [RECURSIVE] name [(columns)] AS (query), …`. -/
def withClause : Parser (List (Cte Expr)) := do
  expectKeyword .WITH
  let recursive ← eatKeyword .RECURSIVE
  commaSeparated (inner.cte recursive)

def selectDistinct : Parser Bool := do
  if ← eatKeyword .DISTINCT then return true
  else
    let _ ← eatKeyword .ALL
    return false

def selectCore (withs : Option (List (Cte Expr))) : Parser (Select Expr) := do
  expectKeyword .SELECT
  let distinct ← selectDistinct
  let columns ← inner.columns
  let tables ← inner.tables?
  let condition ← inner.condition?
  let groupBy ← inner.groupBy?
  let having ← inner.having?
  let windows ← inner.windows?
  let orderBy ← inner.orderBy?
  let limit ← inner.limit?
  return { withs, distinct, columns, tables, condition, groupBy, having, windows, orderBy, limit }

/-- A SELECT after its WITH clause, with the set operations that follow it. -/
def selectChain (withs : Option (List (Cte Expr))) : Parser (Query Expr) := do
  let head ← inner.selectCore withs
  match ← setOperator? with
  | none => return { head }
  | some operator =>
    let next ← inner.query
    return { head := { head with setOperator := some operator }, rest := next.head :: next.rest }

def setChain : Parser (Query Expr) := do
  let withs ← if ← isAtKeyword .WITH then pure (some (← inner.withClause)) else pure none
  inner.selectChain withs

/-- A SELECT with its set operations; what it meets is noted under `select`. -/
def readQuery : Parser (Query Expr) := withVerb "select" inner.setChain

end Nested

end SqlWeave.Parser
