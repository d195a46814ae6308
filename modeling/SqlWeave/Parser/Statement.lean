import SqlWeave.Parser.Expr
import SqlWeave.Parser.Query
import SqlWeave.Tree.Statement

/-! Statements. Each sets the verb under which its own tables and columns are noted. -/

namespace SqlWeave.Parser

def ifNotExists : Parser Bool := do
  if ← eatKeyword .IF then
    expectKeyword .NOT
    expectKeyword .EXISTS
    return true
  else return false

/-- What stands between INSERT and the table. -/
def insertWords : Parser (Option String) := do
  if ← eatWord "ignore" then
    let _ ← eatKeyword .INTO
    return some "ignore into"
  else if ← eatKeyword .INTO then return none
  else return some ""

/-- The names after each point of a DELETE target, a star at the end left out. -/
def targetTail : Nat → Parser (List String)
  | 0 => outOfRounds
  | n + 1 => do
    if ← eat .dot then
      if ← eat .star then return []
      else
        let name ← identifier
        return name :: (← targetTail n)
    else return []

def deleteTarget : Parser (Table Expr) := do
  let first ← identifier
  tableOf (first :: (← targetTail (← rounds)))

def deleteTargets : Nat → Parser (List (Table Expr))
  | 0 => outOfRounds
  | n + 1 => do
    if ← isAtKeyword .FROM then return []
    else
      let target ← deleteTarget
      if ← eat .comma then return target :: (← deleteTargets n) else return [target]

/-- Skips to the parenthesis that closes `depth` open ones. -/
def skipGroupWithin : Nat → Nat → Parser Unit
  | 0, _ => outOfRounds
  | n + 1, depth => do
    match ← kind with
    | .symbol .leftParen =>
      advance
      skipGroupWithin n (depth + 1)
    | .symbol .rightParen =>
      advance
      if depth ≤ 1 then return () else skipGroupWithin n (depth - 1)
    | .eof => unexpected ")"
    | _ =>
      advance
      skipGroupWithin n depth

/-- Skips a group after its opening parenthesis. -/
def closeGroup : Parser Unit := do skipGroupWithin (← rounds) 1

def skipGroup : Parser Unit := do
  expect .leftParen
  closeGroup

def endsOption : TokenKind → Bool
  | .eof | .symbol .semicolon | .symbol .comma => true
  | _ => false

/-- One token and a group in parentheses after it, as written. -/
def rawValue : Parser String := do
  if ← isAt .leftParen then written closeGroup
  else if endsOption (← kind) then unexpected "option value"
  else written do if ← isAt .leftParen then skipGroup

/-- The keyword of a table option, in capitals. -/
def optionKeyword? : Parser (Option String) := do
  match ← kind with
  | .identifier word =>
    advance
    return some (Text.upper word)
  | .keyword .DEFAULT =>
    advance
    return some ("DEFAULT " ++ Text.upper (← identifier))
  | .keyword .COLLATE =>
    advance
    return some "COLLATE"
  | .keyword .ORDER =>
    advance
    expectKeyword .BY
    return some "ORDER BY"
  | .keyword .PARTITION =>
    advance
    expectKeyword .BY
    return some "PARTITION BY"
  | .keyword .PRIMARY =>
    advance
    expectKeyword .KEY
    return some "PRIMARY KEY"
  | _ => return none

def tableOptions : Nat → Parser (List TableOption)
  | 0 => outOfRounds
  | n + 1 => do
    match ← optionKeyword? with
    | none => return []
    | some keyword =>
      let symbol := if ← eat .eq then some "=" else none
      let value ← rawValue
      let _ ← eat .comma
      return { keyword, symbol, value } :: (← tableOptions n)

/-- A constraint on the table is kept as a call named after it. -/
def tableConstraint (name : String) : Parser Expr := do
  return .call name ((← parenthesizedNames).map Expr.column)

/-- The kinds of things that CREATE and DROP know. -/
def objectKeyword? : TokenKind → Option String
  | .keyword .TABLE => some "table"
  | .keyword .VIEW => some "view"
  | .keyword .DATABASE => some "database"
  | .keyword .SCHEMA => some "schema"
  | _ => none

/-- Any number of semicolons. -/
def semicolons : Parser Unit := do
  let _ ← many (eat .semicolon) (pure ())

def isAtStatementEnd : Parser Bool := return (← isAt .semicolon) || (← kind) == .eof

def objectExpected : String := "TABLE, VIEW, DATABASE or SCHEMA"

namespace Nested

variable (inner : Nested)

def assignment : Parser (Assignment Expr) := do
  let first ← identifier
  let (table, column) ← if ← eat .dot then pure (some first, ← identifier) else pure (none, first)
  addColumn table column
  expect .eq
  return { column, value := ← inner.expr 0, table }

def assignments : Parser (List (Assignment Expr)) := commaSeparated inner.assignment

def row : Parser Expr := do
  expect .leftParen
  return .list (← inner.exprsUpTo .rightParen)

def insertColumns (table : String) : Parser (Option (List String)) := do
  let next ← nextKind
  if (← isAt .leftParen) && next != .keyword .SELECT && next != .keyword .WITH then
    let columns ← parenthesizedNames
    columns.forM fun column => addColumn (some table) column
    return some columns
  else return none

def insertSource : Parser (InsertSource Expr) := do
  if ← eatKeyword .VALUES then return .rows (← commaSeparated inner.row)
  else if ← isAtQuery then return .query (.query (← inner.query))
  else if ← eat .leftParen then return .query (.query (← inner.parenthesizedQuery).parenthesized)
  else unexpected "VALUES or SELECT"

def onDuplicate? : Parser (Option (List (Assignment Expr))) := do
  if ← eatKeyword .ON then
    expectWord ["duplicate"]
    expectKeyword .KEY
    expectKeyword .UPDATE
    return some (← inner.assignments)
  else return none

/-- An INSERT or a REPLACE. -/
def insert (verb : String) : Parser (Insert Expr) := do
  setVerb verb
  advance
  let into ← insertWords
  let table ← tableName
  let columns ← insertColumns (table.table.getD "")
  let source ← inner.insertSource
  let onDuplicate ← inner.onDuplicate?
  let returning ← inner.returning?
  return { tables := [table], columns, source := some source, into, onDuplicate, returning }

def update (withs : Option (List (Cte Expr))) : Parser (Update Expr) := do
  setVerb "update"
  expectKeyword .UPDATE
  let tables ← inner.tableList
  expectKeyword .SET
  let assignments ← inner.assignments
  let source ← inner.tables?
  let condition ← inner.condition?
  let orderBy ← inner.orderBy?
  let limit ← inner.limit?
  let returning ← inner.returning?
  return { withs, tables, assignments, source, condition, orderBy, limit, returning }

/-- The named FROM tables as targets, where DELETE gives none. -/
def impliedTargets (tables : List (Table Expr)) : List (Table Expr) :=
  (tables.filter (·.table.isSome)).map fun t =>
    { db := t.db, schema := t.schema, table := t.table, aliasName := t.aliasName, addition := true }

def delete (withs : Option (List (Cte Expr))) : Parser (Delete Expr) := do
  setVerb "delete"
  expectKeyword .DELETE
  let targets ← deleteTargets (← rounds)
  expectKeyword .FROM
  let tables ← inner.tableList
  let condition ← inner.condition?
  let orderBy ← inner.orderBy?
  let limit ← inner.limit?
  let returning ← inner.returning?
  return {
    withs, targets := some (if targets.isEmpty then impliedTargets tables else targets),
    source := some tables, condition, orderBy, limit, returning }

/-- One constraint of a column definition, if one comes next. The default is read above the strength
of comparisons, so that a NOT NULL after it is left alone. -/
def columnConstraint (d : ColumnDefinition Expr) : Parser (Option (ColumnDefinition Expr)) := do
  match ← kind with
  | .keyword .NOT =>
    advance
    expectKeyword .NULL
    return some { d with nullable := some "not null" }
  | .keyword .NULL =>
    advance
    return some { d with nullable := some "null" }
  | .keyword .DEFAULT =>
    advance
    return some { d with defaultValue := some (← inner.expr 7) }
  | .keyword .PRIMARY =>
    advance
    expectKeyword .KEY
    return some { d with primaryKey := some "primary key" }
  | .keyword .UNIQUE =>
    advance
    let _ ← eatKeyword .KEY
    return some { d with unique := some "unique" }
  | .keyword .COLLATE =>
    advance
    return some { d with collate := some (← identifier) }
  | .identifier word =>
    if Text.sameAscii word "auto_increment" || Text.sameAscii word "autoincrement" then
      advance
      return some { d with autoIncrement := some (Text.lower word) }
    else if Text.sameAscii word "comment" then
      advance
      return some { d with comment := some (← inner.primary) }
    else return none
  | _ => return none

def columnConstraints : Nat → ColumnDefinition Expr → Parser (ColumnDefinition Expr)
  | 0, _ => outOfRounds
  | n + 1, d => do
    match ← inner.columnConstraint d with
    | some d => columnConstraints n d
    | none => return d

def columnDefinition : Parser (ColumnDefinition Expr) := do
  let name ← identifier
  addColumn none name
  let type ← inner.dataType
  inner.columnConstraints (← rounds) (.ofName name type)

/-- A column, or a PRIMARY KEY or UNIQUE constraint, whose name is not kept. -/
def createDefinition : Parser Expr := do
  if ← eatWord "constraint" then
    let _ ← identifier
  if ← eatKeyword .PRIMARY then
    expectKeyword .KEY
    tableConstraint "PRIMARY KEY"
  else if ← eatKeyword .UNIQUE then
    let _ ← eatKeyword .KEY
    if !(← isAt .leftParen) then
      let _ ← identifier
    tableConstraint "UNIQUE"
  else return .mk (.columnDefinition (← inner.columnDefinition))

def createDefinitions? : Parser (Option (List Expr)) := do
  if ← eat .leftParen then
    let definitions ← commaSeparated inner.createDefinition
    expect .rightParen
    return some definitions
  else return none

def createTable (c : Create Expr) : Parser (Create Expr) := do
  let ifNotExists ← ifNotExists
  let table ← tableName
  let definitions ← inner.createDefinitions?
  let options ← tableOptions (← rounds)
  let query ← if ← eatKeyword .AS then pure (some (.query (← inner.query))) else pure none
  return { c with
    ifNotExists, tables := some [table], definitions,
    options := if options.isEmpty then none else some options, query }

def createView (c : Create Expr) : Parser (Create Expr) := do
  let ifNotExists ← ifNotExists
  let table ← tableName
  expectKeyword .AS
  return { c with ifNotExists, tables := some [table], query := some (.query (← inner.query)) }

def createDatabase (c : Create Expr) : Parser (Create Expr) := do
  let ifNotExists ← ifNotExists
  return { c with ifNotExists, database := some (← identifier) }

def create : Parser (Create Expr) := do
  setVerb "create"
  expectKeyword .CREATE
  let orReplace ← eatKeyword .OR
  if orReplace then expectKeyword .REPLACE
  let temporary ← takeIf (return (← isAtKeyword .TEMPORARY) || (← isAtWord "temp"))
  match objectKeyword? (← kind) with
  | none => unexpected objectExpected
  | some keyword =>
    advance
    let c : Create Expr := { keyword, orReplace, temporary }
    if keyword = "table" then inner.createTable c
    else if keyword = "view" then inner.createView c
    else createDatabase c

def drop : Parser (Drop Expr) := do
  setVerb "drop"
  expectKeyword .DROP
  match objectKeyword? (← kind) with
  | none => unexpected objectExpected
  | some keyword =>
    advance
    let ifExists ← eatKeyword .IF
    if ifExists then expectKeyword .EXISTS
    return { keyword, ifExists, names := ← commaSeparated tableName }

def showTarget : Parser String := do
  setVerb "show"
  expectKeyword .SHOW
  match ← kind with
  | .identifier word =>
    advance
    return Text.lower word
  | .keyword k =>
    advance
    return Text.asciiLower k.spelling
  | _ => unexpected "SHOW target"

/-- A WITH clause before SELECT, UPDATE or DELETE. Before SELECT it is read once more as part of the
query, so that it stands at the head of the set operations. -/
def withStatement : Parser (Statement Expr) := do
  let start ← get
  let withs ← inner.withClause
  match ← kind with
  | .keyword .SELECT =>
    rewind start
    return .select (← inner.query)
  | .keyword .UPDATE => return .update (← inner.update (some withs))
  | .keyword .DELETE => return .delete (← inner.delete (some withs))
  | _ => unexpected "SELECT, UPDATE or DELETE"

def statement : Parser (Statement Expr) := do
  match ← kind with
  | .keyword .SELECT => return .select (← inner.query)
  | .keyword .WITH => inner.withStatement
  | .keyword .INSERT => return .insert (← inner.insert "insert")
  | .keyword .REPLACE => return .replace (← inner.insert "replace")
  | .keyword .UPDATE => return .update (← inner.update none)
  | .keyword .DELETE => return .delete (← inner.delete none)
  | .keyword .CREATE => return .create (← inner.create)
  | .keyword .DROP => return .drop (← drop)
  | .keyword .SHOW => return .showing (← showTarget)
  | _ => unexpected "SELECT, INSERT, REPLACE, UPDATE, DELETE, CREATE, DROP or SHOW"

/-- Statements up to the end of input, any number of semicolons between them. -/
def statements : Nat → Parser (List (Statement Expr))
  | 0 => outOfRounds
  | n + 1 => do
    semicolons
    if (← kind) == .eof then return []
    else
      let s ← inner.statement
      if ← isAtStatementEnd then return s :: (← statements n) else unexpected "end of statement"

def script : Parser (Script Expr) := do
  match ← inner.statements (← rounds) with
  | [] => unexpected "statement"
  | ss => return .ofStatements ss

end Nested

end SqlWeave.Parser
