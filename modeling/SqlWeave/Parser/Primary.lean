import SqlWeave.Parser.DataType

/-! Operands: literals, names, calls and whatever brackets enclose. -/

namespace SqlWeave.Parser

open Decimal (Binary64 word64? isDigits literal?)

/-- Calls read as aggregates if they have arguments. -/
def aggregates : List String :=
  ["COUNT", "SUM", "AVG", "MIN", "MAX", "GROUP_CONCAT", "STRING_AGG", "ARRAY_AGG"]

/-- Calls read as window functions if OVER follows. -/
def windowFunctions : List String :=
  ["ROW_NUMBER", "RANK", "DENSE_RANK", "NTILE", "LAG", "LEAD", "FIRST_VALUE", "LAST_VALUE",
    "NTH_VALUE", "PERCENT_RANK", "CUME_DIST"]

/-- Functions that may be called without parentheses. -/
def niladic : List String :=
  ["CURRENT_TIMESTAMP", "CURRENT_DATE", "CURRENT_TIME", "CURRENT_USER", "LOCALTIME",
    "LOCALTIMESTAMP", "SESSION_USER"]

/-- Reserved words that are also function names. -/
def isCallableKeyword : Keyword → Bool
  | .REPLACE | .LEFT | .RIGHT | .IF | .INSERT => true
  | _ => false

/-- An integer that fits 64 bits is a number and a longer one a text of digits; a number out of the
range of binary64, or none at all, is kept as written. -/
def numberLiteral (text : String) : Expr :=
  match word64? text with
  | some n => .number (.int n)
  | none =>
    if isDigits text.toList then .text .bigint text
    else
      match (literal? text).bind fun (n, e) => Binary64.ofDecimal false n e with
      | some x => .number (.float x)
      | none => .verbatim text

/-- `@@session.name` is the sigil `@@`, the name `session` and the member `name`. -/
def variableOf (text : String) : Variable :=
  let sigil := text.toList.takeWhile (· == '@')
  let parts := (Text.splitAt '.' (text.toList.dropWhile (· == '@'))).map String.ofList
  { sigil := some (String.ofList sigil), name := parts.headD "", members := parts.drop 1 }

/-- The qualifiers of a dotted name, innermost first, as database, schema and the last one: one
qualifier more is the database, and with two or more the one next to it is the schema. -/
def qualify : List String → Option String × Option String
  | [] => (none, none)
  | [db] => (some db, none)
  | schema :: outer => (some (".".intercalate outer.reverse), some schema)

/-- A column reference under its qualifiers, outermost first; none is a star. -/
def columnOf (qualifiers : List String) (column : Option String) : Parser Expr := do
  let (table, outer) := match qualifiers.reverse with
    | [] => (none, [])
    | table :: outer => (some table, outer)
  let (db, schema) := qualify outer
  addColumn table (column.getD "*")
  return .mk (.column { db, schema, table, column := .ofText (column.getD "*") })

/-- The names after each point, up to a star. -/
def pathTail : Nat → Parser (List String × Bool)
  | 0 => outOfRounds
  | n + 1 => do
    if ← eat .dot then
      if ← eat .star then return ([], true)
      else
        let name ← identifier
        let (names, star) ← pathTail n
        return (name :: names, star)
    else return ([], false)

def pairUp : List Expr → List (Expr × Expr)
  | key :: value :: more => (key, value) :: pairUp more
  | _ => []

namespace Nested

variable (inner : Nested)

def separator? : Parser (Option Expr) := do
  if ← eatWord "separator" then return some (← inner.primary) else return none

def aggregateCall (name : String) : Parser Expr := do
  let distinct ← eatKeyword .DISTINCT
  let args ← inner.exprs
  let orderBy ← inner.orderBy?
  let separator ← inner.separator?
  expect .rightParen
  let window ← inner.over?
  let arg := match args with
    | [e] => e
    | _ => .list args
  return .mk (.aggregate name arg distinct orderBy separator window false)

def plainCall (name : String) : Parser Expr := do
  let args ← inner.exprsUpTo .rightParen
  let window ← inner.over?
  let upper := Text.asciiUpper name
  match window, args with
  | none, [e] =>
    if upper == "UNNEST" then return .mk (.unnest e) else return .call name args
  | some w, _ =>
    if windowFunctions.contains upper then
      return .mk (.windowCall name (if args.isEmpty then none else some (.list args)) w)
    else return .mk (.call name (some (.list args)) window none false)
  | none, _ => return .call name args

/-- A call after its name. -/
def callOf (name : String) : Parser Expr := do
  expect .leftParen
  if aggregates.contains (Text.asciiUpper name) && !(← isAt .rightParen)
    then inner.aggregateCall name
  else inner.plainCall name

def mapLiteral (keyword : String) : Parser Expr := do
  let start := (← get).current.span
  expect .leftBracket
  let items ← inner.exprsUpTo .rightBracket
  if items.length % 2 = 0 then return .mk (.mapLiteral keyword (pairUp items))
  else throw ⟨.oddMapItems, start⟩

/-- A column reference, or a call of a dotted name. -/
def path (first : String) : Parser Expr := do
  let (names, star) ← pathTail (← rounds)
  let parts := first :: names
  if star then columnOf parts none
  else if !names.isEmpty && (← isAt .leftParen) then inner.callOf (".".intercalate parts)
  else columnOf parts.dropLast parts.getLast?

/-- What a name starts: a call, a function without parentheses, an array or map literal, or a
column. A quoted name can only start a column or a dotted call. -/
def nameExpr : Parser Expr := do
  let quoted := match ← kind with
    | .quotedIdentifier _ => true
    | _ => false
  let name ← identifier
  if quoted then inner.path name
  else if ← isAt .leftParen then inner.callOf name
  else
    let upper := Text.asciiUpper name
    if niladic.contains upper then return .mk (.call name none none none false)
    else if ← isAt .leftBracket then
      if upper == "ARRAY" then
        advance
        return .mk (.array (some name) true (← inner.exprsUpTo .rightBracket))
      else if upper == "MAP" then inner.mapLiteral name
      else inner.path name
    else inner.path name

/-- A subquery, an expression or a tuple, after the opening parenthesis. -/
def parenthesizedExpr : Parser Expr := do
  if ← isAtQuery then return .query (← inner.parenthesizedQuery).parenthesized
  else
    let first ← inner.expr 0
    let more ← many (eat .comma) (inner.expr 0)
    expect .rightParen
    if more.isEmpty then return first.parenthesized else return .tuple (first :: more)

def caseArm : Parser (CaseArm Expr) := do
  let condition ← inner.expr 0
  expectKeyword .THEN
  return .when condition (← inner.expr 0)

/-- `CASE [subject] WHEN … THEN … [ELSE …] END` after its first word. -/
def caseExpr : Parser Expr := do
  let subject ← if ← isAtKeyword .WHEN then pure none else pure (some (← inner.expr 0))
  let arms ← many (eatKeyword .WHEN) inner.caseArm
  if arms.isEmpty then unexpected "WHEN"
  else
    let otherwise ← if ← eatKeyword .ELSE then pure [.otherwise (← inner.expr 0)] else pure []
    expectKeyword .END
    return .mk (.case subject (arms ++ otherwise) false)

def castExpr : Parser Expr := do
  expect .leftParen
  let e ← inner.expr 0
  expectKeyword .AS
  let target ← inner.dataType
  expect .rightParen
  return .mk (.cast "CAST" e "as" target false)

def existsExpr : Parser Expr := do
  expect .leftParen
  return .unary "EXISTS" (.query (← inner.parenthesizedQuery).parenthesized)

/-- An interval's unit may be missing. -/
def intervalExpr : Parser Expr := do
  let amount ← inner.operand
  match ← kind with
  | .identifier unit =>
    advance
    return .mk (.interval amount (Text.upper unit))
  | _ => return .mk (.interval amount "")

def extractExpr : Parser Expr := do
  expect .leftParen
  let field ← identifier
  expectKeyword .FROM
  let source ← inner.expr 0
  expect .rightParen
  return .mk (.extract (Text.upper field) source)

def matchColumn : Parser (ColumnRef Expr) := do
  match (← inner.nameExpr).node with
  | .column c => return c
  | _ => unexpected "column"

/-- The words after the phrase, up to the closing parenthesis. -/
def searchMode? : Parser (Option String) := do
  if (← isAtKeyword .IN) || (← isAtKeyword .WITH) then
    return some (Text.lower (← textToParenthesis))
  else return none

/-- `MATCH (columns) AGAINST (phrase [mode])` after its first word. -/
def fullTextSearch : Parser Expr := do
  expect .leftParen
  let columns ← commaSeparated inner.matchColumn
  expect .rightParen
  expectKeyword .AGAINST
  expect .leftParen
  let phrase ← inner.operand
  let mode ← searchMode?
  expect .rightParen
  return .mk (.fullText (some "match") columns (some "against") phrase mode)

def structField : Parser Expr := do
  let key ← inner.primary
  expect .colon
  return .mk (.assign key ":" (← inner.expr 0))

def structFields : Nat → Parser (List Expr)
  | 0 => outOfRounds
  | n + 1 => do
    if ← isAt .rightBrace then return []
    else
      let field ← inner.structField
      if ← eat .comma then return field :: (← structFields n) else return [field]

/-- Fields after the opening brace; a comma may end them. -/
def structLiteral : Parser Expr := do
  let fields ← inner.structFields (← rounds)
  expect .rightBrace
  return .mk (.struct none fields)

/-- A reserved word that is called, or that may also be a name. -/
def wordExpr (k : Keyword) : Parser Expr := do
  if isCallableKeyword k && (← nextKind) == .symbol .leftParen then
    let name ← currentText
    advance
    inner.callOf name
  else if k.isUnreserved then inner.nameExpr
  else unexpected "expression"

def keywordExpr (k : Keyword) : Parser Expr := do
  match k with
  | .NULL => advance; return .null
  | .TRUE => advance; return .bool true
  | .FALSE => advance; return .bool false
  | .DEFAULT => advance; return .text .word "DEFAULT"
  | .CASE => advance; inner.caseExpr
  | .CAST => advance; inner.castExpr
  | .EXISTS => advance; inner.existsExpr
  | .INTERVAL => advance; inner.intervalExpr
  | .EXTRACT => advance; inner.extractExpr
  | .MATCH => advance; inner.fullTextSearch
  | k => inner.wordExpr k

def readPrimary : Parser Expr := do
  match ← kind with
  | .number text => advance; return numberLiteral text
  | .string value => advance; return .string value
  | .doubleQuoted value => advance; return .text .doubleQuoted value
  | .hex digits => advance; return .text .hex digits
  | .variable text => advance; return .mk (.variable (variableOf text))
  | .parameter name => advance; return .param name
  | .symbol .question => advance; return .verbatim "?"
  | .symbol .star => advance; return .star
  | .symbol .leftParen => advance; inner.parenthesizedExpr
  | .symbol .leftBracket =>
    advance
    return .mk (.array none true (← inner.exprsUpTo .rightBracket))
  | .symbol .leftBrace => advance; inner.structLiteral
  | .keyword k => inner.keywordExpr k
  | .identifier _ | .quotedIdentifier _ => inner.nameExpr
  | _ => unexpected "expression"

end Nested

end SqlWeave.Parser
