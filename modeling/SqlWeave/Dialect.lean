import SqlWeave.Text.Ascii

/-! The supported SQL dialects and the few questions on which they differ. -/

namespace SqlWeave

inductive Dialect where
  | athena | bigQuery | clickHouse | db2 | duckDb | flinkSql | hive | mariaDb | mySql | noQl
  | postgreSql | redshift | snowflake | sqlite | transactSql | trino
deriving DecidableEq, Repr

/-- How a dialect delimits identifiers. -/
inductive IdentifierQuote where
  | backtick | doubleQuote | bracket | bare
deriving DecidableEq, Repr

/-- `LIMIT n OFFSET m`, or `OFFSET m ROWS FETCH NEXT n ROWS ONLY`. -/
inductive LimitStyle where
  | limitOffset | fetchOffset
deriving DecidableEq, Repr

/-- The opening and the closing delimiter, if there are any. -/
def IdentifierQuote.delimiters : IdentifierQuote → Option (Char × Char)
  | .backtick => some ('\x60', '\x60')
  | .doubleQuote => some ('"', '"')
  | .bracket => some ('[', ']')
  | .bare => none

namespace Dialect

def all : List Dialect :=
  [.athena, .bigQuery, .clickHouse, .db2, .duckDb, .flinkSql, .hive, .mariaDb, .mySql, .noQl,
    .postgreSql, .redshift, .snowflake, .sqlite, .transactSql, .trino]

def name : Dialect → String
  | .athena => "athena"
  | .bigQuery => "bigquery"
  | .clickHouse => "clickhouse"
  | .db2 => "db2"
  | .duckDb => "duckdb"
  | .flinkSql => "flinksql"
  | .hive => "hive"
  | .mariaDb => "mariadb"
  | .mySql => "mysql"
  | .noQl => "noql"
  | .postgreSql => "postgresql"
  | .redshift => "redshift"
  | .snowflake => "snowflake"
  | .sqlite => "sqlite"
  | .transactSql => "transactsql"
  | .trino => "trino"

/-- Names are matched without regard to ASCII case. -/
def ofName? (name : String) : Option Dialect := all.find? (·.name == Text.asciiLower name)

theorem ofName?_name (d : Dialect) : ofName? d.name = some d := by
  cases d <;> decide

def identifierQuote : Dialect → IdentifierQuote
  | .mySql | .mariaDb | .hive | .flinkSql | .clickHouse => .backtick
  | .transactSql => .bracket
  | .bigQuery | .db2 => .bare
  | _ => .doubleQuote

/-- `*` is never quoted, since it stands for every column. -/
def quoteIdentifier (d : Dialect) (name : String) : String :=
  if name = "*" then name
  else
    match d.identifierQuote.delimiters with
    | some (opening, closing) => Text.enclose opening closing name
    | none => name

def limitStyle : Dialect → LimitStyle
  | .transactSql | .db2 => .fetchOffset
  | _ => .limitOffset

/-- Whether `FETCH` is accepted only after `OFFSET … ROWS`. -/
def requiresOffsetBeforeFetch (d : Dialect) : Bool := d == .transactSql

/-- Whether `LIMIT offset, count` is accepted. -/
def supportsLimitComma : Dialect → Bool
  | .mySql | .mariaDb | .clickHouse | .sqlite => true
  | _ => false

/-- Whether DELETE names its targets before FROM; ClickHouse rejects `DELETE t FROM t`. -/
def printsDeleteTargets (d : Dialect) : Bool := d != .clickHouse

/-- Whether a table alias is introduced with `AS`. -/
def tableAliasKeyword (d : Dialect) : Bool := d != .duckDb

def supportsReturning : Dialect → Bool
  | .postgreSql | .sqlite | .duckDb | .mariaDb | .redshift => true
  | _ => false

end Dialect

end SqlWeave
