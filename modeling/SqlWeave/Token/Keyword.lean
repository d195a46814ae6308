import SqlWeave.Text.Ascii

/-! The reserved words. Type names, function names and the words of single dialects are not
reserved, so they stay usable as column names. -/

namespace SqlWeave

inductive Keyword where
  | SELECT | FROM | WHERE | ORDER | BY | GROUP | HAVING | LIMIT | OFFSET | FETCH | DISTINCT | ALL
  | JOIN | INNER | LEFT | RIGHT | FULL | OUTER | CROSS | ON | USING
  | UNION | INTERSECT | EXCEPT
  | INSERT | REPLACE | INTO | VALUES | UPDATE | SET | DELETE | RETURNING
  | CREATE | DROP | SHOW | TABLE | VIEW | DATABASE | SCHEMA | TEMPORARY | PRIMARY | KEY | UNIQUE
  | DEFAULT
  | AND | OR | NOT | IN | BETWEEN | LIKE | IS | NULL | TRUE | FALSE | EXISTS
  | ASC | DESC | NULLS
  | AS | CASE | WHEN | THEN | ELSE | END | CAST | INTERVAL | EXTRACT | COLLATE | MATCH | AGAINST
  | IF
  | WITH | RECURSIVE | OVER | PARTITION
deriving DecidableEq, Repr

namespace Keyword

def all : List Keyword :=
  [.SELECT, .FROM, .WHERE, .ORDER, .BY, .GROUP, .HAVING, .LIMIT, .OFFSET, .FETCH, .DISTINCT, .ALL,
    .JOIN, .INNER, .LEFT, .RIGHT, .FULL, .OUTER, .CROSS, .ON, .USING, .UNION, .INTERSECT, .EXCEPT,
    .INSERT, .REPLACE, .INTO, .VALUES, .UPDATE, .SET, .DELETE, .RETURNING, .CREATE, .DROP, .SHOW,
    .TABLE, .VIEW, .DATABASE, .SCHEMA, .TEMPORARY, .PRIMARY, .KEY, .UNIQUE, .DEFAULT, .AND, .OR,
    .NOT, .IN, .BETWEEN, .LIKE, .IS, .NULL, .TRUE, .FALSE, .EXISTS, .ASC, .DESC, .NULLS, .AS, .CASE,
    .WHEN, .THEN, .ELSE, .END, .CAST, .INTERVAL, .EXTRACT, .COLLATE, .MATCH, .AGAINST, .IF, .WITH,
    .RECURSIVE, .OVER, .PARTITION]

def spelling : Keyword → String
  | .SELECT => "SELECT"
  | .FROM => "FROM"
  | .WHERE => "WHERE"
  | .ORDER => "ORDER"
  | .BY => "BY"
  | .GROUP => "GROUP"
  | .HAVING => "HAVING"
  | .LIMIT => "LIMIT"
  | .OFFSET => "OFFSET"
  | .FETCH => "FETCH"
  | .DISTINCT => "DISTINCT"
  | .ALL => "ALL"
  | .JOIN => "JOIN"
  | .INNER => "INNER"
  | .LEFT => "LEFT"
  | .RIGHT => "RIGHT"
  | .FULL => "FULL"
  | .OUTER => "OUTER"
  | .CROSS => "CROSS"
  | .ON => "ON"
  | .USING => "USING"
  | .UNION => "UNION"
  | .INTERSECT => "INTERSECT"
  | .EXCEPT => "EXCEPT"
  | .INSERT => "INSERT"
  | .REPLACE => "REPLACE"
  | .INTO => "INTO"
  | .VALUES => "VALUES"
  | .UPDATE => "UPDATE"
  | .SET => "SET"
  | .DELETE => "DELETE"
  | .RETURNING => "RETURNING"
  | .CREATE => "CREATE"
  | .DROP => "DROP"
  | .SHOW => "SHOW"
  | .TABLE => "TABLE"
  | .VIEW => "VIEW"
  | .DATABASE => "DATABASE"
  | .SCHEMA => "SCHEMA"
  | .TEMPORARY => "TEMPORARY"
  | .PRIMARY => "PRIMARY"
  | .KEY => "KEY"
  | .UNIQUE => "UNIQUE"
  | .DEFAULT => "DEFAULT"
  | .AND => "AND"
  | .OR => "OR"
  | .NOT => "NOT"
  | .IN => "IN"
  | .BETWEEN => "BETWEEN"
  | .LIKE => "LIKE"
  | .IS => "IS"
  | .NULL => "NULL"
  | .TRUE => "TRUE"
  | .FALSE => "FALSE"
  | .EXISTS => "EXISTS"
  | .ASC => "ASC"
  | .DESC => "DESC"
  | .NULLS => "NULLS"
  | .AS => "AS"
  | .CASE => "CASE"
  | .WHEN => "WHEN"
  | .THEN => "THEN"
  | .ELSE => "ELSE"
  | .END => "END"
  | .CAST => "CAST"
  | .INTERVAL => "INTERVAL"
  | .EXTRACT => "EXTRACT"
  | .COLLATE => "COLLATE"
  | .MATCH => "MATCH"
  | .AGAINST => "AGAINST"
  | .IF => "IF"
  | .WITH => "WITH"
  | .RECURSIVE => "RECURSIVE"
  | .OVER => "OVER"
  | .PARTITION => "PARTITION"

/-- The reserved word spelled so, without regard to ASCII case. -/
def lookup? (word : String) : Option Keyword := all.find? (·.spelling == Text.asciiUpper word)

/-- Whether the word may also name a column or a table. -/
def isUnreserved : Keyword → Bool
  | .KEY | .VIEW | .TEMPORARY | .DATABASE | .SCHEMA | .SHOW | .NULLS | .RECURSIVE => true
  | _ => false

end Keyword

end SqlWeave
