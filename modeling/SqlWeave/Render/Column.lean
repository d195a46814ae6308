import SqlWeave.Render.Registry
import SqlWeave.Tree.Query

/-! Columns: the standard rules, what takes their place where they are not registered, and select
lists. -/

namespace SqlWeave

namespace Render

/-- A type around the rendered texts of its arguments. -/
def typeText {E : Type} (t : DataType E) (args : List String) : String :=
  let size := match t.length, t.scale with
    | some length, some scale => inParens (toString length ++ ", " ++ toString scale)
    | some length, none => inParens (toString length)
    | none, _ => if args.isEmpty then "" else inParens (commas args)
  t.name ++ size ++ (if t.array then "[]" else "") ++
    String.join (t.suffix.map fun word => " " ++ Text.upper word)

/-- Only where the arguments are shown are they rendered. -/
def dataType (t : DataType Item) : Result String :=
  if t.length.isSome then return typeText t []
  else return typeText t (← sqls t.args)

/-- Texts that may stand for a name. -/
def isNameText : TextKind → Bool
  | .string | .doubleQuoted | .backtickQuoted | .word => true
  | _ => false

def columnName (d : Dialect) : ColumnName Item → Result String
  | .star => return "*"
  | .name text => return d.quoteIdentifier text
  | .computed i =>
    match i.1.node with
    | .text kind value _ => if isNameText kind then return d.quoteIdentifier value else i.sql
    | _ => i.sql

def standardColumnRef (config : RenderConfig) (c : ColumnRef Item) : Result String := do
  let qualifiers := c.qualifiers.map config.dialect.quoteIdentifier
  let name ← columnName config.dialect c.column
  let collate := match c.collate with
    | some collate => " COLLATE " ++ collate
    | none => ""
  return Text.parenthesize c.parens (".".intercalate (qualifiers ++ [name]) ++ collate)

def searchWords (matchWord againstWord : Option String) : String × String :=
  (Text.upper (matchWord.getD "MATCH"), Text.upper (againstWord.getD "AGAINST"))

def standardFullText (config : RenderConfig) (matchWord : Option String)
    (columns : List (ColumnRef Item)) (againstWord : Option String) (phrase : Item)
    (mode : Option String) : Result String := do
  let columns ← columns.mapM (standardColumnRef config)
  let phrase ← phrase.sql
  let mode := match mode with
    | some mode => " " ++ Text.upper mode
    | none => ""
  let (matchWord, againstWord) := searchWords matchWord againstWord
  return matchWord ++ " " ++ inParens (commas columns) ++ " " ++ againstWord ++ " " ++
    inParens (phrase ++ mode)

/-- A keyword before an optional expression. -/
def optional (keyword : String) : Option Item → Result String
  | none => return ""
  | some i => return keyword ++ " " ++ (← i.sql)

def standardColumnDefinition (config : RenderConfig) (d : ColumnDefinition Item) : Result String :=
  do
  let default ← optional "DEFAULT" d.defaultValue
  let comment ← optional "COMMENT" d.comment
  let name ← columnName config.dialect d.column.column
  let type ← dataType d.type
  return fragments [
    name, type, upper? d.nullable, default, upper? d.autoIncrement, upper? d.unique,
    upper? d.primaryKey, comment, (d.collate.map ("COLLATE " ++ ·)).getD ""]

end Render

def ColumnRules.standard : ColumnRules where
  columnRef := Render.standardColumnRef
  fullText := Render.standardFullText
  columnDefinition := Render.standardColumnDefinition

def Registry.standard : Registry := Registry.empty.registerAll .standard

structure Renderer where
  config : RenderConfig
  registry : Registry := .standard

namespace Render

/-- A column without a rule: its name, and its qualifiers only before a star. -/
def bareColumnRef (d : Dialect) (c : ColumnRef Item) : String :=
  match c.column with
  | .star => ".".intercalate (c.qualifiers.map d.quoteIdentifier ++ ["*"])
  | .name text => d.quoteIdentifier text
  | .computed i => (i.1.literalText?.map d.quoteIdentifier).getD ""

def bareFullText (matchWord : Option String) (columns : List (ColumnRef Item))
    (againstWord : Option String) : String :=
  let names := columns.map fun c => (c.column.map Prod.fst).text?.getD "column"
  let names := if names.isEmpty then "column" else commas names
  let (matchWord, againstWord) := searchWords matchWord againstWord
  matchWord ++ " " ++ inParens names ++ " " ++ againstWord ++ " (?)"

/-- A column definition without a rule: its name and the bare name of its type. -/
def bareColumnDefinition (d : Dialect) (c : ColumnDefinition Item) : String :=
  let name := ((c.map Prod.fst).name?.map d.quoteIdentifier).getD ""
  Text.trim (name ++ " " ++ c.type.name)

end Render

namespace Renderer

open Render

variable (r : Renderer)

def ident (name : String) : String := r.config.dialect.quoteIdentifier name

def idents (names : List String) : List String := names.map r.ident

def aliasText (name : String) : String := if isPlainAlias name then name else r.ident name

/-- An entry of a select list. Against DUAL an unqualified name is written as it is. -/
def column (dual : Bool) (c : Column Item) : Result String := do
  let sql ← match c.expr.1.node with
    | .column ref =>
      match dual && ref.table.isNone, ref.column with
      | true, .name text => pure text
      | _, _ => c.expr.sql
    | _ => c.expr.sql
  match c.aliasName with
  | some aliasName => return sql ++ " AS " ++ r.aliasText aliasName
  | none => return sql

/-- The entries of a select list; a star has none. -/
def columns (cs : Columns Item) (tables : Option (List (Table Item))) : Result (List String) :=
  match cs with
  | .all => return []
  | .list items =>
    let dual := (tables.bind List.head?).any Table.isDual
    items.mapM (r.column dual)

def selectList (cs : Columns Item) (tables : Option (List (Table Item))) : Result String :=
  match cs with
  | .all => return "*"
  | cs => return commas (← r.columns cs tables)

end Renderer

end SqlWeave
