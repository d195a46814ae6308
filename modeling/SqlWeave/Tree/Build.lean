import SqlWeave.Tree.Node

/-! Building expressions. -/

namespace SqlWeave

namespace Expr

def column (name : String) : Expr := .mk (.column (.ofText name))

def qualifiedColumn (table name : String) : Expr :=
  .mk (.column { ColumnRef.ofText name with table := some table })

def star : Expr := column "*"

def number (n : Json.Number) : Expr := .mk (.number n false)

def text (kind : TextKind) (value : String) : Expr := .mk (.text kind value false)

def string (value : String) : Expr := text .string value

def bool (value : Bool) : Expr := .mk (.bool value false)

def null : Expr := .mk .null

/-- Text to be written as it is. -/
def verbatim (value : String) : Expr := text .verbatim value

def param (name : String) : Expr := text .param name

def list (items : List Expr) : Expr := .mk (.list items none false)

def tuple (items : List Expr) : Expr := .mk (.list items none true)

def call (name : String) (args : List Expr) : Expr :=
  .mk (.call name (some (list args)) none none false)

def unary (operator : String) (operand : Expr) : Expr := .mk (.unary operator operand false)

def binary (left : Expr) (operator : String) (right : Expr) : Expr :=
  .mk (.binary operator left right false)

def and (left right : Expr) : Expr := left.binary "AND" right

def query (q : Query Expr) : Expr := .mk (.query q)

/-- Marks an expression as written inside parentheses. A kind that cannot carry the mark becomes the
only member of a parenthesized list. -/
def parenthesized (e : Expr) : Expr :=
  match e.node with
  | .column c => .mk (.column { c with parens := true })
  | .binary op l r _ => .mk (.binary op l r true)
  | .unary op e _ => .mk (.unary op e true)
  | .call n a o s _ => .mk (.call n a o s true)
  | .aggregate n a d ob s o _ => .mk (.aggregate n a d ob s o true)
  | .cast k e s t _ => .mk (.cast k e s t true)
  | .case s arms _ => .mk (.case s arms true)
  | .list es s _ => .mk (.list es s true)
  | .query q => .mk (.query q.parenthesized)
  | .number n _ => .mk (.number n true)
  | .text k v _ => .mk (.text k v true)
  | .bool b _ => .mk (.bool b true)
  | _ => tuple [e]

end Expr

namespace DataType

def withArg {E : Type} (t : DataType E) (arg : E) : DataType E := { t with args := t.args ++ [arg] }

end DataType

namespace ColumnDefinition

variable {E : Type}

def ofName (name : String) (type : DataType E) : ColumnDefinition E :=
  { column := .ofText name, type }

def notNull (d : ColumnDefinition E) : ColumnDefinition E := { d with nullable := some "not null" }

def asUnique (d : ColumnDefinition E) : ColumnDefinition E := { d with unique := some "unique" }

def asPrimaryKey (d : ColumnDefinition E) : ColumnDefinition E :=
  { d with primaryKey := some "primary key" }

def withDefault (d : ColumnDefinition E) (value : E) : ColumnDefinition E :=
  { d with defaultValue := some value }

end ColumnDefinition

end SqlWeave
