/-! Parts of an expression that stand around its subexpressions. `E` is the type of those, so a part
says nothing about how deep an expression is. -/

namespace SqlWeave

/-- What a column reference names. -/
inductive ColumnName (E : Type) where
  | star
  | name (text : String)
  /-- The text of the expression is the name. -/
  | computed (expr : E)

/-- `db.schema.table.column`, each qualifier optional. -/
structure ColumnRef (E : Type) where
  db : Option String := none
  schema : Option String := none
  table : Option String := none
  column : ColumnName E
  collate : Option String := none
  parens : Bool := false

/-- An ORDER BY or PARTITION BY item. -/
structure OrderItem (E : Type) where
  expr : E
  direction : Option String := none
  nulls : Option String := none

/-- A window: another window's name, or a specification. The frame is kept as written. -/
structure WindowSpec (E : Type) where
  name : Option String := none
  partitionBy : Option (List (OrderItem E)) := none
  orderBy : Option (List (OrderItem E)) := none
  frame : Option String := none

structure NamedWindow (E : Type) where
  name : String
  spec : WindowSpec E

/-- `VARCHAR(255)`, `DECIMAL(10, 2)`, `MAP(VARCHAR, INTEGER)`. The name is kept as written, because
some dialects tell its case apart. -/
structure DataType (E : Type) where
  name : String
  length : Option Nat := none
  scale : Option Nat := none
  args : List E := []
  suffix : List String := []
  array : Bool := false

structure ColumnDefinition (E : Type) where
  column : ColumnRef E
  type : DataType E
  nullable : Option String := none
  defaultValue : Option E := none
  autoIncrement : Option String := none
  unique : Option String := none
  primaryKey : Option String := none
  comment : Option E := none
  collate : Option String := none

inductive CaseArm (E : Type) where
  | when (condition result : E)
  | otherwise (result : E)

/-- `@name` or `@@session.name`. -/
structure Variable where
  sigil : Option String := some "@"
  name : String
  members : List String := []
  quote : Option String := none
  suffix : Option String := none
deriving DecidableEq

variable {E F : Type}

namespace ColumnName

def map (f : E → F) : ColumnName E → ColumnName F
  | .star => .star
  | .name text => .name text
  | .computed e => .computed (f e)

/-- The name written so; `*` names every column. -/
def ofText (text : String) : ColumnName E := if text = "*" then .star else .name text

end ColumnName

namespace ColumnRef

def map (f : E → F) (c : ColumnRef E) : ColumnRef F :=
  ⟨c.db, c.schema, c.table, c.column.map f, c.collate, c.parens⟩

def ofText (text : String) : ColumnRef E := { column := .ofText text }

/-- The qualifiers that are there, outermost first. -/
def qualifiers (c : ColumnRef E) : List String := [c.db, c.schema, c.table].filterMap id

end ColumnRef

def OrderItem.map (f : E → F) (i : OrderItem E) : OrderItem F := ⟨f i.expr, i.direction, i.nulls⟩

def WindowSpec.map (f : E → F) (w : WindowSpec E) : WindowSpec F :=
  ⟨w.name, w.partitionBy.map (·.map (·.map f)), w.orderBy.map (·.map (·.map f)), w.frame⟩

def NamedWindow.map (f : E → F) (w : NamedWindow E) : NamedWindow F := ⟨w.name, w.spec.map f⟩

def DataType.map (f : E → F) (t : DataType E) : DataType F :=
  ⟨t.name, t.length, t.scale, t.args.map f, t.suffix, t.array⟩

def ColumnDefinition.map (f : E → F) (d : ColumnDefinition E) : ColumnDefinition F :=
  ⟨d.column.map f, d.type.map f, d.nullable, d.defaultValue.map f, d.autoIncrement, d.unique,
    d.primaryKey, d.comment.map f, d.collate⟩

def CaseArm.map (f : E → F) : CaseArm E → CaseArm F
  | .when condition result => .when (f condition) (f result)
  | .otherwise result => .otherwise (f result)

end SqlWeave
