import SqlWeave.Tree.Node
import SqlWeave.Wire.Limit

/-! The parts of a tree. What nests in a part comes in as a record of readers, so that no reader
here is recursive. -/

namespace SqlWeave.Wire

structure Nested where
  expr : Reader Expr
  query : Reader (Query Expr)

namespace Read

def caseArmTags : List String := ["when", "else"]

/-- A tagged value is an object with a `type`, or an array that starts with one. The rest of it is
read as a record. -/
def tagged {α : Type} (tag : Reader String) (record : String → Except ReadError (Record α)) :
    Reader α
  | .object fields =>
    match Json.Fields.get? fields "type" with
    | some v => do
      let r ← record (← tag v)
      r.ofFields (Json.Fields.erase fields "type")
    | none => .error (.missingField "type")
  | .array [] => .error (.missingField "type")
  | .array (v :: items) => do
    let r ← record (← tag v)
    r.ofItems items
  | _ => .error .mismatch

end Read

namespace Nested

open Record Read

variable (inner : Nested)

/-- An expression behind a name that may also be wrapped as the `value` of an object. -/
def wrappedExpr : Reader (Option Expr)
  | .null => .ok none
  | v =>
    match v.get? "value" with
    | some (.object fields) => some <$> inner.expr (.object fields)
    | _ => some <$> inner.expr v

def columnName : Reader (ColumnName Expr)
  | .string s => .ok (.ofText s)
  | .number n => .ok (.name n.text)
  | .object fields =>
    .computed <$> inner.expr ((Json.Fields.get? fields "expr").getD (.object fields))
  | v => .error (.invalidColumnName v)

def columnRef : Record (ColumnRef Expr) :=
  ColumnRef.mk <$> text? "db" <*> text? "schema" <*> text? "table" <*>
    required "column" inner.columnName <*> text? "collate" <*> parens

def orderItem : Record (OrderItem Expr) :=
  OrderItem.mk <$> required "expr" inner.expr <*> text? "type" <*> text? "nulls"

def orderItems? (key : String) : Record (Option (List (OrderItem Expr))) :=
  list? key inner.orderItem.ofJson

def windowSpec : Record (WindowSpec Expr) :=
  WindowSpec.mk <$> text? "name" <*> inner.orderItems? "partitionby" <*>
    inner.orderItems? "orderby" <*> text? "frame"

def over? : Record (Option (WindowSpec Expr)) := Record.optional "over" inner.windowSpec.ofJson

/-- The name of another window, or a specification, either of which may be wrapped. -/
def namedSpec : Reader (WindowSpec Expr) := fun v =>
  match (v.get? "window_specification").getD v with
  | .string s => .ok { name := some s }
  | v => inner.windowSpec.ofJson v

def namedWindow : Record (NamedWindow Expr) :=
  NamedWindow.mk <$> required "name" name <*> required "as_window_specification" inner.namedSpec

def namedWindows : Record (List (NamedWindow Expr)) := many "expr" inner.namedWindow.ofJson

def dataType : Record (DataType Expr) :=
  DataType.mk <$> required "dataType" name <*> Record.optional "length" natural <*>
    Record.optional "scale" natural <*> many "args" inner.expr <*> defaulted "suffix" names [] <*>
    defaulted "array" bool false

def columnDefinition : Record (ColumnDefinition Expr) :=
  ColumnDefinition.mk <$> required "column" inner.columnRef.ofJson <*>
    required "definition" inner.dataType.ofJson <*> text? "nullable" <*>
    defaulted "default_val" inner.wrappedExpr none <*> text? "auto_increment" <*> text? "unique" <*>
    text? "primary_key" <*> defaulted "comment" inner.wrappedExpr none <*> text? "collate"

def caseArm : Reader (CaseArm Expr) :=
  tagged string fun
    | "when" => .ok (CaseArm.when <$> required "cond" inner.expr <*> required "result" inner.expr)
    | "else" => .ok (CaseArm.otherwise <$> required "result" inner.expr)
    | tag => .error (.unknownTag tag caseArmTags)

def table : Record (Table Expr) :=
  Table.mk <$> text? "db" <*> text? "schema" <*> text? "table" <*>
    Record.optional "expr" inner.expr <*>
    text? "as" <*> text? "join" <*> Record.optional "on" inner.expr <*>
    defaulted "using" names? none <*> flag "addition" <*> text? "type"

def tables? (key : String) : Record (Option (List (Table Expr))) := list? key inner.table.ofJson

/-- Tables that a statement cannot do without. -/
def tables (key : String) : Record (List (Table Expr)) :=
  required key (oneOrMany inner.table.ofJson)

def column : Record (Column Expr) := Column.mk <$> required "expr" inner.expr <*> text? "as"

def columns : Reader (Columns Expr)
  | .null => .ok .all
  | .array items => .list <$> items.mapM inner.column.ofJson
  | .object fields => return .list [← inner.column.ofFields fields]
  | v => if v.string? = some "*" then .ok .all else .error (.invalidColumnList v)

def returning? : Record (Option (Columns Expr)) :=
  Record.optional "returning" (defaulted "columns" inner.columns .all).ofJson

def cte : Record (Cte Expr) :=
  Cte.mk <$> required "name" name <*> defaulted "columns" names? none <*>
    required "stmt" inner.expr <*> flag "recursive"

def withs? : Record (Option (List (Cte Expr))) := list? "with" inner.cte.ofJson

def condition? (key : String) : Record (Option Expr) := Record.optional key inner.expr

def limit? : Record (Option (Limit Expr)) := defaulted "limit" (limit inner.expr) none

/-- A SELECT and the ones it is chained to. -/
def select : Record (Query Expr) :=
  (fun withs distinct columns tables condition groupBy having windows orderBy limit setOperator next
      parens =>
    let head : Select Expr :=
      { withs, distinct, columns, tables, condition, groupBy, having, windows, orderBy, limit,
        setOperator, parens }
    Query.mk head ((next.map fun q => q.head :: q.rest).getD [])) <$>
    inner.withs? <*> flag "distinct" <*> defaulted "columns" inner.columns .all <*>
    inner.tables? "from" <*> inner.condition? "where" <*> list? "groupby" inner.expr <*>
    inner.condition? "having" <*> Record.optional "window" inner.namedWindows.ofJson <*>
    inner.orderItems? "orderby" <*> inner.limit? <*> text? "set_op" <*>
    Record.optional "_next" inner.query <*> parens

def assignment : Record (Assignment Expr) :=
  Assignment.mk <$> required "column" name <*> required "value" inner.expr <*> text? "table"

def assignments : Record (List (Assignment Expr)) :=
  required "set" (oneOrMany inner.assignment.ofJson)

/-- Rows, tagged or not, or a query. -/
def insertSource : Reader (InsertSource Expr) := fun v =>
  match v with
  | .array items => .rows <$> items.mapM inner.expr
  | v =>
    if v.tag? = some "values" then
      match v.get? "values" with
      | some (.array items) => .rows <$> items.mapM inner.expr
      | _ => .ok (.rows [])
    else .query <$> inner.expr v

def insert : Record (Insert Expr) :=
  Insert.mk <$> inner.tables "table" <*> defaulted "columns" names? none <*>
    Record.optional "values" inner.insertSource <*> text? "prefix" <*>
    Record.optional "on_duplicate_update" inner.assignments.ofJson <*> inner.returning?

end Nested

end SqlWeave.Wire
