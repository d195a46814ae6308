import SqlWeave.Tree.Statement
import SqlWeave.Wire.Expr

/-! Statements and scripts in JSON. -/

namespace SqlWeave

namespace Statement

/-- The verbs, which tag a statement. -/
def verbs : List String :=
  ["select", "insert", "replace", "update", "delete", "create", "drop", "show"]

end Statement

namespace Wire

namespace Nested

open Record Read

variable (inner : Nested)

def update : Record (Update Expr) :=
  Update.mk <$> inner.withs? <*> inner.tables "table" <*> inner.assignments <*>
    inner.tables? "from" <*>
    inner.condition? "where" <*> inner.orderItems? "orderby" <*> inner.limit? <*> inner.returning?

def delete : Record (Delete Expr) :=
  Delete.mk <$> inner.withs? <*> list? "columns" inner.column.ofJson <*> inner.tables? "table" <*>
    inner.tables? "from" <*> inner.condition? "where" <*> inner.orderItems? "orderby" <*>
    inner.limit? <*> inner.returning?

def tableOption : Record TableOption :=
  TableOption.mk <$> required "keyword" name <*> text? "symbol" <*> required "value" name

def create : Record (Create Expr) :=
  Create.mk <$> required "keyword" name <*> flag "replace" <*> flag "temporary" <*>
    flag "if_not_exists" <*> inner.tables? "table" <*> text? "database" <*>
    list? "create_definitions" inner.expr <*> list? "table_options" tableOption.ofJson <*>
    Record.optional "query_expr" inner.expr

def drop : Record (Drop Expr) :=
  Drop.mk <$> required "keyword" name <*> aliased "if_exists" "prefix" Read.flag false <*>
    inner.tables "name"

def statementRecord : String → Except ReadError (Record (Statement Expr))
  | "select" => .ok (Statement.select <$> inner.select)
  | "insert" => .ok (Statement.insert <$> inner.insert)
  | "replace" => .ok (Statement.replace <$> inner.insert)
  | "update" => .ok (Statement.update <$> inner.update)
  | "delete" => .ok (Statement.delete <$> inner.delete)
  | "create" => .ok (Statement.create <$> inner.create)
  | "drop" => .ok (Statement.drop <$> inner.drop)
  | "show" => .ok (Statement.showing <$> required "keyword" name)
  | tag => .error (.unknownTag tag Statement.verbs)

def statement (tag : Reader String) : Reader (Statement Expr) := tagged tag inner.statementRecord

end Nested

/-- In a script a verb may also be given by its place among the verbs. -/
def Read.scriptVerb : Reader String
  | .number n =>
    match n.natural?.bind (Statement.verbs[·]?) with
    | some verb => .ok verb
    | none => .error .mismatch
  | v => Read.string v

end Wire

open Wire

def Statement.ofJson (v : Json) : Except ReadError (Statement Expr) :=
  (readersFor v).statement Read.string v

/-- A list of statements, or else one statement. -/
def Script.ofJson (v : Json) : Except ReadError (Script Expr) :=
  let statement := (readersFor v).statement Read.scriptVerb
  match Read.list statement v, statement v with
  | .ok ss, _ => .ok (.several ss)
  | .error _, .ok s => .ok (.single s)
  | .error _, .error _ => .error .noScript

end SqlWeave
