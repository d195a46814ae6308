import SqlWeave.Wire.Part

/-! Expressions in JSON. A node is tagged by its `type`; what has no tag, or one that means nothing
here, is kept as it is. -/

namespace SqlWeave

namespace Json

mutual
/-- The fields of an object, with those of a nested `ast` object laid over them. -/
def hoistedFields : Json → Fields
  | .object fields =>
    (Fields.erase fields "ast").extend (((hoistedUnder fields).lookup "ast").getD [])
  | _ => []
/-- What a field named `ast` contributes. -/
def hoistedUnder : List (String × Json) → List (String × Fields)
  | [] => []
  | (k, v) :: rest => (k, if k = "ast" then v.hoistedFields else []) :: hoistedUnder rest
end

/-- Moves the fields of nested `ast` objects onto the node itself; the inner ones win. -/
def hoist (v : Json) : Json :=
  match v with
  | .object fields => .object (hoistedFields (.object fields))
  | v => v

end Json

namespace Wire.Nested

open Record Read

variable (inner : Nested)

def binary : Record (Node Expr) :=
  Node.binary <$> required "operator" string <*> required "left" inner.expr <*>
    required "right" inner.expr <*> parens

def unary : Record (Node Expr) :=
  Node.unary <$> required "operator" string <*> required "expr" inner.expr <*> parens

def call : Record (Node Expr) :=
  Node.call <$> required "name" name <*> Record.optional "args" inner.expr <*> inner.over? <*>
    text? "suffix" <*> parens

/-- The argument of an aggregate and what modifies it. -/
def aggregateArgs : Record (Expr × Bool × Option (List (OrderItem Expr)) × Option Expr) :=
  (fun e distinct order separator => (e, distinct, order, separator)) <$>
    required "expr" inner.expr <*> flag "distinct" <*> inner.orderItems? "orderby" <*>
    Record.optional "separator" inner.expr

def aggregate : Record (Node Expr) :=
  (fun name (arg, distinct, order, separator) window parens =>
    Node.aggregate name arg distinct order separator window parens) <$>
    required "name" name <*> required "args" inner.aggregateArgs.ofJson <*> inner.over? <*> parens

def cast : Record (Node Expr) :=
  Node.cast <$> defaulted "keyword" string "CAST" <*> required "expr" inner.expr <*>
    defaulted "symbol" string "as" <*> required "target" (firstOf inner.dataType.ofJson) <*> parens

def case : Record (Node Expr) :=
  Node.case <$> Record.optional "expr" inner.expr <*>
    required "args" (Read.list inner.caseArm) <*> parens

def windowCall : Record (Node Expr) :=
  Node.windowCall <$> required "name" name <*> Record.optional "args" inner.expr <*>
    required "over" inner.windowSpec.ofJson

def subscript : Record (Node Expr) :=
  Node.subscript <$> required "expr" inner.expr <*> required "indices" (oneOrMany inner.expr)

def list : Record (Node Expr) :=
  Node.list <$> many "value" inner.expr <*> text? "separator" <*> parens

/-- A variable without a sigil has `@`; null takes it away. -/
def sessionVariable : Record Variable :=
  Variable.mk <$> defaulted "prefix" Read.text? (some "@") <*> required "name" name <*>
    defaulted "members" names [] <*> text? "quoted" <*> text? "suffix"

def mapEntry : Record (Expr × Expr) :=
  Prod.mk <$> required "key" inner.expr <*> required "value" inner.expr

def mapLiteral : Record (Node Expr) :=
  Node.mapLiteral <$> required "keyword" string <*> many "expr" inner.mapEntry.ofJson

def fullText : Record (Node Expr) :=
  Node.fullText <$> text? "match" <*> many "columns" inner.columnRef.ofJson <*> text? "against" <*>
    required "expr" inner.expr <*> text? "mode"

def interval : Record (Node Expr) :=
  Node.interval <$> required "expr" inner.expr <*> required "unit" name

def extract : Record (Node Expr) :=
  required "args" (Node.extract <$> required "field" name <*> required "source" inner.expr).ofJson

def collate : Record (Node Expr) :=
  Node.collate <$> Record.optional "expr" inner.expr <*> required "name" name <*> text? "symbol"

def assign : Record (Node Expr) :=
  Node.assign <$> required "left" inner.expr <*> required "symbol" string <*>
    required "right" inner.expr

def array : Record (Node Expr) :=
  Node.array <$> text? "keyword" <*> flag "brackets" <*> many "expr_list" inner.expr

def struct : Record (Node Expr) := Node.struct <$> text? "keyword" <*> many "expr_list" inner.expr

def lambda : Record (Node Expr) :=
  Node.lambda <$> required "args" names <*> required "expr" inner.expr

def wrapped : Record Expr := required "expr" inner.expr

def json : Record (Node Expr) := Node.json <$> text? "keyword" <*> many "expr_list" inner.expr

def jsonStep : Record (Node Expr) :=
  Node.jsonStep <$> required "symbol" string <*> required "expr" inner.expr

def jsonMember : Record (Node Expr) :=
  required "expr" (Node.jsonMember <$> required "key" inner.expr <*> required "value" inner.expr <*>
    Record.optional "on" inner.expr).ofJson

def anyValue : Record (Node Expr) :=
  Node.anyValue <$> required "args" inner.wrapped.ofJson <*> inner.over?

def flatten : Record (Node Expr) :=
  Node.flatten <$> Record.optional "input" inner.expr <*> Record.optional "path" inner.expr <*>
    Record.optional "outer" inner.expr <*> Record.optional "recursive" inner.expr <*>
    Record.optional "mode" inner.expr

def tableCall : Record (Node Expr) :=
  Node.tableCall <$> required "name" qualifiedName <*> required "args" inner.expr <*>
    Record.optional "as" inner.expr

def namedArg : Record (Node Expr) :=
  required "value" (Node.namedArg <$> required "name" name <*> required "symbol" string <*>
    required "expr" inner.expr).ofJson

def textLiteral (kind : TextKind) : Record (Node Expr) :=
  Node.text kind <$> required "value" name <*> parens

/-- The fields of a node by its kind; none for a kind that has no meaning here. -/
def nodeRecord? : String → Option (Record (Node Expr))
  | "column_ref" => some (Node.column <$> inner.columnRef)
  | "binary_expr" => some inner.binary
  | "unary_expr" => some inner.unary
  | "function" => some inner.call
  | "aggr_func" => some inner.aggregate
  | "cast" => some inner.cast
  | "case" => some inner.case
  | "window_func" => some inner.windowCall
  | "array_access" => some inner.subscript
  | "expr_list" => some inner.list
  | "select" => some (Node.query <$> inner.select)
  | "var" => some (Node.variable <$> sessionVariable)
  | "map_object" => some inner.mapLiteral
  | "fulltext_search" => some inner.fullText
  | "column_definition" => some (Node.columnDefinition <$> inner.columnDefinition)
  | "interval" => some inner.interval
  | "extract" => some inner.extract
  | "collate" => some inner.collate
  | "datatype" => some (Node.dataType <$> inner.dataType)
  | "assign" => some inner.assign
  | "array" => some inner.array
  | "struct" => some inner.struct
  | "lambda" => some inner.lambda
  | "unnest" => some (Node.unnest <$> inner.wrapped)
  | "json" => some inner.json
  | "json_visitor" => some inner.jsonStep
  | "json_object_arg" => some inner.jsonMember
  | "any_value" => some inner.anyValue
  | "flatten" => some inner.flatten
  | "tablefunc" => some inner.tableCall
  | "func_arg" => some inner.namedArg
  | "window" => some (Node.windows <$> inner.namedWindows)
  | "show" => some (Node.showing <$> required "keyword" name)
  | "insert" => some (Node.insert <$> inner.insert)
  | "tables" => some (Node.tables <$> many "expr" inner.table.ofJson)
  | "expr" => some (Node.wrapped <$> inner.wrapped)
  | "number" => some (Node.number <$> required "value" number <*> parens)
  | "bigint" => some (textLiteral .bigint)
  | "string" | "single_quote_string" | "natural_string" => some (textLiteral .string)
  | "double_quote_string" => some (textLiteral .doubleQuoted)
  | "backticks_quote_string" => some (textLiteral .backtickQuoted)
  | "hex_string" => some (textLiteral .hex)
  | "bool" | "boolean" => some (Node.bool <$> required "value" bool <*> parens)
  | "null" => some (pure .null)
  | "star" => some (pure .star)
  | "param" => some (textLiteral .param)
  | "origin" => some (textLiteral .verbatim)
  | "default" => some (textLiteral .word)
  | _ => none

def readExpr : Reader Expr := fun v =>
  let v := v.hoist
  match v.tag?.bind inner.nodeRecord? with
  | some r => .mk <$> r.ofJson v
  | none => .ok (.mk (.unknown v))

def readQuery : Reader (Query Expr) := inner.select.ofJson

end Wire.Nested

/-- Readers of what nests at most so deep. -/
def Wire.nested : Nat → Wire.Nested
  | 0 => { expr := fun _ => .error .mismatch, query := fun _ => .error .mismatch }
  | n + 1 => {
      expr := fun v => (Wire.nested n).readExpr v
      query := fun v => (Wire.nested n).readQuery v }

/-- The readers for a value: every expression but the outermost is a proper part of the one around
it, so nesting goes no deeper than the value. -/
def Wire.readersFor (v : Json) : Wire.Nested := Wire.nested (v.depth + 2)

def Expr.ofJson (v : Json) : Except ReadError Expr := (Wire.readersFor v).expr v

def Columns.ofJson (v : Json) : Except ReadError (Columns Expr) := (Wire.readersFor v).columns v

def DataType.ofJson (v : Json) : Except ReadError (DataType Expr) :=
  (Wire.readersFor v).dataType.ofJson v

/-- A list of tables, null for none. -/
def Table.listOfJson (v : Json) : Except ReadError (Option (List (Table Expr))) :=
  Wire.Read.optional (Wire.Read.list (Wire.readersFor v).table.ofJson) v

def LimitShape.ofJson (v : Json) : Except ReadError (Option (LimitShape Expr)) :=
  Wire.Read.limitShape (Wire.readersFor v).expr v

end SqlWeave
