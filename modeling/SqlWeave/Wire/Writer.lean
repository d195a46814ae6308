import SqlWeave.Tree.Fold
import SqlWeave.Tree.Kind
import SqlWeave.Tree.Statement

/-! The JSON form of a tree. A part is written around the forms of its subexpressions. Fields stand
in a fixed order; those that say nothing are mostly left out. -/

namespace SqlWeave

namespace Wire

open Json (Fields)

def strings (ss : List String) : Json := .array (ss.map .string)

/-- A field that is always there, null if it has no text. -/
def nullable (key : String) (s : Option String) : Fields := [(key, (s.map Json.string).getD .null)]

/-- A field that is left out if it has no text. -/
def text? (key : String) (s : Option String) : Fields :=
  match s with
  | some s => [(key, .string s)]
  | none => []

def value? (key : String) (v : Option Json) : Fields :=
  match v with
  | some v => [(key, v)]
  | none => []

/-- A field that is left out unless it is set. -/
def flag (key : String) (b : Bool) : Fields := if b then [(key, .bool true)] else []

def natural? (key : String) (n : Option Nat) : Fields :=
  value? key (n.map fun n => .number (.int n))

def parensFlag (b : Bool) : Fields := flag "parentheses" b

def tagged (kind : String) (fields : Fields) : Json := .object (("type", .string kind) :: fields)

end Wire

open Wire

def ColumnName.toJson : ColumnName Json → Json
  | .star => .string "*"
  | .name text => .string text
  | .computed e => .object [("expr", e)]

def ColumnRef.toFields (c : ColumnRef Json) : Json.Fields :=
  text? "db" c.db ++ text? "schema" c.schema ++ nullable "table" c.table ++
    [("column", c.column.toJson)] ++ text? "collate" c.collate ++ parensFlag c.parens

def OrderItem.toJson (i : OrderItem Json) : Json :=
  .object ([("expr", i.expr)] ++ text? "type" i.direction ++ text? "nulls" i.nulls)

def Wire.orderItems? (key : String) (items : Option (List (OrderItem Json))) : Json.Fields :=
  value? key (items.map fun is => .array (is.map OrderItem.toJson))

def WindowSpec.toJson (w : WindowSpec Json) : Json :=
  .object (text? "name" w.name ++ orderItems? "partitionby" w.partitionBy ++
    orderItems? "orderby" w.orderBy ++ text? "frame" w.frame)

def Wire.over? (w : Option (WindowSpec Json)) : Json.Fields :=
  value? "over" (w.map WindowSpec.toJson)

def NamedWindow.toJson (w : NamedWindow Json) : Json :=
  .object [("name", .string w.name), ("as_window_specification", w.spec.toJson)]

def DataType.toFields (t : DataType Json) : Json.Fields :=
  [("dataType", .string t.name)] ++ natural? "length" t.length ++ natural? "scale" t.scale ++
    (if t.args.isEmpty then [] else [("args", .array t.args)]) ++
    (if t.suffix.isEmpty then [] else [("suffix", strings t.suffix)]) ++ flag "array" t.array

def ColumnDefinition.toFields (d : ColumnDefinition Json) : Json.Fields :=
  [("column", .object d.column.toFields), ("definition", .object d.type.toFields)] ++
    text? "nullable" d.nullable ++ value? "default_val" d.defaultValue ++
    text? "auto_increment" d.autoIncrement ++ text? "unique" d.unique ++
    text? "primary_key" d.primaryKey ++ value? "comment" d.comment ++ text? "collate" d.collate

def CaseArm.toJson : CaseArm Json → Json
  | .when condition result => tagged "when" [("cond", condition), ("result", result)]
  | .otherwise result => tagged "else" [("result", result)]

def Variable.toFields (v : Variable) : Json.Fields :=
  nullable "prefix" v.sigil ++ [("name", .string v.name)] ++
    (if v.members.isEmpty then [] else [("members", strings v.members)]) ++
      text? "quoted" v.quote ++
    text? "suffix" v.suffix

def Table.toJson (t : Table Json) : Json :=
  .object (text? "db" t.db ++ text? "schema" t.schema ++ text? "table" t.table ++
    value? "expr" t.expr ++ nullable "as" t.aliasName ++ text? "join" t.join ++
      value? "on" t.condition ++
    value? "using" (t.usingColumns.map strings) ++ flag "addition" t.addition ++
      text? "type" t.kind)

def Wire.tables (ts : List (Table Json)) : Json := .array (ts.map Table.toJson)

def Wire.tables? (key : String) (ts : Option (List (Table Json))) : Json.Fields :=
  value? key (ts.map Wire.tables)

/-- A FROM list, null if there is none. -/
def Wire.source (ts : Option (List (Table Json))) : Json.Fields :=
  [("from", (ts.map Wire.tables).getD .null)]

/-- A WHERE condition, null if there is none. -/
def Wire.condition (e : Option Json) : Json.Fields := [("where", e.getD .null)]

def Column.toJson (c : Column Json) : Json :=
  .object ([("expr", c.expr)] ++ nullable "as" c.aliasName)

def Columns.toJson : Columns Json → Json
  | .all => .string "*"
  | .list items => .array (items.map Column.toJson)

def Wire.returning? (c : Option (Columns Json)) : Json.Fields :=
  value? "returning" (c.map fun c => .object [("columns", c.toJson)])

def Cte.toJson (c : Cte Json) : Json :=
  .object ([("name", .string c.name)] ++ value? "columns" (c.columns.map strings) ++
    [("stmt", c.body)] ++ flag "recursive" c.recursive)

def Wire.withs? (cs : Option (List (Cte Json))) : Json.Fields :=
  value? "with" (cs.map fun cs => .array (cs.map Cte.toJson))

namespace Limit

/-- A part of a FETCH clause: the words before, the value, the words after. -/
def toTriple (before : List String) (value : Json) (after : List String) : Json :=
  .object [("prefix", strings before), ("value", value), ("suffix", strings after)]

/-- Separator and values, or FETCH and OFFSET triples if words after the count must survive. -/
def toJson (l : Limit Json) : Json :=
  match l.count, l.fetchSuffix with
  | some count, word :: words =>
    .object [
      ("fetch", toTriple ["FETCH", if l.offset.isSome then "NEXT" else "FIRST"] count
        (word :: words)),
      ("offset", (l.offset.map fun o => toTriple ["OFFSET"] o ["ROWS"]).getD .null)]
  | count, _ =>
    let (separator, values) := match count, l.offset with
      | some count, some offset =>
        if l.comma then (",", [offset, count]) else ("offset", [count, offset])
      | some count, none => ("", [count])
      | none, some offset => ("offset", [offset])
      | none, none => ("", [])
    .object [("separator", .string separator), ("value", .array values)]

end Limit

def Wire.limit? (l : Option (Limit Json)) : Json.Fields := value? "limit" (l.map Limit.toJson)

/-- The fields of one SELECT, around the form of the next one. -/
def Select.toFields (s : Select Json) (next : Option Json) : Json.Fields :=
  withs? s.withs ++ flag "distinct" s.distinct ++ [("columns", s.columns.toJson)] ++
    Wire.source s.tables ++ Wire.condition s.condition ++
    value? "groupby" (s.groupBy.map .array) ++ value? "having" s.having ++
    value? "window" (s.windows.map fun ws =>
      .object [("expr", .array (ws.map NamedWindow.toJson))]) ++
    orderItems? "orderby" s.orderBy ++ limit? s.limit ++ text? "set_op" s.setOperator ++
    value? "_next" next ++ parensFlag s.parens

def Wire.chain : List (Select Json) → Option Json
  | [] => none
  | s :: ss => some (.object (s.toFields (Wire.chain ss)))

def Query.toFields (q : Query Json) : Json.Fields := q.head.toFields (Wire.chain q.rest)

def Assignment.toJson (a : Assignment Json) : Json :=
  .object ([("column", .string a.column), ("value", a.value)] ++ text? "table" a.table)

def Wire.assignments (as : List (Assignment Json)) : Json := .array (as.map Assignment.toJson)

def InsertSource.toJson : InsertSource Json → Json
  | .rows rs => tagged "values" [("values", .array rs)]
  | .query q => q

def Insert.toFields (i : Insert Json) : Json.Fields :=
  [("table", Wire.tables i.tables), ("columns", (i.columns.map strings).getD .null)] ++
    value? "values" (i.source.map InsertSource.toJson) ++ text? "prefix" i.into ++
    value? "on_duplicate_update" (i.onDuplicate.map fun as =>
      .object [("set", Wire.assignments as)]) ++
    returning? i.returning

def Node.toFields : Node Json → Json.Fields
  | .column c => c.toFields
  | .binary op l r p => [("operator", .string op), ("left", l), ("right", r)] ++ parensFlag p
  | .unary op e p => [("operator", .string op), ("expr", e)] ++ parensFlag p
  | .call n a o s p =>
    [("name", .string n), ("args", a.getD .null)] ++ over? o ++ text? "suffix" s ++ parensFlag p
  | .aggregate n a d ob s o p =>
    let args := [("expr", a)] ++ flag "distinct" d ++ orderItems? "orderby" ob ++
      value? "separator" s
    [("name", .string n), ("args", .object args)] ++ over? o ++ parensFlag p
  | .cast k e s t p =>
    [("keyword", .string k), ("expr", e), ("symbol", .string s), ("target", .object t.toFields)] ++
      parensFlag p
  | .case s arms p =>
    [("expr", s.getD .null), ("args", .array (arms.map CaseArm.toJson))] ++ parensFlag p
  | .windowCall n a o => [("name", .string n), ("args", a.getD .null), ("over", o.toJson)]
  | .subscript e is => [("expr", e), ("indices", .array is)]
  | .list es s p => [("value", .array es)] ++ text? "separator" s ++ parensFlag p
  | .query q => q.toFields
  | .variable v => v.toFields
  | .mapLiteral k es =>
    [("keyword", .string k),
      ("expr", .array (es.map fun (key, value) => .object [("key", key), ("value", value)]))]
  | .fullText m cs a e mode =>
    nullable "match" m ++ [("columns", .array (cs.map fun c => .object c.toFields))] ++
      nullable "against" a ++ [("expr", e)] ++ text? "mode" mode
  | .columnDefinition d => d.toFields
  | .interval e u => [("expr", e), ("unit", .string u)]
  | .extract field e => [("args", .object [("field", .string field), ("source", e)])]
  | .collate e n s => [("expr", e.getD .null), ("name", .string n)] ++ text? "symbol" s
  | .dataType t => t.toFields
  | .assign l s r => [("left", l), ("symbol", .string s), ("right", r)]
  | .array k b es => text? "keyword" k ++ [("brackets", .bool b), ("expr_list", .array es)]
  | .struct k es => text? "keyword" k ++ [("expr_list", .array es)]
  | .lambda ps e => [("args", strings ps), ("expr", e)]
  | .unnest e => [("expr", e)]
  | .json k es => text? "keyword" k ++ [("expr_list", .array es)]
  | .jsonStep s e => [("symbol", .string s), ("expr", e)]
  | .jsonMember k v o => [("expr", .object ([("key", k), ("value", v)] ++ value? "on" o))]
  | .anyValue e o => [("args", .object [("expr", e)])] ++ over? o
  | .flatten i p o r m =>
    value? "input" i ++ value? "path" p ++ value? "outer" o ++ value? "recursive" r ++
      value? "mode" m
  | .tableCall n a al => [("name", .string n), ("args", a)] ++ value? "as" al
  | .namedArg n s e =>
    [("value", .object [("name", .string n), ("symbol", .string s), ("expr", e)])]
  | .windows ws => [("expr", .array (ws.map NamedWindow.toJson))]
  | .showing k => [("keyword", .string k)]
  | .insert i => i.toFields
  | .tables ts => [("expr", Wire.tables ts)]
  | .wrapped e => [("expr", e)]
  | .number n p => [("value", .number n)] ++ parensFlag p
  | .text _ v p => [("value", .string v)] ++ parensFlag p
  | .bool b p => [("value", .bool b)] ++ parensFlag p
  | .null | .star | .unknown _ => []

/-- A node with its tag first; an unknown one as it was received. -/
def Node.toJson (n : Node Json) : Json :=
  match n with
  | .unknown v => v
  | n => tagged n.kind n.toFields

def Expr.toJson (e : Expr) : Json := e.fold fun n => (n.map Prod.snd).toJson

def TableOption.toJson (o : TableOption) : Json :=
  .object ([("keyword", .string o.keyword)] ++ text? "symbol" o.symbol ++
    [("value", .string o.value)])

def Update.toFields (u : Update Json) : Json.Fields :=
  withs? u.withs ++ [("table", Wire.tables u.tables), ("set", Wire.assignments u.assignments)] ++
    tables? "from" u.source ++ Wire.condition u.condition ++ orderItems? "orderby" u.orderBy ++
    limit? u.limit ++ returning? u.returning

def Delete.toFields (d : Delete Json) : Json.Fields :=
  withs? d.withs ++ value? "columns" (d.columns.map fun cs => .array (cs.map Column.toJson)) ++
    tables? "table" d.targets ++ Wire.source d.source ++ Wire.condition d.condition ++
    orderItems? "orderby" d.orderBy ++ limit? d.limit ++ returning? d.returning

def Create.toFields (c : Create Json) : Json.Fields :=
  [("keyword", .string c.keyword)] ++ flag "replace" c.orReplace ++ flag "temporary" c.temporary ++
    flag "if_not_exists" c.ifNotExists ++ tables? "table" c.tables ++ text? "database" c.database ++
    value? "create_definitions" (c.definitions.map .array) ++
    value? "table_options" (c.options.map fun os => .array (os.map TableOption.toJson)) ++
    value? "query_expr" c.query

def Drop.toFields (d : Drop Json) : Json.Fields :=
  [("keyword", .string d.keyword)] ++ flag "if_exists" d.ifExists ++ [("name", Wire.tables d.names)]

namespace Statement

def toFields : Statement Json → Json.Fields
  | .select q => q.toFields
  | .insert i | .replace i => i.toFields
  | .update u => u.toFields
  | .delete d => d.toFields
  | .create c => c.toFields
  | .drop d => d.toFields
  | .showing keyword => [("keyword", .string keyword)]

def toJson (s : Statement Expr) : Json := tagged s.verb (s.map Expr.toJson).toFields

end Statement

def Script.toJson : Script Expr → Json
  | .single s => s.toJson
  | .several ss => .array (ss.map Statement.toJson)

end SqlWeave
