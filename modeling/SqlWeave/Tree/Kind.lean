import SqlWeave.Tree.Node

/-! The names of the node kinds, which tag a node on the wire. -/

namespace SqlWeave

def TextKind.name : TextKind → String
  | .bigint => "bigint"
  | .string => "string"
  | .doubleQuoted => "double_quote_string"
  | .backtickQuoted => "backticks_quote_string"
  | .hex => "hex_string"
  | .param => "param"
  | .verbatim => "origin"
  | .word => "default"

/-- An untyped value is of the kind `value`. -/
def Json.kind (v : Json) : String := v.tag?.getD "value"

def Node.kind {E : Type} : Node E → String
  | .column _ => "column_ref"
  | .binary .. => "binary_expr"
  | .unary .. => "unary_expr"
  | .call .. => "function"
  | .aggregate .. => "aggr_func"
  | .cast .. => "cast"
  | .case .. => "case"
  | .windowCall .. => "window_func"
  | .subscript .. => "array_access"
  | .list .. => "expr_list"
  | .query _ => "select"
  | .variable _ => "var"
  | .mapLiteral .. => "map_object"
  | .fullText .. => "fulltext_search"
  | .columnDefinition _ => "column_definition"
  | .interval .. => "interval"
  | .extract .. => "extract"
  | .collate .. => "collate"
  | .dataType _ => "datatype"
  | .assign .. => "assign"
  | .array .. => "array"
  | .struct .. => "struct"
  | .lambda .. => "lambda"
  | .unnest _ => "unnest"
  | .json .. => "json"
  | .jsonStep .. => "json_visitor"
  | .jsonMember .. => "json_object_arg"
  | .anyValue .. => "any_value"
  | .flatten .. => "flatten"
  | .tableCall .. => "tablefunc"
  | .namedArg .. => "func_arg"
  | .windows _ => "window"
  | .showing _ => "show"
  | .insert _ => "insert"
  | .tables _ => "tables"
  | .wrapped _ => "expr"
  | .number .. => "number"
  | .text kind .. => kind.name
  | .bool .. => "bool"
  | .null => "null"
  | .star => "star"
  | .unknown v => v.kind

def Expr.kind (e : Expr) : String := e.node.kind

end SqlWeave
