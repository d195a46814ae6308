import SqlWeave.Render.Query
import SqlWeave.Tree.Kind

/-! Expressions. -/

namespace SqlWeave

namespace Render

mutual
/-- A JSON value as a literal; of an object, its `value`. -/
def literal : Json → String
  | .null => "NULL"
  | .bool b => if b then "TRUE" else "FALSE"
  | .number n => n.text
  | .string s => quoteString s
  | .array items => commas (literals items)
  | .object fields => ((fieldLiterals fields).lookup "value").getD ""
def literals : List Json → List String
  | [] => []
  | v :: vs => literal v :: literals vs
def fieldLiterals : List (String × Json) → List (String × String)
  | [] => []
  | (k, v) :: rest => (k, literal v) :: fieldLiterals rest
end

def unknown (mode : RenderMode) (v : Json) : Result String :=
  match mode with
  | .strict => throw (.unrenderable v.kind)
  | .bestEffort => return literal v

def textLiteral : TextKind → String → String
  | .bigint, value | .verbatim, value => value
  | .string, value => quoteString value
  | .doubleQuoted, value => Text.enclose '"' '"' value
  | .backtickQuoted, value => Text.enclose '\x60' '\x60' value
  | .hex, value => "X'" ++ value ++ "'"
  | .param, value => ":" ++ value
  | .word, value => Text.upper value

/-- What stands between the parentheses of a call: a list stands for its members. -/
def callArgs (i : Item) : Result String :=
  match i.1.node with
  | .list _ none _ => return commas (← i.2.members)
  | _ => i.sql

def isBetween (operator : String) : Bool := operator == "BETWEEN" || operator == "NOT BETWEEN"

def isMembership (operator : String) : Bool := operator == "IN" || operator == "NOT IN"

/-- The right side of an operator: the two bounds of BETWEEN, and parentheses for IN where the side
does not bring its own. -/
def rightSide (operator : String) (i : Item) : Result String :=
  match i.1.node with
  | .list items _ parens =>
    if isBetween operator && items.length == 2 then return " AND ".intercalate (← i.2.members)
    else if isMembership operator && !parens then return inParens (commas (← i.2.members))
    else i.sql
  | .query q => if isMembership operator && !q.parens then return inParens (← i.sql) else i.sql
  | _ => i.sql

def binary (operator : String) (left right : Item) : Result String := do
  let operator := operatorText operator
  let left ← left.sql
  let right ← rightSide operator right
  return left ++ " " ++ operator ++ " " ++ right

/-- Operators written without a blank after them. -/
def tightOperators : List String := ["-", "+", "~", "!"]

def unary (operator : String) (operand : Item) : Result String := do
  let operator := operatorText operator
  return operator ++ (if tightOperators.contains operator then "" else " ") ++ (← operand.sql)

def call (name : String) (args : Option Item) (w : Option (WindowSpec Item))
    (suffix : Option String) :
    Result String := do
  let call ← match args with
    | none => pure name
    | some args => pure (name ++ inParens (← callArgs args))
  let suffix := match suffix with
    | some suffix => " " ++ suffix
    | none => ""
  return call ++ suffix ++ (← over? w)

def aggregate (name : String) (arg : Item) (distinct : Bool)
    (order : Option (List (OrderItem Item))) (separator : Option Item)
    (w : Option (WindowSpec Item)) : Result String := do
  let arg ← callArgs arg
  let order ← orderBy order
  let separator ← optional "SEPARATOR" separator
  let args := fragments [onlyIf distinct "DISTINCT", arg, order, separator]
  return Text.upper name ++ inParens args ++ (← over? w)

def caseArm : CaseArm Item → Result String
  | .when condition result => return "WHEN " ++ (← condition.sql) ++ " THEN " ++ (← result.sql)
  | .otherwise result => return "ELSE " ++ (← result.sql)

def case (subject : Option Item) (arms : List (CaseArm Item)) : Result String := do
  let subject ← match subject with
    | some i => pure [← i.sql]
    | none => pure []
  let arms ← arms.mapM caseArm
  return " ".intercalate (["CASE"] ++ subject ++ arms ++ ["END"])

def cast (keyword : String) (operand : Item) (symbol : String) (target : DataType Item) :
    Result String := do
  let operand ← operand.sql
  let target ← dataType target
  if symbol = "::" then return operand ++ "::" ++ target
  else return Text.upper keyword ++ inParens (operand ++ " AS " ++ target)

/-- A subscripted column is a path, so its name stays unquoted. -/
def subscript (base : Item) (indices : List Item) : Result String := do
  let base ← match base.1.node with
    | .column c => pure (c.column.text?.getD "")
    | _ => base.sql
  let indices ← sqls indices
  return base ++ String.join (indices.map fun index => "[" ++ index ++ "]")

def sessionVariable (v : Variable) : String :=
  let sql := v.sigil.getD "" ++ ".".intercalate (v.name :: v.members) ++ v.suffix.getD ""
  match v.quote with
  | some quote => quote ++ sql ++ quote
  | none => sql

def pair (p : Item × Item) : Result String := return (← p.1.sql) ++ ", " ++ (← p.2.sql)

def array (keyword : Option String) (brackets : Bool) (items : List Item) : Result String := do
  let items := commas (← sqls items)
  let keyword := upper? keyword
  if brackets || keyword.isEmpty then return keyword ++ "[" ++ items ++ "]"
  else return keyword ++ inParens items

def struct (keyword : Option String) (items : List Item) : Result String := do
  let items := commas (← sqls items)
  match keyword with
  | some keyword => return Text.upper keyword ++ inParens items
  | none => return "\x7b" ++ items ++ "\x7d"

def lambda (params : List String) (body : Item) : Result String := do
  let body ← body.sql
  match params with
  | [param] => return param ++ " -> " ++ body
  | params => return inParens (commas params) ++ " -> " ++ body

def jsonMember (key value : Item) (onNull : Option Item) : Result String := do
  let member := (← key.sql) ++ " VALUE " ++ (← value.sql)
  match onNull with
  | some i => return member ++ " " ++ Text.upper (← i.sql) ++ " ON NULL"
  | none => return member

/-- A named argument of FLATTEN, if it is given. -/
def flattenArg (name : String) : Option Item → Result (List String)
  | none => return []
  | some i => return [name ++ " => " ++ (← i.sql)]

def flatten (input path outer recursive mode : Option Item) : Result String := do
  let input ← flattenArg "INPUT" input
  let path ← flattenArg "PATH" path
  let outer ← flattenArg "OUTER" outer
  let recursive ← flattenArg "RECURSIVE" recursive
  let mode ← flattenArg "MODE" mode
  return "FLATTEN" ++ inParens (commas (input ++ path ++ outer ++ recursive ++ mode))

def collate (operand : Option Item) (name : String) (symbol : Option String) : Result String := do
  let operand ← match operand with
    | some i => i.sql
    | none => pure ""
  let name := match symbol with
    | some symbol => symbol ++ " " ++ name
    | none => name
  return fragments [operand, "COLLATE " ++ name]

def assign (left : Item) (symbol : String) (right : Item) : Result String := do
  let left ← left.sql
  let right ← right.sql
  if symbol = ":" then return left ++ ": " ++ right
  else return left ++ " " ++ symbol ++ " " ++ right

def interval (amount : Item) (unit : String) : Result String := do
  let amount ← amount.sql
  if unit.isEmpty then return "INTERVAL " ++ amount
  else return "INTERVAL " ++ amount ++ " " ++ Text.upper unit

def windowCall (name : String) (args : Option Item) (w : WindowSpec Item) : Result String := do
  let args ← match args with
    | some args => callArgs args
    | none => pure ""
  return Text.upper name ++ inParens args ++ " " ++ (← overClause w)

def tableCall (name : String) (args : Item) (aliasName : Option Item) : Result String := do
  let args ← callArgs args
  match aliasName with
  | some i => return name ++ inParens args ++ " AS " ++ (← i.sql)
  | none => return name ++ inParens args

def showing (keyword : String) : String := "SHOW " ++ Text.upper keyword

end Render

namespace Renderer

open Render

variable (r : Renderer)

/-- The text of a node, given those of its subexpressions. -/
def node : Node Item → Result String
  | .column c =>
    match r.registry.columnRef with
    | some rules => rules.columnRef r.config c
    | none => return bareColumnRef r.config.dialect c
  | .fullText matchWord columns againstWord phrase mode =>
    match r.registry.fullText with
    | some rules => rules.fullText r.config matchWord columns againstWord phrase mode
    | none => return bareFullText matchWord columns againstWord
  | .columnDefinition d =>
    match r.registry.columnDefinition with
    | some rules => rules.columnDefinition r.config d
    | none => return bareColumnDefinition r.config.dialect d
  | .wrapped i => i.sql
  | .binary op left right parens => return Text.parenthesize parens (← binary op left right)
  | .unary op operand parens => return Text.parenthesize parens (← unary op operand)
  | .call name args w suffix parens => return Text.parenthesize parens (← call name args w suffix)
  | .aggregate name arg distinct order separator w parens =>
    return Text.parenthesize parens (← aggregate name arg distinct order separator w)
  | .cast keyword operand symbol target parens =>
    return Text.parenthesize parens (← cast keyword operand symbol target)
  | .case subject arms parens => return Text.parenthesize parens (← Render.case subject arms)
  | .windowCall name args w => windowCall name args w
  | .subscript base indices => subscript base indices
  | .list items separator parens =>
    return Text.parenthesize parens ((separator.getD ", ").intercalate (← sqls items))
  | .query q => r.query q
  | .variable v => return sessionVariable v
  | .mapLiteral keyword entries =>
    return Text.upper keyword ++ "[" ++ commas (← entries.mapM pair) ++ "]"
  | .interval amount unit => interval amount unit
  | .extract field source =>
    return "EXTRACT(" ++ Text.upper field ++ " FROM " ++ (← source.sql) ++ ")"
  | .collate operand name symbol => collate operand name symbol
  | .dataType t => dataType t
  | .assign left symbol right => assign left symbol right
  | .array keyword brackets items => array keyword brackets items
  | .struct keyword items => struct keyword items
  | .lambda params body => lambda params body
  | .unnest operand => return "UNNEST" ++ inParens (← operand.sql)
  | .json keyword items => return fragments [upper? keyword, commas (← sqls items)]
  | .jsonStep symbol operand => return symbol ++ (← operand.sql)
  | .jsonMember key value onNull => jsonMember key value onNull
  | .anyValue arg w => return "ANY_VALUE" ++ inParens (← callArgs arg) ++ (← over? w)
  | .flatten input path outer recursive mode => flatten input path outer recursive mode
  | .tableCall name args aliasName => tableCall name args aliasName
  | .namedArg name symbol value => return name ++ " " ++ symbol ++ " " ++ (← value.sql)
  | .windows ws => namedWindows ws
  | .showing keyword => return showing keyword
  | .insert i => r.insert "INSERT" i
  | .tables ts => r.tables ts
  | .number n parens => return Text.parenthesize parens n.text
  | .text kind value parens => return Text.parenthesize parens (textLiteral kind value)
  | .bool b parens => return Text.parenthesize parens (if b then "TRUE" else "FALSE")
  | .null => return "NULL"
  | .star => return "*"
  | .unknown v => unknown r.config.mode v

/-- The members of a list node. -/
def members : Node Item → Result (List String)
  | .list items _ _ => sqls items
  | _ => return []

def algebra : Expr.Algebra Rendered := fun n => ⟨r.node n, members n⟩

def rendered (e : Expr) : Rendered := e.fold r.algebra

/-- An expression with its text. -/
def item (e : Expr) : Item := (e, r.rendered e)

def expr (e : Expr) : Result String := (r.rendered e).sql

/-- An expression where commas separate: a bare list stands for its members. -/
def exprList (e : Expr) : Result (List String) :=
  match e.node with
  | .list _ none false => (r.rendered e).members
  | _ => return [← r.expr e]

end Renderer

end SqlWeave
