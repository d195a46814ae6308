import SqlWeave.Json.Basic
import SqlWeave.Tree.Query

/-! The kinds of expression nodes. A node holds its subexpressions as values of a type `E`, so what
walks an expression is written for one node at a time. An expression is a node whose subexpressions
are expressions. -/

namespace SqlWeave

/-- The literals that are kept as text. -/
inductive TextKind where
  | bigint | string | doubleQuoted | backtickQuoted | hex
  /-- A named parameter. -/
  | param
  /-- Text to be written as it is. -/
  | verbatim
  /-- A word such as DEFAULT. -/
  | word
deriving DecidableEq, Repr

inductive Node (E : Type) where
  | column (ref : ColumnRef E)
  | binary (operator : String) (left right : E) (parens : Bool)
  | unary (operator : String) (operand : E) (parens : Bool)
  | call (name : String) (args : Option E) (window : Option (WindowSpec E)) (suffix : Option String)
      (parens : Bool)
  | aggregate (name : String) (arg : E) (distinct : Bool) (orderBy : Option (List (OrderItem E)))
      (separator : Option E) (window : Option (WindowSpec E)) (parens : Bool)
  | cast (keyword : String) (operand : E) (symbol : String) (target : DataType E) (parens : Bool)
  | case (subject : Option E) (arms : List (CaseArm E)) (parens : Bool)
  | windowCall (name : String) (args : Option E) (window : WindowSpec E)
  | subscript (base : E) (indices : List E)
  | list (items : List E) (separator : Option String) (parens : Bool)
  | query (query : Query E)
  | variable (var : Variable)
  | mapLiteral (keyword : String) (entries : List (E × E))
  | fullText (matchWord : Option String) (columns : List (ColumnRef E))
      (againstWord : Option String) (phrase : E) (mode : Option String)
  | columnDefinition (definition : ColumnDefinition E)
  | interval (amount : E) (unit : String)
  | extract (field : String) (source : E)
  | collate (operand : Option E) (name : String) (symbol : Option String)
  | dataType (type : DataType E)
  | assign (left : E) (symbol : String) (right : E)
  | array (keyword : Option String) (brackets : Bool) (items : List E)
  | struct (keyword : Option String) (items : List E)
  | lambda (params : List String) (body : E)
  | unnest (operand : E)
  | json (keyword : Option String) (items : List E)
  | jsonStep (symbol : String) (operand : E)
  | jsonMember (key value : E) (onNull : Option E)
  | anyValue (arg : E) (window : Option (WindowSpec E))
  | flatten (input path outer recursive mode : Option E)
  | tableCall (name : String) (args : E) (aliasName : Option E)
  | namedArg (name symbol : String) (value : E)
  | windows (windows : List (NamedWindow E))
  | showing (keyword : String)
  | insert (insert : Insert E)
  | tables (tables : List (Table E))
  | wrapped (inner : E)
  | number (value : Json.Number) (parens : Bool)
  | text (kind : TextKind) (value : String) (parens : Bool)
  | bool (value : Bool) (parens : Bool)
  | null
  | star
  /-- A node of a kind that has no meaning here, kept as received. -/
  | unknown (value : Json)

def Node.map {E F : Type} (f : E → F) : Node E → Node F
  | .column c => .column (c.map f)
  | .binary op l r p => .binary op (f l) (f r) p
  | .unary op e p => .unary op (f e) p
  | .call n a o s p => .call n (a.map f) (o.map (·.map f)) s p
  | .aggregate n a d ob s o p =>
    .aggregate n (f a) d (ob.map (·.map (·.map f))) (s.map f) (o.map (·.map f)) p
  | .cast k e s t p => .cast k (f e) s (t.map f) p
  | .case s arms p => .case (s.map f) (arms.map (·.map f)) p
  | .windowCall n a o => .windowCall n (a.map f) (o.map f)
  | .subscript e is => .subscript (f e) (is.map f)
  | .list es s p => .list (es.map f) s p
  | .query q => .query (q.map f)
  | .variable v => .variable v
  | .mapLiteral k es => .mapLiteral k (es.map fun (a, b) => (f a, f b))
  | .fullText m cs a e mode => .fullText m (cs.map (·.map f)) a (f e) mode
  | .columnDefinition d => .columnDefinition (d.map f)
  | .interval e u => .interval (f e) u
  | .extract field e => .extract field (f e)
  | .collate e n s => .collate (e.map f) n s
  | .dataType t => .dataType (t.map f)
  | .assign l s r => .assign (f l) s (f r)
  | .array k b es => .array k b (es.map f)
  | .struct k es => .struct k (es.map f)
  | .lambda ps e => .lambda ps (f e)
  | .unnest e => .unnest (f e)
  | .json k es => .json k (es.map f)
  | .jsonStep s e => .jsonStep s (f e)
  | .jsonMember k v o => .jsonMember (f k) (f v) (o.map f)
  | .anyValue e o => .anyValue (f e) (o.map (·.map f))
  | .flatten i p o r m => .flatten (i.map f) (p.map f) (o.map f) (r.map f) (m.map f)
  | .tableCall n a al => .tableCall n (f a) (al.map f)
  | .namedArg n s e => .namedArg n s (f e)
  | .windows ws => .windows (ws.map (·.map f))
  | .showing k => .showing k
  | .insert i => .insert (i.map f)
  | .tables ts => .tables (ts.map (·.map f))
  | .wrapped e => .wrapped (f e)
  | .number n p => .number n p
  | .text k v p => .text k v p
  | .bool b p => .bool b p
  | .null => .null
  | .star => .star
  | .unknown v => .unknown v

inductive Expr where
  | mk (node : Node Expr)

def Expr.node : Expr → Node Expr
  | .mk n => n

end SqlWeave
