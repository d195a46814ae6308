import SqlWeave.Dialect
import SqlWeave.Parser.Operator
import SqlWeave.Parser.Primary
import SqlWeave.Proofs.Token.Printed
import SqlWeave.Tree.Fold

/-! Core queries: those that a dialect spells without loss. Their names are not the star, their
operators stand where their binding powers put them, and no clause has a default that is spelled
out. -/

namespace SqlWeave

/-! ## Operators by their texts -/

namespace Operator

/-- The operators between two expressions and their binding powers. -/
def betweenOperands : List (String × Nat) :=
  [("OR", 1), ("AND", 3), ("=", 5), ("!=", 5), ("<>", 5), ("<", 5), ("<=", 5), (">", 5), (">=", 5),
    ("IS", 5), ("IS NOT", 5), ("LIKE", 5), ("ILIKE", 5), ("REGEXP", 5), ("RLIKE", 5), ("GLOB", 5),
    ("NOT LIKE", 5), ("NOT ILIKE", 5), ("NOT REGEXP", 5), ("NOT RLIKE", 5), ("NOT GLOB", 5),
    ("|", 7), ("&", 9), ("<<", 11), (">>", 11), ("+", 13), ("-", 13), ("||", 13), ("*", 15),
    ("/", 15), ("%", 15)]

/-- The binding power of IN and BETWEEN. -/
def predicatePower : Nat := 5

def memberships : List String := ["IN", "NOT IN"]

def ranges : List String := ["BETWEEN", "NOT BETWEEN"]

/-- The operators in front of an expression and their binding powers. -/
def beforeOperand : List (String × Nat) :=
  [("-", signPower), ("+", signPower), ("~", signPower), ("!", signPower), ("NOT", notPower)]

end Operator

namespace Expr

/-- Whether an expression that asks for operators of this power takes all of this one: its outermost
operator is in parentheses, in front, or binds at least so tightly. -/
def leads (e : Expr) (power : Nat) : Bool :=
  match e.node with
  | .binary operator _ _ false =>
    power ≤ (Operator.betweenOperands.lookup operator).getD Operator.predicatePower
  | _ => true

def yieldsAlgebra : Algebra (Nat → Bool)
  | .binary operator _ right false => fun power =>
    power ≤ (Operator.betweenOperands.lookup operator).getD Operator.predicatePower && right.2 power
  | .unary operator operand false => fun power =>
    (Operator.beforeOperand.lookup operator).all (power < ·) && operand.2 power
  | .list items _ false => fun power => items.getLast?.all (·.2 power)
  | _ => fun _ => true

/-- Whether an operator of this power behind the expression is left alone by all of its operands. -/
def yields (e : Expr) : Nat → Bool := e.fold yieldsAlgebra

def leadingAlgebra : Algebra (Option String)
  | .unary operator _ false => some operator
  | .binary _ left _ false => left.2
  | _ => none

/-- The operator that the expression starts with. -/
def leading? (e : Expr) : Option String := e.fold leadingAlgebra

/-- Whether the expression can be put in parentheses and is not. -/
def isBare (e : Expr) : Bool :=
  match e.node with
  | .column c => !c.parens
  | .binary _ _ _ parens | .unary _ _ parens | .call _ _ _ _ parens | .case _ _ parens
  | .number _ parens
  | .text _ _ parens | .bool _ parens => !parens
  | _ => false

end Expr

/-! ## What a core query is made of -/

/-- A name that is not the star. -/
def isName (name : String) : Bool := name != "*"

/-- Qualifiers from the outermost inwards without a gap. -/
structure Qualified (db schema table : Option String) : Prop where
  ofTable : db.isSome → table.isSome
  ofDb : schema.isSome → db.isSome
  named : ∀ name ∈ [db, schema, table].filterMap id, isName name

structure ColumnRef.Plain (c : ColumnRef Expr) : Prop where
  qualified : Qualified c.db c.schema c.table
  named : ∃ name, c.column = .name name ∧ isName name
  collate : c.collate = none
  parens : c.parens = false

/-- A word that names a function and nothing else. -/
structure IsFunction (name : String) : Prop where
  word : Token.isWord name = true
  unreserved : Token.wordKind name = .identifier name
  plain : Text.asciiUpper name ∉ "UNNEST" :: Parser.aggregates

/-- Names in parentheses, if there are any. -/
def NameList (names : Option (List String)) : Prop :=
  ∀ ns ∈ names, ns ≠ [] ∧ ∀ name ∈ ns, isName name

structure Cte.Plain (recursive : Bool) (c : Cte Expr) : Prop where
  named : isName c.name
  columns : NameList c.columns
  body : ∃ q, c.body = .query q
  recursive : c.recursive = recursive

/-- An alias that is spelled after AS: it may be no reserved word. -/
structure IsAlias (name : String) : Prop where
  named : isName name
  unreserved : ∀ word ∈ Keyword.lookup? name, word.isUnreserved

/-- A table under its name, or a derived table. -/
structure Table.Plain (t : Table Expr) : Prop where
  source : (t.expr = none ∧ t.table.isSome ∧ Qualified t.db t.schema t.table) ∨
    (t.db = none ∧ t.schema = none ∧ t.table = none ∧ ∃ q, t.expr = some (.query q))
  aliasName : ∀ name ∈ t.aliasName, isName name
  addition : t.addition = false
  kind : t.kind = none

/-- The words of a join. -/
def joinSides : List (List String) :=
  [[], ["INNER"], ["CROSS"], ["LEFT"], ["LEFT", "OUTER"], ["RIGHT"], ["RIGHT", "OUTER"], ["FULL"],
    ["FULL", "OUTER"]]

def joinWords : List String :=
  (joinSides ++ joinSides.map ("NATURAL" :: ·)).map fun words => " ".intercalate (words ++ ["JOIN"])

/-- A table that comes after a comma, or after no other one. -/
structure Table.Listed (t : Table Expr) : Prop where
  join : t.join = none
  condition : t.condition = none
  usingColumns : t.usingColumns = none

structure Table.Joined (t : Table Expr) : Prop where
  join : ∃ words ∈ joinWords, t.join = some words
  condition : t.condition.isSome → t.usingColumns = none
  usingColumns : NameList t.usingColumns

structure OrderItem.Plain (i : OrderItem Expr) : Prop where
  direction : i.direction = some "ASC" ∨ i.direction = some "DESC"
  nulls : i.nulls = none ∨ i.nulls = some "NULLS FIRST" ∨ i.nulls = some "NULLS LAST"

/-- What may stand after the count of FETCH, if it is not `ROWS ONLY`. -/
def fetchSuffixes : List (List String) :=
  [["PERCENT", "ROWS", "ONLY"], ["ROWS", "WITH", "TIES"], ["PERCENT", "ROWS", "WITH", "TIES"]]

/-- A limit that the dialect spells as it is. -/
structure Limit.Plain (d : Dialect) (l : Limit Expr) : Prop where
  given : l.count.isSome ∨ l.offset.isSome
  suffix : l.fetchSuffix = [] ∨ l.fetchSuffix ∈ fetchSuffixes ∧ l.count.isSome
  comma : l.comma = true → l.count.isSome ∧ l.offset.isSome ∧ l.fetchSuffix = [] ∧
    d.supportsLimitComma
  offset : d.requiresOffsetBeforeFetch = true → l.count.isSome → l.offset.isSome

structure Select.Plain (d : Dialect) (s : Select Expr) : Prop where
  withs : ∀ ctes ∈ s.withs, ctes ≠ [] ∧ ∃ recursive, ∀ c ∈ ctes, c.Plain recursive
  columns : ∀ items, s.columns = .list items → items ≠ [] ∧
    ∀ c ∈ items, ∀ name ∈ c.aliasName, IsAlias name
  tables : ∀ ts ∈ s.tables, ∃ first more, ts = first :: more ∧ first.Listed ∧
    (∀ t ∈ more, t.Listed ∨ t.Joined) ∧ ∀ t ∈ ts, t.Plain
  groupBy : ∀ es ∈ s.groupBy, es ≠ []
  windows : s.windows = none
  orderBy : ∀ items ∈ s.orderBy, items ≠ [] ∧ ∀ i ∈ items, i.Plain
  limit : ∀ l ∈ s.limit, l.Plain d
  parens : s.parens = false

def setOperators : List String :=
  ["union", "union all", "union distinct", "intersect", "intersect all", "intersect distinct",
    "except", "except all", "except distinct"]

/-- Every SELECT but the last says how it is joined to the next. -/
def Linked : List (Select Expr) → Prop
  | [] => True
  | [s] => s.setOperator = none
  | s :: next :: more =>
    (∃ operator ∈ setOperators, s.setOperator = some operator) ∧ Linked (next :: more)

/-! ## Core expressions and queries -/

inductive Phrase where
  | expr (e : Expr)
  | query (q : Query Expr)

/-- A query that stands in parentheses of its own, or an expression. -/
def Phrase.ofSource (e : Expr) : Phrase :=
  match e.node with
  | .query q => .query q
  | _ => .expr e

/-- What the clauses of a SELECT hold. -/
def Select.phrases (s : Select Expr) : List Phrase :=
  (s.withs.getD []).map (fun c => .ofSource c.body) ++
  (match s.columns with
    | .all => []
    | .list items => items.map fun c => .expr c.expr) ++
  (s.tables.getD []).flatMap (fun t => t.expr.toList.map .ofSource ++
    t.condition.toList.map .expr) ++
  s.condition.toList.map .expr ++ (s.groupBy.getD []).map .expr ++ s.having.toList.map .expr ++
  (s.orderBy.getD []).map (fun i => .expr i.expr) ++
  s.limit.toList.flatMap fun l => (l.count.toList ++ l.offset.toList).map .expr

open Operator in
/-- Expressions and queries that a dialect spells without loss. -/
inductive Phrase.Core (d : Dialect) : Phrase → Prop
  | column (c : ColumnRef Expr) (hc : c.Plain) : Core d (.expr (.mk (.column c)))
  | number (n : Nat) (hn : n < Nat.pow 2 64) : Core d (.expr (.number (.int n)))
  | string (value : String) : Core d (.expr (.string value))
  | bool (value : Bool) : Core d (.expr (.bool value))
  | null : Core d (.expr .null)
  | tuple (items : List Expr) (hitems : ∀ e ∈ items, Core d (.expr e))
      (hlength : 2 ≤ items.length) :
    Core d (.expr (.tuple items))
  | call (name : String) (args : List Expr) (hargs : ∀ e ∈ args, Core d (.expr e))
      (hname : IsFunction name) :
    Core d (.expr (.call name args))
  | case (subject : Option Expr) (arms : List (Expr × Expr)) (otherwise : Option Expr)
      (hsubject : ∀ e ∈ subject, Core d (.expr e)) (hwhen : ∀ a ∈ arms, Core d (.expr a.1))
      (hthen : ∀ a ∈ arms, Core d (.expr a.2)) (hotherwise : ∀ e ∈ otherwise, Core d (.expr e))
      (harms : arms ≠ []) :
    Core d (.expr (.mk (.case subject
      (arms.map (fun a => .when a.1 a.2) ++ otherwise.toList.map .otherwise) false)))
  | binary (operator : String) (power : Nat) (left right : Expr) (hleft : Core d (.expr left))
      (hright : Core d (.expr right)) (hoperator : (operator, power) ∈ betweenOperands)
      (hleads : left.leads power = true) (hyields : left.yields power = true)
      (htight : right.leads (power + 1) = true)
      (hnot : operator = "IS" → right.leading? ≠ some "NOT") :
    Core d (.expr (left.binary operator right))
  | member (operator : String) (left : Expr) (items : List Expr) (hleft : Core d (.expr left))
      (hitems : ∀ e ∈ items, Core d (.expr e)) (hoperator : operator ∈ memberships)
      (hleads : left.leads predicatePower = true) (hyields : left.yields predicatePower = true)
      (hsome : items ≠ []) :
    Core d (.expr (left.binary operator (.tuple items)))
  | memberOf (operator : String) (left : Expr) (q : Query Expr) (hleft : Core d (.expr left))
      (hq : Core d (.query q)) (hoperator : operator ∈ memberships)
      (hleads : left.leads predicatePower = true) (hyields : left.yields predicatePower = true) :
    Core d (.expr (left.binary operator (.query q.parenthesized)))
  | range (operator : String) (left low high : Expr) (hleft : Core d (.expr left))
      (hlow : Core d (.expr low)) (hhigh : Core d (.expr high)) (hoperator : operator ∈ ranges)
      (hleads : left.leads predicatePower = true) (hyields : left.yields predicatePower = true)
      (hlowTight : low.leads (predicatePower + 1) = true) (hand : low.yields 3 = true)
      (hhighTight : high.leads (predicatePower + 1) = true) :
    Core d (.expr (left.binary operator (.list [low, high])))
  | existence (q : Query Expr) (hq : Core d (.query q)) :
    Core d (.expr (.unary "EXISTS" (.query q.parenthesized)))
  | subquery (q : Query Expr) (hq : Core d (.query q)) : Core d (.expr (.query q.parenthesized))
  | unary (operator : String) (power : Nat) (operand : Expr) (hoperand : Core d (.expr operand))
      (hoperator : (operator, power) ∈ beforeOperand) (htight : operand.leads power = true)
      (hdash : operator = "-" → operand.leading? ≠ some "-") :
    Core d (.expr (.unary operator operand))
  | parenthesized (e : Expr) (he : Core d (.expr e)) (hbare : e.isBare = true) :
    Core d (.expr e.parenthesized)
  | query (q : Query Expr) (hphrases : ∀ s ∈ q.head :: q.rest, ∀ p ∈ s.phrases, Core d p)
      (hselects : ∀ s ∈ q.head :: q.rest, s.Plain d) (hlinked : Linked (q.head :: q.rest)) :
    Core d (.query q)

theorem Phrase.Core.ofName {d : Dialect} {name : String} (h : isName name = true) :
    Phrase.Core d (.expr (.column name)) := by
  have hname : (ColumnName.ofText name : ColumnName Expr) = .name name :=
    if_neg (by simpa [isName] using h)
  have hqualified : Qualified none none none := by constructor <;> simp
  exact .column _ ⟨hqualified, ⟨name, hname, h⟩, rfl, rfl⟩

/-- Queries that a dialect spells without loss. -/
def Query.Core (d : Dialect) (q : Query Expr) : Prop := Phrase.Core d (.query q)

end SqlWeave
