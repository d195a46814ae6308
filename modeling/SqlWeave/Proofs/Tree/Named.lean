import SqlWeave.References
import SqlWeave.Tree.Build
import SqlWeave.Tree.Statement

/-! The tables and columns a tree names, and the queries that it declares. A tree holds
subexpressions, tables, columns, select lists and names of queries; a table or a column is named
under the verb of the statement it stands in, and under `select` from a query on. -/

namespace SqlWeave

/-- A table or a column that is referred to, or a query that is declared. -/
inductive Reference where
  | table (r : TableReference)
  | column (r : ColumnReference)
  | query (name : String)

/-- Whether it is a column: those may be noted where no tree names them. -/
def Reference.isColumn : Reference → Bool
  | .column _ => true
  | .table _ | .query _ => false

/-- The table, the column or the name of the query has been noted. -/
def References.Has (refs : References) : Reference → Prop
  | .table r => r ∈ refs.tables
  | .column r => r ∈ refs.columns
  | .query name => name ∈ refs.ctes

/-- A column as it is noted: a star stands for every column. -/
def ColumnReference.of (verb : String) (table : Option String) (column : String) :
    ColumnReference :=
  ⟨verb, table, if column = "*" then "(.*)" else column⟩

/-- What a tree holds at one place. -/
inductive Part where
  | expr (e : Expr)
  /-- An argument of a type. The name of a field is no column. -/
  | field (e : Expr)
  /-- A PRIMARY KEY or UNIQUE constraint. Its columns are not read or written. -/
  | key (e : Expr)
  | table (t : Table Expr)
  | column (table : Option String) (name : String)
  /-- A select list. -/
  | columns (list : Columns Expr)
  /-- The name of a query in a WITH clause. -/
  | query (name : String)

/-- Trees, and the pieces of trees that a reader returns. -/
class HasParts (α : Type) where
  parts : α → List Part

open HasParts (parts)

section Collections

variable {α β : Type} [HasParts α] [HasParts β]

instance : HasParts (Option α) := ⟨fun x => x.toList.flatMap parts⟩
instance : HasParts (List α) := ⟨fun xs => xs.flatMap parts⟩
instance : HasParts (α × β) := ⟨fun x => parts x.1 ++ parts x.2⟩

@[simp] theorem parts_none : parts (none : Option α) = [] := rfl
@[simp] theorem parts_some (x : α) : parts (some x) = parts x := List.append_nil _
@[simp] theorem parts_nil : parts ([] : List α) = [] := rfl
@[simp] theorem parts_cons (x : α) (xs : List α) : parts (x :: xs) = parts x ++ parts xs := rfl
@[simp] theorem parts_pair (x : α) (y : β) : parts (x, y) = parts x ++ parts y := rfl

@[simp] theorem parts_append (xs ys : List α) : parts (xs ++ ys) = parts xs ++ parts ys :=
  List.flatMap_append

theorem parts_map {f : α → β} (h : ∀ x, parts (f x) = parts x) (xs : List α) :
    parts (xs.map f) = parts xs := by
  induction xs with
  | nil => rfl
  | cons x xs ih => rw [List.map_cons, parts_cons, parts_cons, h, ih]

end Collections

instance : HasParts Expr := ⟨fun e => [.expr e]⟩

@[simp] theorem parts_expr (e : Expr) : parts e = [.expr e] := rfl

/-! ## Pieces of expressions -/

/-- A star is a column of its own only under a qualifier. -/
def ColumnRef.parts (c : ColumnRef Expr) : List Part :=
  match c.column, c.table with
  | .name text, table => [.column table text]
  | .star, some table => [.column (some table) "*"]
  | .star, none => []
  | .computed e, _ => [.expr e]

/-- What a reference holds where its name is no column that is read or written. -/
def ColumnRef.innerParts (c : ColumnRef Expr) : List Part :=
  match c.column with
  | .computed e => [.expr e]
  | .star | .name _ => []

@[simp] theorem ColumnRef.innerParts_ofText (text : String) : (ofText text).innerParts = [] := by
  by_cases h : text = "*"
  · simp [innerParts, ofText, ColumnName.ofText, h]
  · simp [innerParts, ofText, ColumnName.ofText, h]

instance : HasParts (ColumnRef Expr) := ⟨ColumnRef.parts⟩
instance : HasParts (OrderItem Expr) := ⟨fun i => parts i.expr⟩
instance : HasParts (WindowSpec Expr) := ⟨fun w => parts w.partitionBy ++ parts w.orderBy⟩
instance : HasParts (NamedWindow Expr) := ⟨fun w => parts w.spec⟩
instance : HasParts (DataType Expr) := ⟨fun t => t.args.map .field⟩

instance : HasParts (ColumnDefinition Expr) :=
  ⟨fun d => parts d.column ++ parts d.type ++ parts d.defaultValue ++ parts d.comment⟩

def CaseArm.parts : CaseArm Expr → List Part
  | .when condition result => [.expr condition, .expr result]
  | .otherwise result => [.expr result]

instance : HasParts (CaseArm Expr) := ⟨CaseArm.parts⟩

/-! ## Pieces of queries -/

instance : HasParts (Table Expr) := ⟨fun t => .table t :: (parts t.expr ++ parts t.condition)⟩
instance : HasParts (Column Expr) := ⟨fun c => parts c.expr⟩

def Columns.items : Columns Expr → List (Column Expr)
  | .all => []
  | .list items => items

instance : HasParts (Columns Expr) := ⟨fun cs => .columns cs :: parts cs.items⟩
instance : HasParts (Cte Expr) := ⟨fun c => .query c.name :: parts c.body⟩
instance : HasParts (Limit Expr) := ⟨fun l => parts l.count ++ parts l.offset⟩
instance : HasParts (Select Expr) :=
  ⟨fun s => parts s.withs ++ parts s.columns ++ parts s.tables ++ parts s.condition ++
    parts s.groupBy ++
    parts s.having ++ parts s.windows ++ parts s.orderBy ++ parts s.limit⟩

/-- A query is one expression to what it stands in. -/
instance : HasParts (Query Expr) := ⟨fun q => [.expr (.query q)]⟩
instance : HasParts (Assignment Expr) := ⟨fun a => .column a.table a.column :: parts a.value⟩

def InsertSource.parts : InsertSource Expr → List Part
  | .rows items => HasParts.parts items
  | .query q => [.expr q]

instance : HasParts (InsertSource Expr) := ⟨InsertSource.parts⟩

/-- The columns that values are given for, under the name of the table. -/
def Insert.columnParts (i : Insert Expr) : List Part :=
  (i.columns.getD []).map (.column (i.tables.head?.bind Table.table))

instance : HasParts (Insert Expr) :=
  ⟨fun i => parts i.tables ++ i.columnParts ++ parts i.source ++ parts i.onDuplicate ++
    parts i.returning⟩

@[simp] theorem parts_columnRef (c : ColumnRef Expr) : parts c = c.parts := rfl
@[simp] theorem parts_orderItem (i : OrderItem Expr) : parts i = [.expr i.expr] := rfl
@[simp] theorem parts_windowSpec (w : WindowSpec Expr) :
    parts w = parts w.partitionBy ++ parts w.orderBy := rfl
@[simp] theorem parts_namedWindow (w : NamedWindow Expr) : parts w = parts w.spec := rfl
@[simp] theorem parts_dataType (t : DataType Expr) : parts t = t.args.map .field := rfl
@[simp] theorem parts_columnDefinition (d : ColumnDefinition Expr) :
    parts d = parts d.column ++ parts d.type ++ parts d.defaultValue ++ parts d.comment := rfl
@[simp] theorem parts_caseArm (a : CaseArm Expr) : parts a = a.parts := rfl
@[simp] theorem parts_table (t : Table Expr) :
    parts t = .table t :: (parts t.expr ++ parts t.condition) := rfl
@[simp] theorem parts_column (c : Column Expr) : parts c = [.expr c.expr] := rfl
@[simp] theorem parts_columns (c : Columns Expr) : parts c = .columns c :: parts c.items := rfl
@[simp] theorem parts_cte (c : Cte Expr) : parts c = [.query c.name, .expr c.body] := rfl
@[simp] theorem parts_limit (l : Limit Expr) : parts l = parts l.count ++ parts l.offset := rfl
@[simp] theorem parts_select (s : Select Expr) :
    parts s = parts s.withs ++ parts s.columns ++ parts s.tables ++ parts s.condition ++
      parts s.groupBy ++ parts s.having ++ parts s.windows ++ parts s.orderBy ++ parts s.limit :=
        rfl
@[simp] theorem parts_query (q : Query Expr) : parts q = [.expr (.query q)] := rfl
@[simp] theorem parts_assignment (a : Assignment Expr) :
    parts a = [.column a.table a.column, .expr a.value] := rfl
@[simp] theorem parts_insertSource (s : InsertSource Expr) : parts s = s.parts := rfl
@[simp] theorem parts_insert (i : Insert Expr) :
    parts i = parts i.tables ++ i.columnParts ++ parts i.source ++ parts i.onDuplicate ++
      parts i.returning := rfl

/-! ## Expressions -/

namespace Node

def parts : Node Expr → List Part
  | .column c => HasParts.parts c
  | .binary _ l r _ => [.expr l, .expr r]
  | .unary _ e _ => [.expr e]
  | .call _ args window _ _ => HasParts.parts args ++ HasParts.parts window
  | .aggregate _ arg _ orderBy separator window _ =>
    .expr arg :: (HasParts.parts orderBy ++ HasParts.parts separator ++ HasParts.parts window)
  | .cast _ e _ target _ => .expr e :: HasParts.parts target
  | .case subject arms _ => HasParts.parts subject ++ HasParts.parts arms
  | .windowCall _ args window => HasParts.parts args ++ HasParts.parts window
  | .subscript base indices => .expr base :: HasParts.parts indices
  | .list items _ _ => HasParts.parts items
  | .query q => HasParts.parts q.head ++ HasParts.parts q.rest
  | .mapLiteral _ entries => HasParts.parts entries
  | .fullText _ columns _ phrase _ => HasParts.parts columns ++ [.expr phrase]
  | .columnDefinition d => HasParts.parts d
  | .interval amount _ => [.expr amount]
  | .extract _ source => [.expr source]
  | .collate operand _ _ => HasParts.parts operand
  | .dataType t => HasParts.parts t
  | .assign l _ r => [.expr l, .expr r]
  | .array _ _ items => HasParts.parts items
  | .struct _ items => HasParts.parts items
  | .lambda _ body => [.expr body]
  | .unnest e => [.expr e]
  | .json _ items => HasParts.parts items
  | .jsonStep _ e => [.expr e]
  | .jsonMember key value onNull => .expr key :: .expr value :: HasParts.parts onNull
  | .anyValue arg window => .expr arg :: HasParts.parts window
  | .flatten input path outer recursive mode =>
    HasParts.parts [input, path, outer, recursive, mode]
  | .tableCall _ args aliasName => .expr args :: HasParts.parts aliasName
  | .namedArg _ _ value => [.expr value]
  | .windows ws => HasParts.parts ws
  | .insert i => HasParts.parts i
  | .tables ts => HasParts.parts ts
  | .wrapped e => [.expr e]
  | .variable _ | .showing _ | .number _ _ | .text _ _ _ | .bool _ _ | .null | .star
  | .unknown _ => []

/-- The verb for what a node holds, where `verb` is the one for the node. -/
def verb (verb : String) : Node Expr → String
  | .query _ => "select"
  | .insert _ => "insert"
  | _ => verb

end Node

/-- What an argument of a type holds. -/
def Node.fieldParts : Node Expr → List Part
  | .columnDefinition d =>
    d.column.innerParts ++ HasParts.parts d.type ++ HasParts.parts d.defaultValue ++
      HasParts.parts d.comment
  | n => n.parts

/-- What an entry of a key holds. -/
def Expr.keyParts : Expr → List Part
  | .mk (.column c) => c.innerParts
  | e => [.expr e]

/-- What a key holds, which is a call of its columns. -/
def Node.keyParts : Node Expr → List Part
  | .call _ (some (.mk (.list items _ _))) window _ _ =>
    items.flatMap Expr.keyParts ++ HasParts.parts window
  | n => n.parts

/-- `p`, met under `verb`, holds `q` at some depth and under the verb `v`. -/
inductive Part.Holds : (verb : String) → (p : Part) → (v : String) → (q : Part) → Prop
  | here {verb : String} {p : Part} : Holds verb p verb p
  | expr {n : Node Expr} {verb v : String} {p q : Part} :
      p ∈ n.parts → Holds (n.verb verb) p v q → Holds verb (.expr (.mk n)) v q
  | field {n : Node Expr} {verb v : String} {p q : Part} :
      p ∈ n.fieldParts → Holds (n.verb verb) p v q → Holds verb (.field (.mk n)) v q
  | key {n : Node Expr} {verb v : String} {p q : Part} :
      p ∈ n.keyParts → Holds (n.verb verb) p v q → Holds verb (.key (.mk n)) v q

/-- A star without a qualifier. -/
def Expr.isStar : Expr → Bool
  | .mk (.column ⟨none, none, none, .star, none, false⟩) => true
  | _ => false

/-- The select list is a star or starts with one. -/
def Columns.startsWithStar : Columns Expr → Bool
  | .all => true
  | .list (c :: _) => c.expr.isStar
  | .list [] => false

/-- What a part, met under `verb`, refers to by itself. -/
def Part.Refers (verb : String) (r : Reference) : Part → Prop
  | .expr _ | .field _ | .key _ => False
  | .table t => ∃ name, t.table = some name ∧ r = .table ⟨verb, t.db, name⟩
  | .column qualifier name => r = .column (.of verb qualifier name)
  | .columns list => list.startsWithStar = true ∧ r = .column (.of verb none "*")
  | .query name => r = .query name

/-- The part, met under `verb`, or something in it refers to the table or the column. -/
def Part.Names (verb : String) (r : Reference) (p : Part) : Prop :=
  ∃ v q, p.Holds verb v q ∧ q.Refers v r

/-- Some part of the list names the table or the column. -/
def Part.Named (verb : String) (ps : List Part) (r : Reference) : Prop := ∃ p ∈ ps, p.Names verb r

def Expr.Names (e : Expr) (verb : String) (r : Reference) : Prop := (Part.expr e).Names verb r

namespace Part

variable {verb : String} {r : Reference}

/-- Where a part refers to nothing by itself and holds `ps`, it names what those name. -/
theorem names_iff_named {p : Part} {ps : List Part} {inner : String} (hself : ∀ v, ¬ p.Refers v r)
    (hin : ∀ v q, p.Holds verb v q → (v = verb ∧ q = p) ∨ ∃ p' ∈ ps, p'.Holds inner v q)
    (hout : ∀ p' ∈ ps, ∀ v q, p'.Holds inner v q → p.Holds verb v q) :
    p.Names verb r ↔ Named inner ps r := by
  constructor
  · rintro ⟨v, q, hholds, hrefers⟩
    rcases hin v q hholds with ⟨rfl, rfl⟩ | ⟨p', hp', hinner⟩
    · exact absurd hrefers (hself _)
    · exact ⟨p', hp', v, q, hinner, hrefers⟩
  · rintro ⟨p', hp', v, q, hholds, hrefers⟩
    exact ⟨v, q, hout p' hp' v q hholds, hrefers⟩

@[simp] theorem names_expr {n : Node Expr} :
    (Part.expr (.mk n)).Names verb r ↔ Named (n.verb verb) n.parts r := by
  refine names_iff_named (fun _ => id) (fun v q h => ?_) fun p hp v q h => .expr hp h
  cases h with
  | here => exact .inl ⟨rfl, rfl⟩
  | expr hp h => exact .inr ⟨_, hp, h⟩

@[simp] theorem names_field {n : Node Expr} :
    (Part.field (.mk n)).Names verb r ↔ Named (n.verb verb) n.fieldParts r := by
  refine names_iff_named (fun _ => id) (fun v q h => ?_) fun p hp v q h => .field hp h
  cases h with
  | here => exact .inl ⟨rfl, rfl⟩
  | field hp h => exact .inr ⟨_, hp, h⟩

@[simp] theorem names_key {n : Node Expr} :
    (Part.key (.mk n)).Names verb r ↔ Named (n.verb verb) n.keyParts r := by
  refine names_iff_named (fun _ => id) (fun v q h => ?_) fun p hp v q h => .key hp h
  cases h with
  | here => exact .inl ⟨rfl, rfl⟩
  | key hp h => exact .inr ⟨_, hp, h⟩

/-- A part without parts names what it refers to by itself. -/
theorem names_iff_refers {p : Part} (h : ∀ v q, p.Holds verb v q → v = verb ∧ q = p) :
    p.Names verb r ↔ p.Refers verb r := by
  constructor
  · rintro ⟨v, q, hholds, hrefers⟩
    obtain ⟨rfl, rfl⟩ := h v q hholds
    exact hrefers
  · intro hrefers
    exact ⟨verb, p, .here, hrefers⟩

@[simp] theorem names_table {t : Table Expr} :
    (Part.table t).Names verb r ↔ ∃ name, t.table = some name ∧ r = .table ⟨verb, t.db, name⟩ := by
  refine names_iff_refers fun v q h => ?_
  cases h
  exact ⟨rfl, rfl⟩

@[simp] theorem names_column {table : Option String} {name : String} :
    (Part.column table name).Names verb r ↔ r = .column (.of verb table name) := by
  refine names_iff_refers fun v q h => ?_
  cases h
  exact ⟨rfl, rfl⟩

@[simp] theorem names_columns {list : Columns Expr} :
    (Part.columns list).Names verb r ↔
      list.startsWithStar = true ∧ r = .column (.of verb none "*") := by
  refine names_iff_refers fun v q h => ?_
  cases h
  exact ⟨rfl, rfl⟩

@[simp] theorem names_query {name : String} : (Part.query name).Names verb r ↔ r = .query name := by
  refine names_iff_refers fun v q h => ?_
  cases h
  exact ⟨rfl, rfl⟩

@[simp] theorem named_nil : ¬ Named verb [] r := by simp [Named]

@[simp] theorem named_cons {p : Part} {ps : List Part} :
    Named verb (p :: ps) r ↔ p.Names verb r ∨ Named verb ps r := by simp [Named]

@[simp] theorem named_append {ps qs : List Part} :
    Named verb (ps ++ qs) r ↔ Named verb ps r ∨ Named verb qs r := by
  simp [Named, or_and_right, exists_or]

@[simp] theorem named_list {α : Type} [HasParts α] {xs : List α} :
    Named verb (parts xs) r ↔ ∃ x ∈ xs, Named verb (parts x) r := by
  induction xs with
  | nil => simp
  | cons x xs ih => simp [ih]

@[simp] theorem named_map {α : Type} {f : α → Part} {xs : List α} :
    Named verb (xs.map f) r ↔ ∃ x ∈ xs, (f x).Names verb r := by
  induction xs with
  | nil => simp
  | cons x xs ih => simp [ih]

/-- A column that is written `text` is named as such; a star without a qualifier is not. -/
theorem column_of_named_parts {c : ColumnRef Expr} {text : String} (hc : c.column = .ofText text)
    (h : Named verb c.parts r) : r = .column (.of verb c.table text) := by
  by_cases hstar : text = "*"
  · cases htable : c.table with
    | none => simp [ColumnRef.parts, hc, htable, ColumnName.ofText, hstar] at h
    | some table => simpa [ColumnRef.parts, hc, htable, ColumnName.ofText, hstar] using h
  · simpa [ColumnRef.parts, hc, ColumnName.ofText, hstar] using h

end Part

@[simp] theorem Expr.names_mk {n : Node Expr} {verb : String} {r : Reference} :
    (Expr.mk n).Names verb r ↔ Part.Named (n.verb verb) n.parts r := Part.names_expr

@[simp] theorem Part.names_expr_eq {e : Expr} {verb : String} {r : Reference} :
    (Part.expr e).Names verb r ↔ e.Names verb r := .rfl

namespace Expr

variable {verb : String} {r : Reference}

@[simp] theorem isStar_star : star.isStar = true := by
  simp [star, column, ColumnRef.ofText, ColumnName.ofText, isStar]

@[simp] theorem names_star : ¬ star.Names verb r := by
  simp [star, column, ColumnRef.ofText, ColumnName.ofText, Node.parts, ColumnRef.parts]

theorem names_query {q : Query Expr} :
    (query q).Names verb r ↔ Part.Named "select" (parts q.head ++ parts q.rest) r := names_mk

@[simp] theorem names_query_parenthesized {q : Query Expr} :
    (query q.parenthesized).Names verb r ↔ (query q).Names verb r := by
  rw [names_query, names_query]
  rfl

theorem names_singleton {e : Expr} : (tuple [e]).Names verb r ↔ e.Names verb r := by
  simp [tuple, Node.parts, Node.verb]

/-- Parentheses around an expression name nothing. -/
@[simp] theorem names_parenthesized {e : Expr} : e.parenthesized.Names verb r ↔ e.Names verb r := by
  obtain ⟨n⟩ := e
  cases n
  case query q => exact names_query_parenthesized
  all_goals first | exact names_mk.trans (Iff.symm (names_mk (n := _))) | exact names_singleton

end Expr

/-! ## Statements -/

instance : HasParts (Update Expr) :=
  ⟨fun u => parts u.withs ++ parts u.tables ++ parts u.assignments ++ parts u.source ++
    parts u.condition ++
    parts u.orderBy ++ parts u.limit ++ parts u.returning⟩
instance : HasParts (Delete Expr) :=
  ⟨fun d => parts d.withs ++ parts d.columns ++ parts d.targets ++ parts d.source ++
    parts d.condition ++
    parts d.orderBy ++ parts d.limit ++ parts d.returning⟩

/-- A PRIMARY KEY or UNIQUE constraint. -/
def Expr.isKey : Expr → Bool
  | .mk (.call name _ _ _ _) => name == "PRIMARY KEY" || name == "UNIQUE"
  | _ => false

def Expr.definitionPart (e : Expr) : Part := if e.isKey then .key e else .expr e

instance : HasParts (Create Expr) :=
  ⟨fun c => parts c.tables ++ (c.definitions.getD []).map Expr.definitionPart ++ parts c.query⟩
instance : HasParts (Drop Expr) := ⟨fun d => parts d.names⟩

@[simp] theorem parts_update (u : Update Expr) :
    parts u = parts u.withs ++ parts u.tables ++ parts u.assignments ++ parts u.source ++
      parts u.condition ++ parts u.orderBy ++ parts u.limit ++ parts u.returning := rfl
@[simp] theorem parts_delete (d : Delete Expr) :
    parts d = parts d.withs ++ parts d.columns ++ parts d.targets ++ parts d.source ++
      parts d.condition ++ parts d.orderBy ++ parts d.limit ++ parts d.returning := rfl
@[simp] theorem parts_create (c : Create Expr) :
    parts c = parts c.tables ++ (c.definitions.getD []).map Expr.definitionPart ++ parts c.query :=
  rfl
@[simp] theorem parts_drop (d : Drop Expr) : parts d = parts d.names := rfl

namespace Statement

def parts : Statement Expr → List Part
  | .select q => HasParts.parts q
  | .insert i => HasParts.parts i
  | .replace i => HasParts.parts i
  | .update u => HasParts.parts u
  | .delete d => HasParts.parts d
  | .create c => HasParts.parts c
  | .drop d => HasParts.parts d
  | .showing _ => []

def isCreate : Statement Expr → Bool
  | .create _ => true
  | _ => false

/-- The statement holds the part somewhere, under the verb `v`. -/
def Holds (s : Statement Expr) (v : String) (q : Part) : Prop := ∃ p ∈ s.parts, p.Holds s.verb v q

/-- The statement names the table or the column somewhere. -/
def Names (s : Statement Expr) (r : Reference) : Prop := Part.Named s.verb s.parts r

theorem Holds.names {s : Statement Expr} {v : String} {q : Part} {r : Reference} (h : s.Holds v q)
    (hr : q.Refers v r) : s.Names r := by
  obtain ⟨p, hp, hholds⟩ := h
  exact ⟨p, hp, v, q, hholds, hr⟩

end Statement

/-- Some statement holds the part. -/
def Script.Holds (script : Script Expr) (v : String) (q : Part) : Prop :=
  ∃ s ∈ script.statements, s.Holds v q

/-- Some statement names the table or the column. -/
def Script.Names (script : Script Expr) (r : Reference) : Prop := ∃ s ∈ script.statements, s.Names r

end SqlWeave
