import SqlWeave.Text.Ascii
import SqlWeave.Tree.Column

/-! Queries and the clauses they share with other statements. A clause that is absent is `none`. -/

namespace SqlWeave

/-- An entry of a FROM list: a table, a derived table, or a join of one of those. -/
structure Table (E : Type) where
  db : Option String := none
  schema : Option String := none
  table : Option String := none
  /-- A derived table or a table function. -/
  expr : Option E := none
  aliasName : Option String := none
  join : Option String := none
  condition : Option E := none
  usingColumns : Option (List String) := none
  /-- Set if the entry only repeats a FROM table as the target of a DELETE. -/
  addition : Bool := false
  kind : Option String := none

/-- An entry of a select list. -/
structure Column (E : Type) where
  expr : E
  aliasName : Option String := none

inductive Columns (E : Type) where
  | all
  | list (items : List (Column E))

/-- A common table expression of a WITH clause. -/
structure Cte (E : Type) where
  name : String
  columns : Option (List String) := none
  body : E
  recursive : Bool := false

/-- A row limit. `comma` records the form `LIMIT offset, count`; `fetchSuffix` holds the words after
a FETCH count if they say more than `ROWS ONLY`. -/
structure Limit (E : Type) where
  count : Option E := none
  offset : Option E := none
  comma : Bool := false
  fetchSuffix : List String := []

/-- One SELECT, with the operator that joins it to the next. -/
structure Select (E : Type) where
  withs : Option (List (Cte E)) := none
  distinct : Bool := false
  columns : Columns E := .all
  tables : Option (List (Table E)) := none
  condition : Option E := none
  groupBy : Option (List E) := none
  having : Option E := none
  windows : Option (List (NamedWindow E)) := none
  orderBy : Option (List (OrderItem E)) := none
  limit : Option (Limit E) := none
  setOperator : Option String := none
  parens : Bool := false

/-- A chain of SELECTs. -/
structure Query (E : Type) where
  head : Select E
  rest : List (Select E) := []

/-- `column = value`. -/
structure Assignment (E : Type) where
  column : String
  value : E
  table : Option String := none

inductive InsertSource (E : Type) where
  | rows (rows : List E)
  | query (query : E)

/-- An INSERT or a REPLACE. -/
structure Insert (E : Type) where
  tables : List (Table E)
  columns : Option (List String) := none
  source : Option (InsertSource E) := none
  /-- The words between the verb and the table, if they are not just INTO. -/
  into : Option String := none
  onDuplicate : Option (List (Assignment E)) := none
  returning : Option (Columns E) := none

variable {E F : Type}

namespace Table

def map (f : E → F) (t : Table E) : Table F :=
  ⟨t.db, t.schema, t.table, t.expr.map f, t.aliasName, t.join, t.condition.map f, t.usingColumns,
    t.addition, t.kind⟩

def named (name : String) : Table E := { table := some name }

def derived (expr : E) : Table E := { expr := some expr }

/-- The pseudo table that a dialect without bare SELECTs needs. -/
def dual : Table E := { kind := some "dual" }

/-- The parts of the name that are there, outermost first. -/
def nameParts (t : Table E) : List String := [t.db, t.schema, t.table].filterMap id

end Table

def Column.map (f : E → F) (c : Column E) : Column F := ⟨f c.expr, c.aliasName⟩

def Columns.map (f : E → F) : Columns E → Columns F
  | .all => .all
  | .list items => .list (items.map (·.map f))

def Cte.map (f : E → F) (c : Cte E) : Cte F := ⟨c.name, c.columns, f c.body, c.recursive⟩

namespace Limit

def map (f : E → F) (l : Limit E) : Limit F :=
  ⟨l.count.map f, l.offset.map f, l.comma, l.fetchSuffix⟩

def ofCount (count : E) : Limit E := { count := some count }

def ofOffset (offset : E) : Limit E := { offset := some offset }

def withOffset (l : Limit E) (offset : E) : Limit E := { l with offset := some offset }

def withComma (l : Limit E) : Limit E := { l with comma := true }

end Limit

def Select.map (f : E → F) (s : Select E) : Select F :=
  ⟨s.withs.map (·.map (·.map f)), s.distinct, s.columns.map f, s.tables.map (·.map (·.map f)),
    s.condition.map f, s.groupBy.map (·.map f), s.having.map f, s.windows.map (·.map (·.map f)),
    s.orderBy.map (·.map (·.map f)), s.limit.map (·.map f), s.setOperator, s.parens⟩

namespace Query

def map (f : E → F) (q : Query E) : Query F := ⟨q.head.map f, q.rest.map (·.map f)⟩

def parens (q : Query E) : Bool := q.head.parens

def parenthesized (q : Query E) : Query E := { q with head := { q.head with parens := true } }

/-- `SELECT columns FROM table`. -/
def ofTable (columns : Columns E) (table : Table E) : Query E :=
  { head := { columns, tables := some [table] } }

end Query

def Assignment.map (f : E → F) (a : Assignment E) : Assignment F := ⟨a.column, f a.value, a.table⟩

def InsertSource.map (f : E → F) : InsertSource E → InsertSource F
  | .rows rs => .rows (rs.map f)
  | .query q => .query (f q)

def Insert.map (f : E → F) (i : Insert E) : Insert F :=
  ⟨i.tables.map (·.map f), i.columns, i.source.map (·.map f), i.into,
    i.onDuplicate.map (·.map (·.map f)), i.returning.map (·.map f)⟩

/-! ## Clauses that are known by their words -/

def Table.isDual (t : Table E) : Bool := t.kind.any (Text.sameAscii · "dual")

namespace Limit

def isPlainWord (word : String) : Bool := word == "ROW" || word == "ROWS" || word == "ONLY"

/-- Keeps the words that followed a FETCH count. Plain `ROWS ONLY` is dropped, since every dialect
spells it on its own. -/
def withFetchSuffix (l : Limit E) (words : List String) : Limit E :=
  let words := (words.flatMap Text.words).map Text.asciiUpper
  { l with fetchSuffix := if words.all isPlainWord then [] else words }

end Limit

end SqlWeave
