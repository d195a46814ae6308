import SqlWeave.Tree.Query

/-! Statements and the scripts they make up. -/

namespace SqlWeave

structure Update (E : Type) where
  withs : Option (List (Cte E)) := none
  tables : List (Table E)
  assignments : List (Assignment E)
  source : Option (List (Table E)) := none
  condition : Option E := none
  orderBy : Option (List (OrderItem E)) := none
  limit : Option (Limit E) := none
  returning : Option (Columns E) := none

/-- `columns` and `targets` name what is deleted in forms with several tables, `source` is the FROM
list. -/
structure Delete (E : Type) where
  withs : Option (List (Cte E)) := none
  columns : Option (List (Column E)) := none
  targets : Option (List (Table E)) := none
  source : Option (List (Table E)) := none
  condition : Option E := none
  orderBy : Option (List (OrderItem E)) := none
  limit : Option (Limit E) := none
  returning : Option (Columns E) := none

/-- `ENGINE = MergeTree`; the value is kept as written. -/
structure TableOption where
  keyword : String
  symbol : Option String := none
  value : String
deriving DecidableEq

/-- CREATE of a table, a view, a database or a schema, as `keyword` says. -/
structure Create (E : Type) where
  keyword : String
  orReplace : Bool := false
  temporary : Bool := false
  ifNotExists : Bool := false
  tables : Option (List (Table E)) := none
  database : Option String := none
  definitions : Option (List E) := none
  options : Option (List TableOption) := none
  query : Option E := none

structure Drop (E : Type) where
  keyword : String
  ifExists : Bool := false
  names : List (Table E)

inductive Statement (E : Type) where
  | select (query : Query E)
  | insert (insert : Insert E)
  | replace (insert : Insert E)
  | update (update : Update E)
  | delete (delete : Delete E)
  | create (create : Create E)
  | drop (drop : Drop E)
  | showing (keyword : String)

/-- What a text holds: one statement, or several separated by semicolons. -/
inductive Script (E : Type) where
  | single (statement : Statement E)
  | several (statements : List (Statement E))

variable {E F : Type}

def Update.map (f : E → F) (u : Update E) : Update F :=
  ⟨u.withs.map (·.map (·.map f)), u.tables.map (·.map f), u.assignments.map (·.map f),
    u.source.map (·.map (·.map f)), u.condition.map f, u.orderBy.map (·.map (·.map f)),
    u.limit.map (·.map f), u.returning.map (·.map f)⟩

def Delete.map (f : E → F) (d : Delete E) : Delete F :=
  ⟨d.withs.map (·.map (·.map f)), d.columns.map (·.map (·.map f)), d.targets.map (·.map (·.map f)),
    d.source.map (·.map (·.map f)), d.condition.map f, d.orderBy.map (·.map (·.map f)),
    d.limit.map (·.map f), d.returning.map (·.map f)⟩

def Create.map (f : E → F) (c : Create E) : Create F :=
  ⟨c.keyword, c.orReplace, c.temporary, c.ifNotExists, c.tables.map (·.map (·.map f)), c.database,
    c.definitions.map (·.map f), c.options, c.query.map f⟩

def Drop.map (f : E → F) (d : Drop E) : Drop F := ⟨d.keyword, d.ifExists, d.names.map (·.map f)⟩

namespace Statement

def map (f : E → F) : Statement E → Statement F
  | .select q => .select (q.map f)
  | .insert i => .insert (i.map f)
  | .replace i => .replace (i.map f)
  | .update u => .update (u.map f)
  | .delete d => .delete (d.map f)
  | .create c => .create (c.map f)
  | .drop d => .drop (d.map f)
  | .showing keyword => .showing keyword

def verb : Statement E → String
  | .select _ => "select"
  | .insert _ => "insert"
  | .replace _ => "replace"
  | .update _ => "update"
  | .delete _ => "delete"
  | .create _ => "create"
  | .drop _ => "drop"
  | .showing _ => "show"

end Statement

namespace Script

def statements : Script E → List (Statement E)
  | .single s => [s]
  | .several ss => ss

/-- A list of one statement is that statement. -/
def ofStatements : List (Statement E) → Script E
  | [s] => .single s
  | ss => .several ss

theorem statements_ofStatements (ss : List (Statement E)) : (ofStatements ss).statements = ss := by
  match ss with
  | [] => rfl
  | [_] => rfl
  | _ :: _ :: _ => rfl

end Script

end SqlWeave
