/-! Table and column references met while a text is read. An entry is written
`verb::qualifier::name`, so that allow patterns can match it. -/

namespace SqlWeave

structure TableReference where
  verb : String
  db : Option String
  table : String
deriving DecidableEq, Repr

structure ColumnReference where
  verb : String
  table : Option String
  column : String
deriving DecidableEq, Repr

/-- Entries in the order met. Aliases and query names hold for the whole text, whether they are
declared before or after a reference, so they are looked up only when the lists are written. -/
structure References where
  tables : List TableReference := []
  columns : List ColumnReference := []
  aliases : List (String × String) := []
  ctes : List String := []
deriving Repr

namespace References

def empty : References := {}

def addTable (r : References) (verb : String) (db : Option String) (table : String) : References :=
  { r with tables := r.tables ++ [⟨verb, db, table⟩] }

/-- A star is recorded as a pattern that matches every column. -/
def addColumn (r : References) (verb : String) (table : Option String) (column : String) :
    References :=
  { r with columns := r.columns ++ [⟨verb, table, if column = "*" then "(.*)" else column⟩] }

/-- The latest declaration of an alias counts. -/
def addAlias (r : References) (aliasName table : String) : References :=
  { r with aliases := (aliasName, table) :: r.aliases }

def addCte (r : References) (name : String) : References := { r with ctes := name :: r.ctes }

/-- Keeps the first of equal entries. -/
def distinct (entries : List String) : List String :=
  go [] entries
where
  go (seen : List String) : List String → List String
    | [] => []
    | e :: es => if e ∈ seen then go seen es else e :: go (e :: seen) es

/-- What stands for a missing qualifier. -/
def noQualifier : String := "null"

def entry (verb : String) (qualifier : Option String) (name : String) : String :=
  verb ++ "::" ++ qualifier.getD noQualifier ++ "::" ++ name

/-- An unqualified name that some WITH clause declares is no table. -/
def isTable (r : References) (t : TableReference) : Bool := t.db.isSome || !r.ctes.contains t.table

def tableList (r : References) : List String :=
  distinct ((r.tables.filter r.isTable).map fun t => entry t.verb t.db t.table)

/-- The table an alias stands for, or the name itself. -/
def resolve (r : References) (name : String) : String := (r.aliases.lookup name).getD name

def columnList (r : References) : List String :=
  distinct (r.columns.map fun c => entry c.verb (c.table.map r.resolve) c.column)

end References

end SqlWeave
