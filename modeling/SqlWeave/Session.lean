import SqlWeave.Allowlist
import SqlWeave.Options
import SqlWeave.Parser.Script
import SqlWeave.Render.Statement

/-! Sessions: reading, rendering and checking SQL under options. Readers are found by dialect name;
every dialect starts with the built-in grammar, and others can be registered. -/

namespace SqlWeave

inductive Error where
  | unsupportedDialect (name : String)
  | parse (error : ParseError)
  | denied (kind : CheckKind) (authority sql : String)
  | invalidPattern (pattern : String)
  | render (error : RenderError)
  | read (error : ReadError)

def Error.message : Error → String
  | .unsupportedDialect name => name ++ " is not supported currently"
  | .parse error => error.message
  | .denied kind authority sql =>
    "authority = '" ++ authority ++ "' is required in " ++ kind.name ++
      " whiteList to execute SQL = '" ++ sql ++ "'"
  | .invalidPattern pattern => "invalid whitelist pattern '" ++ pattern ++ "'"
  | .render error => error.message
  | .read error => "invalid AST: " ++ error.message?.getD "unexpected value"

namespace Options

def dialect (o : Options) : Except Error Dialect :=
  match o.dialect? with
  | some d => .ok d
  | none => .error (.unsupportedDialect o.databaseName)

def renderer (o : Options) : Except Error Renderer := return { config := ⟨← o.dialect, o.mode⟩ }

def renderScript (o : Options) (s : Script Expr) : Except Error String := do
  ((← o.renderer).script s).mapError .render

def renderStatement (o : Options) (s : Statement Expr) : Except Error String := do
  ((← o.renderer).statement s).mapError .render

def renderExpr (o : Options) (e : Expr) : Except Error String := do
  ((← o.renderer).expr e).mapError .render

/-- The entries of a select list one by one. Without columns there is nothing to look up. -/
def renderColumns (o : Options) (columns : Option (Columns Expr))
    (tables : Option (List (Table Expr))) : Except Error (List String) :=
  match columns with
  | none => return []
  | some columns => do
    let r ← o.renderer
    (r.columns (columns.map r.item) (tables.map (·.map (·.map r.item)))).mapError .render

end Options

/-- What is read from a text: its statements, and the tables and columns they refer to. -/
structure Reading where
  script : Script Expr
  tables : List String
  columns : List String

/-- The entries that a check is about. -/
def Reading.entries (r : Reading) : CheckKind → List String
  | .table => r.tables
  | .column => r.columns

/-- A reader of SQL text. -/
abbrev Frontend := String → Except ParseError Reading

/-- The built-in grammar for a dialect. -/
def Frontend.grammar (d : Dialect) : Frontend := fun text =>
  (Parser.parseScript d text).map fun (script, refs) => ⟨script, refs.tableList, refs.columnList⟩

/-- Front-ends by name, in ascending order. -/
structure Session where
  frontends : List (String × Frontend)

namespace Session

def insert (name : String) (f : Frontend) : List (String × Frontend) → List (String × Frontend)
  | [] => [(name, f)]
  | (k, g) :: rest =>
    if name < k then (name, f) :: (k, g) :: rest
    else if name = k then (name, f) :: rest
    else (k, g) :: insert name f rest

/-- Puts a front-end under a name; names have no case. -/
def register (s : Session) (name : String) (f : Frontend) : Session :=
  ⟨insert (Text.asciiLower name) f s.frontends⟩

def standard : Session := Dialect.all.foldl (fun s d => s.register d.name (.grammar d)) ⟨[]⟩

def names (s : Session) : List String := s.frontends.map (·.1)

def frontend (s : Session) (o : Options) : Except Error Frontend :=
  match s.frontends.lookup (Text.asciiLower o.databaseName) with
  | some f => .ok f
  | none => .error (.unsupportedDialect o.databaseName)

def read (s : Session) (sql : String) (o : Options) : Except Error Reading := do
  let f ← s.frontend o
  (f (if o.trim then Text.trim sql else sql)).mapError .parse

/-- Requires that the allow list covers every table or column the text refers to. An empty list
allows everything, even what is no SQL. -/
def check (s : Session) (sql : String) (allow : List String) (o : Options) : Except Error Unit := do
  let list ← (Allowlist.ofTexts allow).mapError .invalidPattern
  if list.isEmpty then return ()
  else
    let reading ← s.read sql o
    match list.denied? (reading.entries o.check) with
    | some entry => throw (.denied o.check entry sql)
    | none => return ()

end Session

end SqlWeave
