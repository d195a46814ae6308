import SqlWeave.Session
import SqlWeave.Wire.Statement
import SqlWeave.Wire.Writer

/-! The commands of the command line, as functions from input to output text. -/

namespace SqlWeave

inductive CommandError where
  | notJson
  | notStatement
  | failed (error : Error)

def CommandError.message : CommandError → String
  | .notJson => "input is not JSON"
  | .notStatement => "input is not a statement AST"
  | .failed error => error.message

namespace Command

def lines (entries : List String) : String := "\n".intercalate entries

/-- The tree of a text as indented JSON. -/
def astify (sql : String) (o : Options) : Except CommandError String :=
  ((Session.standard.read sql o).mapError .failed).map fun r => r.script.toJson.pretty

/-- A tagged value that is no statement is an expression. -/
def isExpression (v : Json) : Bool := v.tag?.any (!Statement.verbs.contains ·)

/-- The SQL of a tree in JSON text. -/
def sqlify (json : String) (o : Options) : Except CommandError String := do
  match Json.read? json with
  | none => throw .notJson
  | some v =>
    if isExpression v then
      let e ← (Expr.ofJson v).mapError (.failed ∘ .read)
      (o.renderExpr e).mapError .failed
    else
      match Script.ofJson v with
      | .error _ => throw .notStatement
      | .ok script => (o.renderScript script).mapError .failed

def tables (sql : String) (o : Options) : Except CommandError String :=
  ((Session.standard.read sql o).mapError .failed).map fun r => lines r.tables

def columns (sql : String) (o : Options) : Except CommandError String :=
  ((Session.standard.read sql o).mapError .failed).map fun r => lines r.columns

def check (sql : String) (allow : List String) (o : Options) : Except CommandError String :=
  ((Session.standard.check sql allow o).mapError .failed).map fun _ => "ok"

end Command

end SqlWeave
