import SqlWeave.Render.Basic

/-! Exchangeable rules for column-shaped nodes. A rule sees the node with its subexpressions already
rendered; without a rule such a node has a minimal rendering of its own. -/

namespace SqlWeave

open Render (Item Result)

structure ColumnRules where
  columnRef : RenderConfig → ColumnRef Item → Result String
  fullText : RenderConfig → (matchWord : Option String) → List (ColumnRef Item) →
    (againstWord : Option String) → (phrase : Item) → (mode : Option String) → Result String
  columnDefinition : RenderConfig → ColumnDefinition Item → Result String

/-- What a rule can be registered for. -/
inductive Capability where
  | columnRef | fullText | columnDefinition
deriving DecidableEq, Repr

namespace Capability

def all : List Capability := [.columnRef, .fullText, .columnDefinition]

def name : Capability → String
  | .columnRef => "columnRefToSQL"
  | .fullText => "fullTextSearchToSQL"
  | .columnDefinition => "columnDefinitionToSQL"

def ofName? (name : String) : Option Capability := all.find? (·.name == name)

end Capability

structure Registry where
  columnRef : Option ColumnRules := none
  fullText : Option ColumnRules := none
  columnDefinition : Option ColumnRules := none

namespace Registry

def empty : Registry := {}

def register (r : Registry) (c : Capability) (rules : ColumnRules) : Registry :=
  match c with
  | .columnRef => { r with columnRef := some rules }
  | .fullText => { r with fullText := some rules }
  | .columnDefinition => { r with columnDefinition := some rules }

def registerAll (r : Registry) (rules : ColumnRules) : Registry :=
  Capability.all.foldl (·.register · rules) r

def resolve (r : Registry) : Capability → Option ColumnRules
  | .columnRef => r.columnRef
  | .fullText => r.fullText
  | .columnDefinition => r.columnDefinition

def isEmpty (r : Registry) : Bool := Capability.all.all fun c => (r.resolve c).isNone

/-- The capabilities that have a rule. -/
def resolved (r : Registry) : List Capability := Capability.all.filter fun c => (r.resolve c).isSome

end Registry

end SqlWeave
