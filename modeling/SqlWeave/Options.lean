import SqlWeave.Json.Reader
import SqlWeave.Render.Basic
import SqlWeave.Wire.Value

/-! What a caller may choose: the dialect, whether the text is trimmed, which references are
checked, and how unknown nodes are rendered. -/

namespace SqlWeave

/-- Which references an allow list speaks about. -/
inductive CheckKind where
  | table | column
deriving DecidableEq, Repr

namespace CheckKind

def name : CheckKind → String
  | .table => "table"
  | .column => "column"

def ofName? : String → Option CheckKind
  | "table" => some .table
  | "column" => some .column
  | _ => none

/-- Reads a name in any ASCII case, or tells why there is no such kind. -/
def ofText (text : String) : Except String CheckKind :=
  let name := Text.asciiLower text
  match ofName? name with
  | some kind => .ok kind
  | none => .error (name ++ " is not valid check mode")

end CheckKind

namespace RenderMode

def name : RenderMode → String
  | .bestEffort => "bestEffort"
  | .strict => "strict"

def ofName? : String → Option RenderMode
  | "bestEffort" => some .bestEffort
  | "strict" => some .strict
  | _ => none

end RenderMode

structure Options where
  database : Option String := none
  trim : Bool := true
  check : CheckKind := .table
  mode : RenderMode := .bestEffort
deriving DecidableEq, Repr

namespace Options

def defaultDatabase : String := Dialect.mySql.name

def databaseName (o : Options) : String := o.database.getD defaultDatabase

def dialect? (o : Options) : Option Dialect := Dialect.ofName? o.databaseName

open Wire Record

/-- A choice is a name, or an object with that name as its only key and no value. -/
def choice {α : Type} (ofName? : String → Option α) : Reader α := fun v =>
  let name? := match v with
    | .string s => some s
    | .object [(key, .null)] => some key
    | _ => none
  match name?.bind ofName? with
  | some a => .ok a
  | none => .error .mismatch

def record : Record Options :=
  Options.mk <$> optional "database" Read.string <*> defaulted "trimQuery" Read.bool true <*>
    defaulted "type" (choice CheckKind.ofName?) .table <*>
    defaulted "mode" (choice RenderMode.ofName?) .bestEffort

def ofJson : Json → Except ReadError Options := record.ofJson

def keys : List String := ["database", "trimQuery", "type", "mode"]

def repeatsKey (v : Json) : Bool :=
  match v with
  | .object fields => keys.any fun key => 1 < (fields.filter (·.1 == key)).length
  | _ => false

/-- Options from JSON text, where a key may not be repeated. -/
def ofText (text : String) : Except ReadError Options :=
  match Json.readRecord? keys text with
  | some v => if repeatsKey v then .error .mismatch else ofJson v
  | none => .error .mismatch

def toJson (o : Options) : Json :=
  .object [
    ("database", (o.database.map Json.string).getD .null), ("trimQuery", .bool o.trim),
    ("type", .string o.check.name), ("mode", .string o.mode.name)]

end Options

end SqlWeave
