import SqlWeave.Json.Basic
import SqlWeave.Wire.Record

/-! Lenient values. A name may be a text or an object that carries one, a flag may be a text or an
object, and a list of one may be its member; each reader makes one value of every spelling. -/

namespace SqlWeave.Wire

namespace Read

variable {α : Type}

def text? : Reader (Option String) := fun v => .ok v.nameText?

def name : Reader String := fun v =>
  match v.nameText? with
  | some s => .ok s
  | none => .error (.noName v)

/-- A name that may be split into a schema and the rest. -/
def qualifiedName : Reader String := fun v =>
  let parts := match v with
    | .object fields =>
      if Json.Fields.has fields "name" then
        ["schema", "name"].filterMap fun key => (Json.Fields.get? fields key).bind Json.nameText?
      else v.nameText?.toList
    | _ => v.nameText?.toList
  if parts.isEmpty then .error (.invalidName v) else .ok (".".intercalate parts)

/-- Null, false and the empty text are unset; anything else is set. -/
def flag : Reader Bool
  | .null => .ok false
  | .bool b => .ok b
  | .string s => .ok (!s.isEmpty)
  | _ => .ok true

def bool : Reader Bool
  | .bool b => .ok b
  | _ => .error .mismatch

def string : Reader String
  | .string s => .ok s
  | _ => .error .mismatch

def number : Reader Json.Number
  | .number n => .ok n
  | _ => .error .mismatch

def natural : Reader Nat
  | .number n => match n.natural? with
    | some n => .ok n
    | none => .error .mismatch
  | _ => .error .mismatch

/-- Null stands for nothing. -/
def optional (read : Reader α) : Reader (Option α)
  | .null => .ok none
  | v => some <$> read v

def list (read : Reader α) : Reader (List α)
  | .array items => items.mapM read
  | _ => .error .mismatch

/-- A list, its only member, or null for none. -/
def oneOrMany (read : Reader α) : Reader (List α)
  | .null => .ok []
  | .array items => items.mapM read
  | v => return [← read v]

/-- A list, its only member, or either as the `columns` of an object. -/
def list? (read : Reader α) : Reader (Option (List α)) := fun v =>
  match (v.get? "columns").getD v with
  | .null => .ok none
  | .array items => some <$> items.mapM read
  | v => return some [← read v]

/-- A value, or the first of a list. -/
def firstOf (read : Reader α) : Reader α
  | .array [] => .error .emptyList
  | .array (v :: _) => read v
  | v => read v

/-- Members that are no names are left out. -/
def names : Reader (List String)
  | .array items => .ok (items.filterMap Json.nameText?)
  | v => .ok v.nameText?.toList

/-- No names at all are as good as no list. -/
def names? : Reader (Option (List String)) := fun v => do
  let ns ← names v
  return if ns.isEmpty then none else some ns

end Read

namespace Record

def text? (key : String) : Record (Option String) := defaulted key Read.text? none

def flag (key : String) : Record Bool := defaulted key Read.flag false

def parens : Record Bool := defaulted "parentheses" Read.bool false

variable {α : Type}

def optional (key : String) (read : Reader α) : Record (Option α) :=
  defaulted key (Read.optional read) none

def list? (key : String) (read : Reader α) : Record (Option (List α)) :=
  defaulted key (Read.list? read) none

def many (key : String) (read : Reader α) : Record (List α) :=
  defaulted key (Read.oneOrMany read) []

end Record

end SqlWeave.Wire
