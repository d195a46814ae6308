import SqlWeave.Wire.Error

/-! Records in JSON. A record is an object, or an array of its fields in the order of their
declaration. Fields are declared one after the other with `<*>`; of several faults the one counts
that comes first in the value, and fields that an object lacks come after all that it has. -/

namespace SqlWeave.Wire

abbrev Reader (α : Type) := Json → Except ReadError α

inductive RecordSource where
  | keyed (fields : Json.Fields)
  | listed (items : List Json)

/-- An error and its place in the order of reading. -/
structure RecordFault where
  place : Nat
  error : ReadError

/-- `width` fields, read from `position` on. -/
structure Record (α : Type) where
  width : Nat
  read : RecordSource → (position : Nat) → Except RecordFault α

namespace Record

/-- Both or the earlier of their faults. -/
def both {α β : Type} : Except RecordFault (α → β) → Except RecordFault α → Except RecordFault β
  | .ok f, .ok a => .ok (f a)
  | .ok _, .error e => .error e
  | .error e, .ok _ => .error e
  | .error e, .error e' => .error (if e'.place < e.place then e' else e)

instance : Applicative Record where
  pure a := ⟨0, fun _ _ => .ok a⟩
  seq f x := ⟨f.width + (x ()).width, fun source position =>
    both (f.read source position) ((x ()).read source (position + f.width))⟩

variable {α : Type}

def placed (place : Nat) (result : Except ReadError α) : Except RecordFault α :=
  result.mapError (⟨place, ·⟩)

/-- Where a key stands in an object. -/
def keyPlace (fields : Json.Fields) (key : String) : Nat := fields.findIdx (·.1 == key)

/-- One field; `absent` is its value if it is left out. -/
def field (key : String) (read : Reader α) (absent : Option α) : Record α where
  width := 1
  read source position :=
    match source with
    | .keyed fields =>
      match fields.get? key, absent with
      | some v, _ => placed (keyPlace fields key) (read v)
      | none, some a => .ok a
      | none, none => .error ⟨fields.length + position, .missingField key⟩
    | .listed items =>
      match items[position]?, absent with
      | some v, _ => placed position (read v)
      | none, some a => .ok a
      | none, none => .error ⟨position, .mismatch⟩

def required (key : String) (read : Reader α) : Record α := field key read none

def defaulted (key : String) (read : Reader α) (absent : α) : Record α :=
  field key read (some absent)

/-- A field that has two keys, of which an object may have only one. -/
def aliased (key other : String) (read : Reader α) (absent : α) : Record α where
  width := 1
  read source position :=
    match source with
    | .keyed fields =>
      if fields.has key && fields.has other then
        .error ⟨max (keyPlace fields key) (keyPlace fields other), .duplicateField key⟩
      else (defaulted (if fields.has other then other else key) read absent).read source position
    | .listed _ => (defaulted key read absent).read source position

def ofFields (r : Record α) (fields : Json.Fields) : Except ReadError α :=
  (r.read (.keyed fields) 0).mapError (·.error)

def ofItems (r : Record α) (items : List Json) : Except ReadError α :=
  match r.read (.listed items) 0 with
  | .error fault => .error fault.error
  | .ok a => if items.length ≤ r.width then .ok a else .error .mismatch

def ofJson (r : Record α) : Reader α
  | .object fields => r.ofFields fields
  | .array items => r.ofItems items
  | _ => .error .mismatch

end Record

end SqlWeave.Wire
