import SqlWeave.Decimal.Shortest

/-! JSON values. An object is a list of fields; `canonical` puts them in the one order that values
are compared and shown in. -/

namespace SqlWeave

open Decimal (Binary64)

/-- Integers from `-2 ^ 63` up to `2 ^ 64` are kept exact; every other number is binary64. -/
inductive Json.Number where
  | int (value : Int)
  | float (value : Binary64)
deriving DecidableEq, Repr

inductive Json where
  | null
  | bool (value : Bool)
  | number (value : Json.Number)
  | string (value : String)
  | array (items : List Json)
  | object (fields : List (String × Json))
deriving Repr

namespace Json

abbrev Fields := List (String × Json)

def Number.text : Number → String
  | .int i => toString i
  | .float x => x.text

/-- The integer, if it fits 64 bits without a sign. -/
def Number.natural? : Number → Option Nat
  | .int i => if 0 ≤ i then some i.toNat else none
  | .float _ => none

namespace Fields

def get? (fields : Fields) (key : String) : Option Json := fields.lookup key

def has (fields : Fields) (key : String) : Bool := fields.any (·.1 == key)

def erase (fields : Fields) (key : String) : Fields := fields.filter (·.1 != key)

/-- Puts a field at its place by key, replacing one of the same key. -/
def insert : Fields → String → Json → Fields
  | [], key, value => [(key, value)]
  | (k, v) :: rest, key, value =>
    if key < k then (key, value) :: (k, v) :: rest
    else if key = k then (key, value) :: rest
    else (k, v) :: insert rest key value

/-- Inserts the fields of `more` one after the other, so that they win. -/
def extend (fields more : Fields) : Fields :=
  more.foldl (fun acc field => acc.insert field.1 field.2) fields

end Fields

mutual
/-- Every object's fields in ascending order of key, the last of a repeated key kept. -/
def canonical : Json → Json
  | .array items => .array (canonicalItems items)
  | .object fields => .object (Fields.extend [] (canonicalFields fields))
  | v => v
def canonicalItems : List Json → List Json
  | [] => []
  | v :: vs => v.canonical :: canonicalItems vs
def canonicalFields : List (String × Json) → List (String × Json)
  | [] => []
  | (k, v) :: rest => (k, v.canonical) :: canonicalFields rest
end

mutual
/-- How deeply arrays and objects nest. -/
def depth : Json → Nat
  | .array items => depthItems items + 1
  | .object fields => depthFields fields + 1
  | _ => 0
def depthItems : List Json → Nat
  | [] => 0
  | v :: vs => max v.depth (depthItems vs)
def depthFields : List (String × Json) → Nat
  | [] => 0
  | (_, v) :: rest => max v.depth (depthFields rest)
end

def string? : Json → Option String
  | .string s => some s
  | _ => none

/-- The field of an object; none for any other value. -/
def get? : Json → String → Option Json
  | .object fields, key => Fields.get? fields key
  | _, _ => none

def isNull : Json → Bool
  | .null => true
  | _ => false

/-- The `type` of a tagged object. -/
def tag? (v : Json) : Option String := (v.get? "type").bind string?

/-! ## Names

A name may be a text, a number, a list of parts, or an object that carries it. -/

/-- The fields of an object that may carry its name, the first one that does counting. -/
def nameKeys : List String := ["value", "column", "name", "type"]

mutual
/-- The text of a name-like value; the parts of a list are joined by points. -/
def nameText? : Json → Option String
  | .string s => some s
  | .number n => some n.text
  | .array items =>
    let parts := nameTexts items
    if parts.isEmpty then none else some (".".intercalate parts)
  | .object fields => nameKeys.findSome? fun key => ((fieldNameTexts fields).lookup key).join
  | _ => none
def nameTexts : List Json → List String
  | [] => []
  | v :: vs => match v.nameText? with
    | some s => s :: nameTexts vs
    | none => nameTexts vs
def fieldNameTexts : List (String × Json) → List (String × Option String)
  | [] => []
  | (k, v) :: rest => (k, v.nameText?) :: fieldNameTexts rest
end

end Json

end SqlWeave
