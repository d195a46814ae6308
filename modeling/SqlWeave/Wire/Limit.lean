import SqlWeave.Tree.Query
import SqlWeave.Wire.Value

/-! The shapes in which a row limit arrives, and the one limit they all come to. -/

namespace SqlWeave

inductive LimitShape (E : Type) where
  /-- `{"separator": "offset", "value": [count, offset]}`. -/
  | separated (separator : String) (values : List E)
  /-- `{"fetch": {"value": count, "suffix": words}, "offset": {"value": offset}}`. -/
  | fetchOffset (fetch : Option E) (suffix : List String) (offset : Option E)
  /-- `[count]` or `[offset, count]`. -/
  | list (items : List E)
  | bare (count : E)

namespace LimitShape

variable {E : Type}

/-- None if there is no count and no offset to be had. -/
def normalize : LimitShape E → Option (Limit E)
  | .fetchOffset none _ none => none
  | .fetchOffset fetch suffix offset =>
    some (({ count := fetch, offset := offset } : Limit E).withFetchSuffix suffix)
  | .separated separator [v] =>
    some (if Text.sameAscii (Text.trim separator) "offset" then .ofOffset v else .ofCount v)
  | .separated separator [first, second] =>
    some (if Text.trim separator = "," then ((Limit.ofCount second).withOffset first).withComma
      else (Limit.ofCount first).withOffset second)
  | .separated _ _ => none
  | .list [count] => some (.ofCount count)
  | .list [offset, count] => some ((Limit.ofCount count).withOffset offset)
  | .list _ => none
  | .bare count => some (.ofCount count)

end LimitShape

namespace Wire.Read

open Json (Fields)

/-- The value of an object that has no type of its own. -/
def unwrapValue (v : Json) : Json :=
  match v with
  | .object fields =>
    if Fields.has fields "type" then v else (Fields.get? fields "value").getD v
  | v => v

def present (fields : Fields) (key : String) : Option Json := (fields.get? key).filter (!·.isNull)

/-- The words after the value of a FETCH or OFFSET part. -/
def suffixWords (part : Json) : List String :=
  match part.get? "suffix" with
  | some (.array words) => words.filterMap Json.nameText?
  | some v => v.nameText?.toList
  | none => []

variable {E : Type} (expr : Reader E)

/-- The value of a FETCH or OFFSET part. -/
def limitPart (part : Option Json) : Except ReadError (Option E) :=
  match part with
  | some v => some <$> expr (unwrapValue v)
  | none => .ok none

def limitFields (fields : Fields) : Except ReadError (Option (LimitShape E)) :=
  let fetch := present fields "fetch"
  let offset := present fields "offset"
  if fetch.isSome || offset.isSome then do
    let count ← limitPart expr fetch
    let start ← limitPart expr offset
    return some (.fetchOffset count ((fetch.map suffixWords).getD []) start)
  else
    match fields.get? "value" with
    | some (.array items) => do
      let separator := fields.get? "separator" <|> fields.get? "seperator"
      return some (.separated ((separator.bind Json.nameText?).getD "") (← items.mapM expr))
    | value =>
      if fields.has "type" then return some (.bare (← expr (.object fields)))
      else
        match value with
        | none | some .null => return none
        | some v => return some (.bare (← expr v))

/-- Parts named FETCH or OFFSET come first, then a list of values, then a node of its own. -/
def limitShape : Reader (Option (LimitShape E))
  | .null => return none
  | .object fields => limitFields expr fields
  | .array items => return some (.list (← items.mapM fun v => expr (unwrapValue v)))
  | v => return some (.bare (← expr v))

def limit : Reader (Option (Limit E)) :=
  fun v => return (← limitShape expr v).bind LimitShape.normalize

end Wire.Read

end SqlWeave
