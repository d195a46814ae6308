import SqlWeave.Json.Printer

/-! Why a JSON value is no tree. -/

namespace SqlWeave

inductive ReadError where
  /-- A value of the wrong type, or a list of the wrong length. -/
  | mismatch
  | missingField (name : String)
  | duplicateField (name : String)
  | unknownTag (tag : String) (known : List String)
  | noName (value : Json)
  | invalidName (value : Json)
  | invalidColumnName (value : Json)
  | invalidColumnList (value : Json)
  | emptyList
  /-- Neither a statement nor a list of statements. -/
  | noScript
deriving Repr

namespace ReadError

def ticked (name : String) : String := "`" ++ name ++ "`"

def alternatives (known : List String) : String :=
  match known with
  | [a, b] => ticked a ++ " or " ++ ticked b
  | known => "one of " ++ ", ".intercalate (known.map ticked)

/-- A mismatch is reported without a text. -/
def message? : ReadError → Option String
  | .mismatch => none
  | .missingField name => some ("missing field " ++ ticked name)
  | .duplicateField name => some ("duplicate field " ++ ticked name)
  | .unknownTag tag known =>
    some ("unknown variant " ++ ticked tag ++ ", expected " ++ alternatives known)
  | .noName value => some ("expected a name, found " ++ value.compact)
  | .invalidName value => some ("invalid name: " ++ value.compact)
  | .invalidColumnName value => some ("invalid column name: " ++ value.compact)
  | .invalidColumnList value => some ("invalid column list: " ++ value.compact)
  | .emptyList => some "expected at least one element"
  | .noScript => some "data did not match any variant of untagged enum Ast"

end ReadError

end SqlWeave
