import SqlWeave.Pattern.Property.Age
import SqlWeave.Pattern.Property.Boundary
import SqlWeave.Text.Ascii

/-! The properties of characters that a pattern can name. -/

namespace SqlWeave.Pattern.Property

/-- A name without case, separators and a leading `is`; letters beyond ASCII do not count. -/
def key (name : String) : String :=
  let cs := (Text.asciiLower name).toList
  let rest := match cs with
    | 'i' :: 's' :: rest => rest
    | cs => cs
  let letters := rest.filter fun c => c != ' ' && c != '_' && c != '-' && c.toNat < 0x80
  if letters == ['c'] && cs.length != rest.length then "isc" else String.ofList letters

/-- The characters that were assigned by the version of that name. -/
def age? (name : String) : Option CharSet :=
  let earlier := versions.takeWhile (!·.names.contains name)
  (versions[earlier.length]?).map fun v => .ofBounds ((earlier ++ [v]).flatMap (·.bounds))

/-- The characters that have the property of that name. -/
def named? (name : String) : Option CharSet :=
  let name := key name
  binary? name <|> category? name <|> script? name

/-- The characters for which the property of that name has the value. -/
def valued? (name value : String) : Option CharSet :=
  let value := key value
  match key name with
  | "gc" | "generalcategory" => category? value
  | "sc" | "script" => script? value
  | "scx" | "scriptextensions" => scriptExtension? value
  | "age" => age? value
  | "gcb" | "graphemeclusterbreak" => graphemeBreak? value
  | "wb" | "wordbreak" => wordBreak? value
  | "sb" | "sentencebreak" => sentenceBreak? value
  | _ => none

end SqlWeave.Pattern.Property
