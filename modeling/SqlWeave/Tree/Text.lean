import SqlWeave.Json.Basic
import SqlWeave.Text.Case
import SqlWeave.Tree.Fold

/-! The plain text that some expressions stand for, where one is used as a name or as a type. -/

namespace SqlWeave

/-- A hexadecimal literal has no plain text. -/
def TextKind.isPlain : TextKind → Bool
  | .hex => false
  | _ => true

namespace Expr

def literalTextAlgebra : Algebra (Option String)
  | .text kind value _ => if kind.isPlain then some value else none
  | .number n _ => some n.text
  | .bool b _ => some (if b then "true" else "false")
  | .column c =>
    match c.column with
    | .star => some "*"
    | .name text => some text
    | .computed e => e.2
  | .wrapped e => e.2
  | .unknown v => v.nameText?
  | _ => none

/-- The text of a value-bearing expression. -/
def literalText? (e : Expr) : Option String := e.fold literalTextAlgebra

end Expr

/-- The name as text, `*` for every column. -/
def ColumnName.text? : ColumnName Expr → Option String
  | .star => some "*"
  | .name text => some text
  | .computed e => e.literalText?

/-- The name of the defined column; a star defines none. -/
def ColumnDefinition.name? (d : ColumnDefinition Expr) : Option String :=
  match d.column.column with
  | .star => none
  | other => other.text?

/-- A type around the texts of its arguments, which are left as they are: length and scale win over
arguments, and the suffix words are capitalised. -/
def DataType.bareWith {E : Type} (t : DataType E) (args : List String) : String :=
  let arguments := match t.length, t.scale with
    | some length, some scale => "(" ++ toString length ++ ", " ++ toString scale ++ ")"
    | some length, none => "(" ++ toString length ++ ")"
    | none, _ => if args.isEmpty then "" else "(" ++ ", ".intercalate args ++ ")"
  t.name ++ arguments ++ (if t.array then "[]" else "") ++
    String.join (t.suffix.map fun word => " " ++ Text.upper word)

namespace Expr

def bareTypeAlgebra : Algebra String
  | .dataType t => t.bareWith (t.args.map Prod.snd)
  | .columnDefinition d =>
    ((d.column.column.map Prod.fst).text?.getD "") ++ " " ++
      d.type.bareWith (d.type.args.map Prod.snd)
  | n => ((Expr.mk (n.map Prod.fst)).literalText?).getD ""

/-- An argument of a type with every name left unquoted. -/
def bareTypeText (e : Expr) : String := e.fold bareTypeAlgebra

end Expr

/-- The type with nested names left unquoted. -/
def DataType.bareText (t : DataType Expr) : String := t.bareWith (t.args.map Expr.bareTypeText)

end SqlWeave
