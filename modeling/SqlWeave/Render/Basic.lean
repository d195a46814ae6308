import SqlWeave.Dialect
import SqlWeave.Text.Alphabetic
import SqlWeave.Tree.Text

/-! Writing trees as SQL: what a rendering depends on, and what comes out of it. -/

namespace SqlWeave

/-- What to do with a node of unknown kind: write its value, or fail. -/
inductive RenderMode where
  | bestEffort | strict
deriving DecidableEq, Repr

structure RenderConfig where
  dialect : Dialect
  mode : RenderMode := .bestEffort
deriving DecidableEq, Repr

inductive RenderError where
  | unrenderable (kind : String)
deriving DecidableEq, Repr

def RenderError.message : RenderError → String
  | .unrenderable kind => "no renderer for node kind '" ++ kind ++ "'"

namespace Render

abbrev Result (α : Type) := Except RenderError α

/-- The text of an expression and, of a list, the texts of its members. -/
structure Rendered where
  sql : Result String
  members : Result (List String)

/-- A subexpression beside its text. -/
abbrev Item := Expr × Rendered

def Item.sql (i : Item) : Result String := i.2.sql

def sqls (items : List Item) : Result (List String) := items.mapM (·.sql)

def commas (parts : List String) : String := ", ".intercalate parts

def inParens (s : String) : String := "(" ++ s ++ ")"

/-- Joins what is not empty by single blanks. -/
def fragments (parts : List String) : String := " ".intercalate (parts.filter (!·.isEmpty))

/-- A keyword before its body; nothing if there is no body. -/
def clause (keyword body : String) : String := if body.isEmpty then "" else keyword ++ " " ++ body

def onlyIf (flag : Bool) (word : String) : String := if flag then word else ""

def upper? (s : Option String) : String := (s.map Text.upper).getD ""

def quoteString (value : String) : String := Text.enclose '\'' '\'' value

/-- Word operators are capitalised, symbols are left alone. -/
def operatorText (operator : String) : String :=
  if operator.toList.any Text.isAlphabetic then Text.upper operator else operator

def isAsciiWordStart (c : Char) : Bool := c.isAlpha || c == '_'

def isAsciiWordChar (c : Char) : Bool := c.isAlphanum || c == '_'

/-- Whether an alias needs no quotes. -/
def isPlainAlias (name : String) : Bool :=
  match name.toList with
  | [] => false
  | c :: cs => isAsciiWordStart c && cs.all isAsciiWordChar

end Render

end SqlWeave
