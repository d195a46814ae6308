import SqlWeave.Parser.Statement

/-! Reading whole texts. Whatever nests starts after the token that opens it, so a text of so many
tokens cannot nest deeper than that. -/

namespace SqlWeave.Parser

/-- Readers of what nests at most so deep. -/
def nested : Nat → Nested
  | 0 => {
      expr := fun _ => unexpected "expression"
      operand := unexpected "expression"
      primary := unexpected "expression"
      query := unexpected "expression"
      dataType := unexpected "expression" }
  | n + 1 => {
      expr := fun least source state => (nested n).readExpr least source state
      operand := fun source state => (nested n).readOperand source state
      primary := fun source state => (nested n).readPrimary source state
      query := fun source state => (nested n).readQuery source state
      dataType := fun source state => (nested n).readDataType source state }

def startState (d : Dialect) (text : String) : ParserState :=
  let start : Token := ⟨.eof, ⟨0, 0⟩⟩
  match Token.tokenize d text with
  | [] =>
    { previous := start, current := start, rest := [], references := .empty, verb := "select" }
  | t :: ts =>
    { previous := start, current := t, rest := ts, references := .empty, verb := "select" }

/-- The readers for a text: nesting as deep as it has tokens. -/
def readersFor (s : ParserState) : Nested := nested (s.rest.length + 1)

/-- The statements of a text and the references met in it. -/
def parseScript (d : Dialect) (text : String) : Except ParseError (Script Expr × References) :=
  let start := startState d text
  (((readersFor start).script).run ⟨text, d⟩ start).map fun (script, s) => (script, s.references)

/-- The expression a text starts with, whose operators bind at least as tightly as `least`; what
comes after it is not looked at. -/
def parseExpr (d : Dialect) (text : String) (least : Nat) : Except ParseError (Expr × References) :=
  let start := startState d text
  (((readersFor start).expr least).run ⟨text, d⟩ start).map fun (e, s) => (e, s.references)

end SqlWeave.Parser
