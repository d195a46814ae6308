import SqlWeave.Parser.Error
import SqlWeave.References
import SqlWeave.Token.Scan
import SqlWeave.Text.Case

/-! Reading tokens one after the other. The reader stands at a current token, knows the one before
it, and notes the tables and columns it meets. Loops are bounded by the number of tokens that are
left, since each round but the last takes one. -/

namespace SqlWeave

structure Source where
  text : String
  dialect : Dialect

structure ParserState where
  previous : Token
  current : Token
  rest : List Token
  references : References
  /-- The verb under which references are noted. -/
  verb : String

abbrev Parser (α : Type) := ReaderT Source (StateT ParserState (Except ParseError)) α

/-- At the end of input the reader stays where it is. -/
def ParserState.advance (s : ParserState) : ParserState :=
  match s.rest with
  | [] => { s with previous := s.current }
  | t :: ts => { s with previous := s.current, current := t, rest := ts }

namespace Parser

def kind : Parser TokenKind := return (← get).current.kind

/-- The kind of the token after the current one. -/
def nextKind : Parser TokenKind := return ((← get).rest.head?.map Token.kind).getD .eof

def advance : Parser Unit := modify ParserState.advance

def unexpected {α : Type} (what : String) : Parser α := do
  throw (ParseError.unexpected what (← get).current)

/-- Rounds enough for a loop: one for each token left, and one that finds nothing to take. -/
def rounds : Parser Nat := return (← get).rest.length + 1

/-- A loop whose rounds are used up; none uses up as many as `rounds` gives. -/
def outOfRounds {α : Type} : Parser α := unexpected "end of input"

def sliceOf (span : Span) : Parser String := return Token.slice (← read).text span

/-- The current token as written. -/
def currentText : Parser String := do sliceOf (← get).current.span

def isAt (s : Symbol) : Parser Bool := return (← kind) == .symbol s

def isAtKeyword (k : Keyword) : Parser Bool := return (← kind) == .keyword k

def isAtWord (word : String) : Parser Bool := return (← kind).isWord word

def isAtAnyWord (words : List String) : Parser Bool := do
  let k ← kind
  return words.any k.isWord

def isAtQuery : Parser Bool := do
  let k ← kind
  return k == .keyword .SELECT || k == .keyword .WITH

/-- Takes the current token if the test holds of it. -/
def takeIf (test : Parser Bool) : Parser Bool := do
  if ← test then
    advance
    return true
  else return false

def eat (s : Symbol) : Parser Bool := takeIf (isAt s)

def eatKeyword (k : Keyword) : Parser Bool := takeIf (isAtKeyword k)

def eatWord (word : String) : Parser Bool := takeIf (isAtWord word)

def expect (s : Symbol) : Parser Unit := do
  if ← eat s then return () else unexpected s.name

def expectKeyword (k : Keyword) : Parser Unit := do
  if ← eatKeyword k then return () else unexpected k.spelling

def expectWord (words : List String) : Parser Unit := do
  if ← takeIf (isAtAnyWord words) then return ()
  else unexpected (Text.upper (" or ".intercalate words))

/-- A name: a word that is not reserved, or a quoted one. -/
def identifier : Parser String := do
  match ← kind with
  | .identifier name | .quotedIdentifier name =>
    advance
    return name
  | .keyword k =>
    if k.isUnreserved then
      let name ← currentText
      advance
      return name
    else unexpected "identifier"
  | _ => unexpected "identifier"

def manyWithin {α : Type} (start : Parser Bool) (item : Parser α) : Nat → Parser (List α)
  | 0 => outOfRounds
  | n + 1 => do
    if ← start then
      let x ← item
      return x :: (← manyWithin start item n)
    else return []

/-- As many items as there are starts; a start takes a token. -/
def many {α : Type} (start : Parser Bool) (item : Parser α) : Parser (List α) := do
  manyWithin start item (← rounds)

/-- One or more items with commas between them. -/
def commaSeparated {α : Type} (item : Parser α) : Parser (List α) := do
  let first ← item
  return first :: (← many (eat .comma) item)

def dottedName : Parser (List String) := do
  let first ← identifier
  return first :: (← many (eat .dot) identifier)

/-- `(a, b, c)`. -/
def parenthesizedNames : Parser (List String) := do
  expect .leftParen
  let names ← commaSeparated identifier
  expect .rightParen
  return names

def skipWithin (stop : Parser Bool) : Nat → Parser Unit
  | 0 => outOfRounds
  | n + 1 => do
    if ← stop then return ()
    else
      advance
      skipWithin stop n

/-- The source text of the current token and of what `p` takes after it. -/
def written (p : Parser Unit) : Parser String := do
  let start := (← get).current.span.start
  advance
  p
  sliceOf ⟨start, (← get).previous.span.stop⟩

def isAtParenthesisOrEnd : Parser Bool := return (← kind) == .symbol .rightParen || (← kind) == .eof

/-- The source text from the current token up to the parenthesis that comes next. -/
def textToParenthesis : Parser String :=
  written do skipWithin isAtParenthesisOrEnd (← rounds)

def addTable (db : Option String) (table : String) : Parser Unit :=
  modify fun s => { s with references := s.references.addTable s.verb db table }

def addColumn (table : Option String) (column : String) : Parser Unit :=
  modify fun s => { s with references := s.references.addColumn s.verb table column }

def addAlias (aliasName table : String) : Parser Unit :=
  modify fun s => { s with references := s.references.addAlias aliasName table }

def addCte (name : String) : Parser Unit :=
  modify fun s => { s with references := s.references.addCte name }

def setVerb (verb : String) : Parser Unit := modify fun s => { s with verb }

/-- Goes back to the tokens of an earlier state; what was noted since stays noted. -/
def rewind (start : ParserState) : Parser Unit :=
  modify fun s =>
    { s with previous := start.previous, current := start.current, rest := start.rest }

/-- Notes what `p` meets under another verb. -/
def withVerb {α : Type} (verb : String) (p : Parser α) : Parser α := do
  let outer := (← get).verb
  setVerb verb
  let x ← p
  setVerb outer
  return x

end Parser

end SqlWeave
