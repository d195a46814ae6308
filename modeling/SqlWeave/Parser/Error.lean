import SqlWeave.Token.Basic

/-! Why a text is not SQL, and where. -/

namespace SqlWeave

inductive ParseFault where
  /-- The grammar wants `what` where `found` stands. -/
  | expected (what : String) (found : TokenKind)
  | lexical (fault : LexicalFault)
  /-- A map literal whose last key has no value. -/
  | oddMapItems
deriving DecidableEq, Repr

structure ParseError where
  fault : ParseFault
  span : Span
deriving DecidableEq, Repr

def ParseFault.message : ParseFault → String
  | .expected what found => "Expected " ++ what ++ ", found " ++ found.describe
  | .lexical fault => fault.message
  | .oddMapItems => "Map literal needs an even number of items"

namespace ParseError

def message (e : ParseError) : String := e.fault.message ++ " at position " ++ e.span.text

def expected? (e : ParseError) : Option String :=
  match e.fault with
  | .expected what _ => some what
  | _ => none

def found? (e : ParseError) : Option TokenKind :=
  match e.fault with
  | .expected _ found => some found
  | _ => none

/-- A token that is itself faulty is reported for its own fault. -/
def unexpected (what : String) (token : Token) : ParseError :=
  match token.kind with
  | .fault fault => ⟨.lexical fault, token.span⟩
  | found => ⟨.expected what found, token.span⟩

end ParseError

end SqlWeave
