import SqlWeave.Token.Basic

/-! Which tokens are operators, what they are written as, and how tightly they bind. -/

namespace SqlWeave.Operator

/-- The binding power of `-`, `+`, `~` and `!` in front of an operand. -/
def signPower : Nat := 15

/-- The binding power of NOT in front of an operand. -/
def notPower : Nat := 3

/-- The binding power of `::`, `[…]` and COLLATE after an operand. -/
def postfixPower : Nat := 17

/-- Comparison operators that are not reserved words. -/
def comparisonWords : List String := ["ILIKE", "REGEXP", "RLIKE", "GLOB"]

def comparisonWord? (name : String) : Option String := comparisonWords.find? (Text.sameAscii name)

/-- An operator in front of an operand, and its binding power. -/
def leading? : TokenKind → Option (String × Nat)
  | .symbol .minus => some ("-", signPower)
  | .symbol .plus => some ("+", signPower)
  | .symbol .bitNot => some ("~", signPower)
  | .symbol .bang => some ("!", signPower)
  | .keyword .NOT => some ("NOT", notPower)
  | _ => none

/-- How tightly an operator between two operands binds on its left; its right side binds one
tighter, so operators of one strength associate to the left. -/
def power? : TokenKind → Option Nat
  | .keyword .OR => some 1
  | .keyword .AND => some 3
  | .symbol .eq | .symbol .notEq | .symbol .lt | .symbol .ltEq | .symbol .gt
  | .symbol .gtEq => some 5
  | .keyword .IS | .keyword .IN | .keyword .BETWEEN | .keyword .LIKE | .keyword .NOT => some 5
  | .identifier name => if (comparisonWord? name).isSome then some 5 else none
  | .symbol .bitOr => some 7
  | .symbol .bitAnd => some 9
  | .symbol .leftShift | .symbol .rightShift => some 11
  | .symbol .plus | .symbol .minus | .symbol .concat => some 13
  | .symbol .star | .symbol .slash | .symbol .percent => some 15
  | _ => none

def isPostfix : TokenKind → Bool
  | .symbol .doubleColon | .symbol .leftBracket | .keyword .COLLATE => true
  | _ => false

/-- The text of an operator that is one token. -/
def text? : TokenKind → Option String
  | .symbol .plus => some "+"
  | .symbol .minus => some "-"
  | .symbol .star => some "*"
  | .symbol .slash => some "/"
  | .symbol .percent => some "%"
  | .symbol .eq => some "="
  | .symbol .notEq => some "!="
  | .symbol .lt => some "<"
  | .symbol .ltEq => some "<="
  | .symbol .gt => some ">"
  | .symbol .gtEq => some ">="
  | .symbol .concat => some "||"
  | .symbol .bitAnd => some "&"
  | .symbol .bitOr => some "|"
  | .symbol .leftShift => some "<<"
  | .symbol .rightShift => some ">>"
  | .keyword .AND => some "AND"
  | .keyword .OR => some "OR"
  | .keyword .LIKE => some "LIKE"
  | .identifier name => comparisonWord? name
  | _ => none

/-- Whether NOT may stand before the operator. -/
def isNegatable : TokenKind → Bool
  | .keyword .IN | .keyword .BETWEEN | .keyword .LIKE => true
  | .identifier name => (comparisonWord? name).isSome
  | _ => false

end SqlWeave.Operator
