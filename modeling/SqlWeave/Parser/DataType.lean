import SqlWeave.Decimal.Digits
import SqlWeave.Parser.Clause

/-! Reading types. -/

namespace SqlWeave.Parser

open Decimal (word64?)

/-- Type names of two words. -/
def twoWordTypes : List (String × String) := [("double", "precision"), ("character", "varying")]

def typeName : Parser String := do
  match ← kind with
  | .identifier _ | .keyword _ =>
    let name ← currentText
    advance
    return name
  | .quotedIdentifier name =>
    advance
    return name
  | _ => unexpected "data type"

/-- The second word of a type name, if it is one that has it. -/
def secondWord (name : String) : List (String × String) → Parser String
  | [] => return name
  | (first, second) :: more => do
    if Text.sameAscii name first && (← isAtWord second) then
      let word ← currentText
      advance
      secondWord (name ++ " " ++ word) more
    else secondWord name more

/-- `length` or `length, scale`; what is no 64-bit number counts as absent. -/
def typeSize (text : String) : Parser (Option Nat × Option Nat) := do
  advance
  if ← eat .comma then
    let scale ← match ← kind with
      | .number scale => pure (word64? scale)
      | _ => pure none
    advance
    return (word64? text, scale)
  else return (word64? text, none)

def isFieldName : TokenKind → Bool
  | .identifier _ | .quotedIdentifier _ => true
  | _ => false

def isTypeWord : TokenKind → Bool
  | .identifier _ | .keyword _ => true
  | _ => false

namespace Nested

variable (inner : Nested)

/-- A nested type, a field with its type, or a string. -/
def typeArgument : Parser Expr := do
  if isFieldName (← kind) && isTypeWord (← nextKind) then
    let name ← identifier
    let type ← inner.dataType
    return .mk (.columnDefinition (.ofName name type))
  else
    match ← kind with
    | .string value =>
      advance
      return .string value
    | _ => return .mk (.dataType (← inner.dataType))

def typeArguments (t : DataType Expr) : Parser (DataType Expr) := do
  if ← eat .leftParen then
    let t ← match ← kind with
      | .number text => do
        let (length, scale) ← typeSize text
        pure { t with length, scale }
      | _ => do
        let args ← commaSeparated inner.typeArgument
        pure { t with args }
    expect .rightParen
    return t
  else return t

def bracketPair : Parser Bool := do
  if (← isAt .leftBracket) && (← nextKind) == .symbol .rightBracket then
    advance
    return true
  else return false

def suffixWord : Parser (Option String) := do
  if ← isAtAnyWord ["unsigned", "signed", "zerofill"] then
    let word ← currentText
    advance
    return some (Text.lower word)
  else return none

def suffixWords : Nat → Parser (List String)
  | 0 => outOfRounds
  | n + 1 => do
    match ← suffixWord with
    | some word => return word :: (← suffixWords n)
    | none => return []

def readDataType : Parser (DataType Expr) := do
  let name ← secondWord (← typeName) twoWordTypes
  let t ← inner.typeArguments { name }
  let brackets ← many bracketPair advance
  let suffix ← suffixWords (← rounds)
  return { t with array := !brackets.isEmpty, suffix }

end Nested

end SqlWeave.Parser
