import SqlWeave.Decimal.Binary64

/-! Digit strings and decimal literals. -/

namespace SqlWeave.Decimal

def digitValue (c : Char) : Nat := c.toNat - '0'.toNat

/-- The number that a string of digits denotes. -/
def naturalOf (ds : List Char) : Nat := ds.foldl (fun n c => 10 * n + digitValue c) 0

/-- A non-empty string of digits and nothing else. -/
def isDigits (ds : List Char) : Bool := !ds.isEmpty && ds.all Char.isDigit

/-- The value of a digit string, if it fits 64 bits. -/
def word64? (text : String) : Option Nat :=
  let n := naturalOf text.toList
  if isDigits text.toList && n < Nat.pow 2 64 then some n else none

/-- `e` or `E`, an optional sign and digits, up to the end; nothing at all is exponent zero. -/
def exponent? : List Char → Option Int
  | [] => some 0
  | c :: cs =>
    if c == 'e' || c == 'E' then
      match cs with
      | '-' :: ds => if isDigits ds then some (-Int.ofNat (naturalOf ds)) else none
      | '+' :: ds => if isDigits ds then some (Int.ofNat (naturalOf ds)) else none
      | ds => if isDigits ds then some (Int.ofNat (naturalOf ds)) else none
    else none

/-- The digits and the power of ten of a decimal literal such as `12.5e-3`. -/
def literal? (text : String) : Option (Nat × Int) :=
  let cs := text.toList
  let whole := cs.takeWhile Char.isDigit
  let rest := cs.dropWhile Char.isDigit
  let (fraction, rest) := match rest with
    | '.' :: r => (r.takeWhile Char.isDigit, r.dropWhile Char.isDigit)
    | r => ([], r)
  if whole.isEmpty && fraction.isEmpty then none
  else (exponent? rest).map fun e => (naturalOf (whole ++ fraction), e - Int.ofNat fraction.length)

end SqlWeave.Decimal
