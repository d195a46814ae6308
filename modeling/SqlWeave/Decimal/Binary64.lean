/-! Finite binary64 numbers as exact dyadic values, so that reading, arithmetic and printing are
integer arithmetic with one rounding rule: to nearest, a tie to the even significand. -/

namespace SqlWeave.Decimal

/-- The value is `significand * 2 ^ exponent`, with its sign apart so that zero keeps one. -/
structure Binary64 where
  negative : Bool
  significand : Nat
  exponent : Int
deriving DecidableEq, Repr

namespace Binary64

def leastExponent : Int := -1074

def greatestExponent : Int := 971

def zero (negative : Bool) : Binary64 := ⟨negative, 0, leastExponent⟩

/-- The quotient rounded to nearest, a tie to the even neighbour. -/
def roundDiv (n d : Nat) : Nat :=
  let q := n / d
  let r := n % d
  if 2 * r < d then q else if d < 2 * r then q + 1 else q + q % 2

/-- `n / (d * 2 ^ q)` as a fraction of naturals. -/
def scaled (n d : Nat) (q : Int) : Nat × Nat :=
  if q < 0 then (n * Nat.pow 2 (-q).toNat, d) else (n, d * Nat.pow 2 q.toNat)

/-- The exponent at which `n / d` has 53 significant bits, or the least one. -/
def exponentFor (n d : Nat) : Int :=
  let q := max (Int.ofNat n.log2 - Int.ofNat d.log2 - 53) leastExponent
  let (a, b) := scaled n d q
  if a / b < Nat.pow 2 53 then q else q + 1

/-- The nearest number to `n / d`; none if it is above the greatest finite one. -/
def ofRatio (negative : Bool) (n d : Nat) : Option Binary64 :=
  if n = 0 then some (zero negative)
  else
    let q := exponentFor n d
    let (a, b) := scaled n d q
    let m := roundDiv a b
    let (m, q) := if m = Nat.pow 2 53 then (Nat.pow 2 52, q + 1) else (m, q)
    if greatestExponent < q then none else some ⟨negative, m, q⟩

/-- How many decimal places a number can be away from one and still be finite and not round to
zero, with room for its digits. -/
def decimalReach : Int := 400

/-- The nearest number to `digits * 10 ^ exponent`; none if it is out of range. -/
def ofDecimal (negative : Bool) (digits : Nat) (exponent : Int) : Option Binary64 :=
  let size : Int := exponent + Int.ofNat (Nat.toDigits 10 digits).length
  if digits = 0 || size < -decimalReach then some (zero negative)
  else if decimalReach < size then none
  else if exponent < 0 then ofRatio negative digits (Nat.pow 10 (-exponent).toNat)
  else ofRatio negative (digits * Nat.pow 10 exponent.toNat) 1

/-- The magnitude as a fraction of naturals. -/
def ratio (x : Binary64) : Nat × Nat :=
  if x.exponent < 0 then (x.significand, Nat.pow 2 (-x.exponent).toNat)
  else (x.significand * Nat.pow 2 x.exponent.toNat, 1)

def mul? (x y : Binary64) : Option Binary64 :=
  let (a, b) := x.ratio
  let (c, d) := y.ratio
  ofRatio (x.negative != y.negative) (a * c) (b * d)

/-- None for a zero divisor too. -/
def div? (x y : Binary64) : Option Binary64 :=
  let (a, b) := x.ratio
  let (c, d) := y.ratio
  if c = 0 then none else ofRatio (x.negative != y.negative) (a * d) (b * c)

def isZero (x : Binary64) : Bool := x.significand == 0

def withSign (x : Binary64) (negative : Bool) : Binary64 := { x with negative }

end Binary64

end SqlWeave.Decimal
