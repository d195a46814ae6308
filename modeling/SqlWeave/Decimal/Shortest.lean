import SqlWeave.Decimal.Binary64

/-! The shortest decimal that reads back as a given number, and its notation: positional near one,
scientific elsewhere. -/

namespace SqlWeave.Decimal

/-- `digits * 10 ^ exponent`. -/
structure Scaled where
  digits : Nat
  exponent : Int
deriving DecidableEq, Repr

/-- The reals that round to a number: `low / scale` to `high / scale` around `mid / scale`, the
ends included if the significand is even. -/
structure Interval where
  low : Nat
  mid : Nat
  high : Nat
  scale : Nat
  closed : Bool

namespace Binary64

/-- Below a power of two the neighbours are half as far apart. -/
def interval (x : Binary64) : Interval :=
  let m := x.significand
  let below := if m = Nat.pow 2 52 && leastExponent < x.exponent then 1 else 2
  let up := Nat.pow 2 x.exponent.toNat
  let scale := 4 * Nat.pow 2 (-x.exponent).toNat
  { low := (4 * m - below) * up, mid := 4 * m * up, high := (4 * m + 2) * up, scale,
    closed := m % 2 == 0 }

end Binary64

namespace Interval

/-- Whether `n / d` lies in the interval. -/
def holds (i : Interval) (n d : Nat) : Bool :=
  let x := n * i.scale
  if i.closed then i.low * d ≤ x && x ≤ i.high * d else i.low * d < x && x < i.high * d

/-- The exponent of the leading decimal digit of the middle. -/
def leading (i : Interval) : Int :=
  if i.scale ≤ i.mid then Int.ofNat (Nat.toDigits 10 (i.mid / i.scale)).length - 1
  else
    let k := (Nat.toDigits 10 (i.scale / i.mid)).length
    if i.scale ≤ i.mid * Nat.pow 10 (k - 1) then 1 - Int.ofNat k else -Int.ofNat k

/-- The multiple of `10 ^ exponent` that is nearest to the middle among those in the interval. -/
def onGrid (i : Interval) (exponent : Int) : Option Scaled :=
  let up := Nat.pow 10 exponent.toNat
  let down := Nat.pow 10 (-exponent).toNat
  let unit := i.scale * up
  let value := i.mid * down
  let n := value / unit
  let below := i.holds (n * up) down
  let above := i.holds ((n + 1) * up) down
  let r := value % unit
  if below && (!above || 2 * r < unit || (2 * r == unit && n % 2 == 0)) then some ⟨n, exponent⟩
  else if above then some ⟨n + 1, exponent⟩
  else none

/-- Tries grids from `k` digits on; seventeen digits always suffice. -/
def search (i : Interval) : Nat → Nat → Scaled
  | 0, _ => ⟨i.mid / i.scale, 0⟩
  | fuel + 1, k =>
    match i.onGrid (i.leading - Int.ofNat k + 1) with
    | some d => d
    | none => search i fuel (k + 1)

end Interval

/-- A decimal's digits without trailing zeros, and the exponent of the first one. -/
def Scaled.parts (d : Scaled) : List Char × Int :=
  let ds := Nat.toDigits 10 d.digits
  let kept := (ds.reverse.dropWhile (· == '0')).reverse
  (kept, d.exponent + Int.ofNat ds.length - 1)

namespace Binary64

def shortest (x : Binary64) : Scaled :=
  if x.isZero then ⟨0, 0⟩ else x.interval.search 17 1

/-- Exponents from `-5` to `15` are written positionally, always with a fraction; others in
scientific notation with a sign, and with no fraction for a single digit. -/
def magnitudeText (x : Binary64) : String :=
  if x.isZero then "0.0"
  else
    let (ds, e) := x.shortest.parts
    if -5 ≤ e && e ≤ 15 then
      if 0 ≤ e then
        let whole := e.toNat + 1
        let padded := ds ++ List.replicate (whole - ds.length) '0'
        let fraction := padded.drop whole
        String.ofList (padded.take whole) ++ "." ++
          (if fraction.isEmpty then "0" else String.ofList fraction)
      else "0." ++ String.ofList (List.replicate ((-e).toNat - 1) '0' ++ ds)
    else
      let fraction := ds.drop 1
      String.ofList (ds.take 1) ++
        (if fraction.isEmpty then "" else "." ++ String.ofList fraction) ++
        "e" ++ (if 0 ≤ e then "+" else "-") ++ toString e.natAbs

def text (x : Binary64) : String := (if x.negative then "-" else "") ++ x.magnitudeText

end Binary64

end SqlWeave.Decimal
