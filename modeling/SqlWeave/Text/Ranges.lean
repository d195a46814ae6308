/-! Sets of characters as sorted half-open ranges. -/

namespace SqlWeave.Text

/-- The list holds `lo₀, hi₀, lo₁, hi₁, …` in ascending order, each range without its end, so the
walk can stop at the first range that starts above `n`. -/
def covers : List Nat → Nat → Bool
  | lo :: hi :: rest, n => if n < lo then false else if n < hi then true else covers rest n
  | _, _ => false

end SqlWeave.Text
