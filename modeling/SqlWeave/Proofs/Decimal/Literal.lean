import Mathlib
import SqlWeave.Decimal.Digits
import SqlWeave.Proofs.Decimal.Rounding
import SqlWeave.Proofs.Digits

/-! Decimal literals and the rational numbers that they denote. `literal?` reads the digits and the
power of ten of every literal, and `ofDecimal` makes of them the number that the value is rounded
to, unless that is out of range. -/

namespace SqlWeave.Decimal

/-! ## Digits -/

theorem naturalOf_append (ds es : List Char) :
    naturalOf (ds ++ es) = naturalOf ds * 10 ^ es.length + naturalOf es := by
  have hfrom (es : List Char) (n : ℕ) :
      es.foldl (fun n c => 10 * n + digitValue c) n = n * 10 ^ es.length + naturalOf es := by
    induction es generalizing n with
    | nil => simp [naturalOf]
    | cons c es ih =>
      rw [naturalOf, List.foldl_cons, List.foldl_cons, ih, ih (10 * 0 + digitValue c),
        List.length_cons]
      ring
  rw [naturalOf, List.foldl_append]
  exact hfrom es _

theorem naturalOf_zeros (k : ℕ) : naturalOf (List.replicate k '0') = 0 := by
  induction k with
  | zero => rfl
  | succ k ih =>
    have hzero : naturalOf ['0'] = 0 := rfl
    rw [List.replicate_succ, ← List.singleton_append, naturalOf_append, ih, hzero, Nat.zero_mul]

theorem naturalOf_append_zeros (ds : List Char) (k : ℕ) :
    naturalOf (ds ++ List.replicate k '0') = naturalOf ds * 10 ^ k := by
  rw [naturalOf_append, naturalOf_zeros, List.length_replicate, Nat.add_zero]

theorem naturalOf_zeros_append (k : ℕ) (ds : List Char) :
    naturalOf (List.replicate k '0' ++ ds) = naturalOf ds := by
  rw [naturalOf_append, naturalOf_zeros, Nat.zero_mul, Nat.zero_add]

theorem isDigits_iff {ds : List Char} :
    isDigits ds = true ↔ ds ≠ [] ∧ ∀ c ∈ ds, c.isDigit = true := by
  simp [isDigits]

/-- What stands in front of something that is no digit. -/
theorem takeWhile_isDigit_append {ds rest : List Char} (hds : ∀ c ∈ ds, c.isDigit = true)
    (hrest : rest.takeWhile Char.isDigit = []) : (ds ++ rest).takeWhile Char.isDigit = ds := by
  rw [List.takeWhile_append_of_pos hds, hrest, List.append_nil]

theorem dropWhile_isDigit_append {ds rest : List Char} (hds : ∀ c ∈ ds, c.isDigit = true)
    (hrest : rest.takeWhile Char.isDigit = []) : (ds ++ rest).dropWhile Char.isDigit = rest := by
  have hsplit := List.takeWhile_append_dropWhile (p := Char.isDigit) (l := rest)
  rw [hrest, List.nil_append] at hsplit
  rw [List.dropWhile_append_of_pos hds, hsplit]

/-! ## Literals -/

/-- The exponent of a literal: nothing, or a letter and digits that may have a sign. -/
inductive ExponentText : List Char → ℤ → Prop
  | missing : ExponentText [] 0
  | unsigned {mark : Char} {ds : List Char} (hmark : mark = 'e' ∨ mark = 'E')
      (hds : isDigits ds = true) :
    ExponentText (mark :: ds) (naturalOf ds)
  | positive {mark : Char} {ds : List Char} (hmark : mark = 'e' ∨ mark = 'E')
      (hds : isDigits ds = true) :
    ExponentText (mark :: '+' :: ds) (naturalOf ds)
  | negative {mark : Char} {ds : List Char} (hmark : mark = 'e' ∨ mark = 'E')
      (hds : isDigits ds = true) :
    ExponentText (mark :: '-' :: ds) (-naturalOf ds)

/-- A decimal literal and the number that it denotes: digits, a point with digits behind it, and an
exponent, of which each may be missing, but not all digits. -/
inductive DecimalText : List Char → ℚ → Prop
  | whole {ds exponent : List Char} {e : ℤ} (hds : isDigits ds = true)
      (h : ExponentText exponent e) :
    DecimalText (ds ++ exponent) (naturalOf ds * 10 ^ e)
  | point (ds fraction : List Char) {exponent : List Char} {e : ℤ}
      (hds : ∀ c ∈ ds, c.isDigit = true)
    (hfraction : isDigits fraction = true) (h : ExponentText exponent e) :
    DecimalText (ds ++ '.' :: (fraction ++ exponent))
      (naturalOf (ds ++ fraction) * 10 ^ (e - fraction.length))

namespace ExponentText

variable {exponent : List Char} {e : ℤ}

theorem takeWhile_eq (h : ExponentText exponent e) : exponent.takeWhile Char.isDigit = [] := by
  cases h with
  | missing => rfl
  | unsigned hmark | positive hmark | negative hmark => rcases hmark with rfl | rfl <;> rfl

theorem ne_point (h : ExponentText exponent e) (rest : List Char) : exponent ≠ '.' :: rest := by
  rintro rfl
  cases h with
  | unsigned hmark | positive hmark | negative hmark =>
    rcases hmark with hmark | hmark <;> cases hmark

theorem exponent?_eq (h : ExponentText exponent e) : exponent? exponent = some e := by
  cases h with
  | missing => rfl
  | @unsigned mark ds hmark hds =>
    have hletter : (mark == 'e' || mark == 'E') = true := by simpa using hmark
    have hfirst {c : Char} {cs : List Char} (hds : isDigits (c :: cs) = true) : c.isDigit = true :=
      (isDigits_iff.mp hds).2 c List.mem_cons_self
    simp only [exponent?, hletter, if_true]
    split
    · cases hfirst hds
    · cases hfirst hds
    · rw [if_pos hds]
      rfl
  | positive hmark hds | negative hmark hds =>
    have hletter : (_ == 'e' || _ == 'E') = true :=
      Bool.or_eq_true_iff.mpr (hmark.imp beq_iff_eq.mpr beq_iff_eq.mpr)
    simp only [exponent?, hletter, if_true, hds]
    rfl

end ExponentText

/-- Of every literal its digits and its power of ten are read. -/
theorem DecimalText.literal?_eq {text : String} {v : ℚ} (h : DecimalText text.toList v) :
    ∃ n e, literal? text = some (n, e) ∧ v = n * 10 ^ e := by
  unfold literal?
  generalize text.toList = cs at *
  cases h with
  | @whole ds exponent e hds h =>
    obtain ⟨hsome, hall⟩ := isDigits_iff.mp hds
    refine ⟨naturalOf ds, e, ?_, rfl⟩
    simp only [takeWhile_isDigit_append hall h.takeWhile_eq,
      dropWhile_isDigit_append hall h.takeWhile_eq]
    split
    · exact absurd rfl (h.ne_point _)
    · rw [if_neg (by simpa using hsome), h.exponent?_eq]
      simp
  | @point ds fraction exponent e hds hfraction h =>
    obtain ⟨hsome, hall⟩ := isDigits_iff.mp hfraction
    have hpoint : ('.' :: (fraction ++ exponent)).takeWhile Char.isDigit = [] := rfl
    refine ⟨naturalOf (ds ++ fraction), e - fraction.length, ?_, rfl⟩
    simp only [takeWhile_isDigit_append hds hpoint, dropWhile_isDigit_append hds hpoint,
      takeWhile_isDigit_append hall h.takeWhile_eq, dropWhile_isDigit_append hall h.takeWhile_eq]
    rw [if_neg (by simp [hsome]), h.exponent?_eq]
    rfl

theorem DecimalText.cast {cs ds : List Char} {v w : ℚ} (h : DecimalText cs v) (hcs : ds = cs)
    (hvalue : w = v) :
    DecimalText ds w := by
  rwa [hcs, hvalue]

/-- A literal denotes one number. -/
theorem DecimalText.unique {text : String} {v w : ℚ} (hv : DecimalText text.toList v)
    (hw : DecimalText text.toList w) :
    v = w := by
  obtain ⟨n, e, hn, rfl⟩ := hv.literal?_eq
  obtain ⟨m, f, hm, rfl⟩ := hw.literal?_eq
  cases hn.symm.trans hm
  rfl

/-! ## The number of a literal -/

/-- How many digits a number has. -/
theorem exists_length_toDigits {n : ℕ} (hn : 0 < n) :
    ∃ k, (Nat.toDigits 10 n).length = k + 1 ∧ 10 ^ k ≤ n ∧ n < 10 ^ (k + 1) := by
  have hpos : 0 < (Nat.toDigits 10 n).length := Nat.length_toDigits_pos
  have hhigh := (Nat.length_toDigits_le_iff (by decide) hpos).mp le_rfl
  obtain ⟨k, hk⟩ := Nat.exists_eq_add_one.mpr hpos
  refine ⟨k, hk, ?_, hk ▸ hhigh⟩
  rcases Nat.eq_zero_or_pos k with rfl | hsome
  · exact hn
  · by_contra hlt
    have hshort := (Nat.length_toDigits_le_iff (by decide) hsome).mpr (not_le.mp hlt)
    omega

namespace Binary64

/-- The exponent of the digit in front of the first one bounds a decimal from above, and that of the
first one from below. -/
theorem size_bounds {n : ℕ} (hn : 0 < n) (e : ℤ) :
    (10 : ℚ) ^ (e + (Nat.toDigits 10 n).length - 1) ≤ n * 10 ^ e ∧
      (n : ℚ) * 10 ^ e < 10 ^ (e + (Nat.toDigits 10 n).length) := by
  obtain ⟨k, hk, hlow, hhigh⟩ := exists_length_toDigits hn
  rw [hk]
  have hten : (10 : ℚ) ≠ 0 := by norm_num
  have hlow' : (10 : ℚ) ^ k ≤ n := by exact_mod_cast hlow
  have hhigh' : (n : ℚ) < 10 ^ (k + 1) := by exact_mod_cast hhigh
  constructor
  · rw [show e + ((k + 1 : ℕ) : ℤ) - 1 = k + e by push_cast; ring, zpow_add₀ hten, zpow_natCast]
    gcongr
  · rw [add_comm, zpow_add₀ hten, zpow_natCast]
    gcongr

/-- The fraction of naturals that a decimal is handed to `ofRatio` as. -/
theorem exists_ratio (negative : Bool) {n : ℕ} (hn : 0 < n) (e : ℤ) :
    ∃ a b : ℕ, 0 < a ∧ 0 < b ∧ (n : ℚ) * 10 ^ e = a / b ∧
      (if e < 0 then ofRatio negative n (Nat.pow 10 (-e).toNat)
        else ofRatio negative (n * Nat.pow 10 e.toNat) 1) =
        ofRatio negative a b := by
  by_cases he : e < 0
  · rw [if_pos he]
    refine ⟨n, _, hn, Nat.pow_pos (by decide), ?_, rfl⟩
    obtain ⟨k, rfl⟩ : ∃ k : ℕ, e = -k := ⟨e.natAbs, by omega⟩
    simp [zpow_neg, div_eq_mul_inv]
  · rw [if_neg he]
    refine ⟨_, 1, Nat.mul_pos hn (Nat.pow_pos (by decide)), one_pos, ?_, rfl⟩
    obtain ⟨k, rfl⟩ : ∃ k : ℕ, e = k := ⟨e.natAbs, by omega⟩
    simp

/-- Four hundred decimal places are out of reach. -/
theorem two_zpow_lt_ten_zpow {e : ℤ} (h : e ≤ 1200) : (2 : ℚ) ^ e < 10 ^ (400 : ℤ) := by
  have height : ((2 : ℚ) ^ 3) ^ 400 < 10 ^ 400 :=
    pow_lt_pow_left₀ (by norm_num) (by positivity) (by decide)
  calc (2 : ℚ) ^ e ≤ 2 ^ ((3 * 400 : ℕ) : ℤ) := zpow_le_zpow_right₀ one_le_two h
    _ = ((2 : ℚ) ^ 3) ^ 400 := by rw [zpow_natCast, pow_mul]
    _ < 10 ^ 400 := height
    _ = 10 ^ (400 : ℤ) := (zpow_natCast 10 400).symm

theorem ten_zpow_lt_two_zpow {e : ℤ} (h : -1200 ≤ e) : (10 : ℚ) ^ (-400 : ℤ) < 2 ^ e := by
  have hinverse := inv_strictAnti₀ (by positivity) (two_zpow_lt_ten_zpow (show -e ≤ 1200 by omega))
  rwa [← zpow_neg, ← zpow_neg, neg_neg] at hinverse

theorem overflow_lt : overflow < 10 ^ (400 : ℤ) := by
  have hpos : (0 : ℚ) < 2 ^ (970 : ℤ) := by positivity
  exact (sub_le_self _ hpos.le).trans_lt (two_zpow_lt_ten_zpow (by decide))

theorem canonical_zero (negative : Bool) : (zero negative).Canonical :=
  ⟨le_rfl, show 0 < 2 ^ 53 by decide, fun h => absurd h (lt_irrefl _)⟩

/-- What is less than half of the least number is rounded to zero. -/
theorem isRounded_zero (negative : Bool) {v : ℚ} (hnonneg : 0 ≤ v) (hlt : v < 10 ^ (-400 : ℤ)) :
    (zero negative).IsRounded v := by
  have hulp : (zero negative).ulp = 2 ^ (-1074 : ℤ) := rfl
  have hnone : ((zero negative).significand : ℚ) = 0 := Nat.cast_zero
  have hreach : (zero negative).reachBelow = 1 / 2 :=
    if_neg fun h => absurd h.1 (show (0 : ℕ) ≠ 2 ^ 52 by decide)
  have hpos : (0 : ℚ) < 2 ^ (-1074 : ℤ) := by positivity
  have hhalf : v < 1 / 2 * 2 ^ (-1074 : ℤ) := by
    have hless : (10 : ℚ) ^ (-400 : ℤ) < 2 ^ (-1 + -1074 : ℤ) := ten_zpow_lt_two_zpow (by decide)
    rw [zpow_add₀ two_ne_zero, zpow_neg_one, ← one_div] at hless
    exact hlt.trans hless
  refine ⟨?_, ?_, fun hodd => absurd hodd Nat.zero_ne_one⟩
  · rw [hreach, hnone, hulp]
    linarith
  · rw [hnone, hulp, zero_add]
    exact hhalf.le

theorem ofDecimal_zero (negative : Bool) (e : ℤ) : ofDecimal negative 0 e = some (zero negative) :=
  rfl

/-- Every decimal is rounded to a number, and `ofDecimal` gives that number unless its exponent is
too large. -/
theorem exists_ofDecimal (negative : Bool) {n : ℕ} (hn : 0 < n) (e : ℤ) :
    ∃ x : Binary64, x.negative = negative ∧ x.Canonical ∧ x.IsRounded (n * 10 ^ e) ∧
      (leastNormal ≤ (n : ℚ) * 10 ^ e → 2 ^ 52 ≤ x.significand) ∧
      ofDecimal negative n e = if greatestExponent < x.exponent then none else some x := by
  obtain ⟨hlow, hhigh⟩ := size_bounds hn e
  obtain ⟨a, b, ha, hb, hvalue, hratio⟩ := exists_ratio negative hn e
  have hten : (1 : ℚ) < 10 := by norm_num
  by_cases hsmall : e + Int.ofNat (Nat.toDigits 10 n).length < -decimalReach
  · have hlt : (n : ℚ) * 10 ^ e < 10 ^ (-400 : ℤ) := hhigh.trans (zpow_lt_zpow_right₀ hten hsmall)
    have hcond : (decide (n = 0) ||
        decide (e + Int.ofNat (Nat.toDigits 10 n).length < -decimalReach)) = true := by
      rw [decide_eq_true hsmall, Bool.or_true]
    refine ⟨zero negative, rfl, canonical_zero negative,
      isRounded_zero negative (by positivity) hlt, fun hnormal => ?_, ?_⟩
    · have hleast : (10 : ℚ) ^ (-400 : ℤ) < leastNormal := ten_zpow_lt_two_zpow (by decide)
      exact absurd (hlt.trans hleast) (not_lt.mpr hnormal)
    · unfold ofDecimal
      simp only [hcond, if_true]
      rfl
  · have hcond : (decide (n = 0) ||
        decide (e + Int.ofNat (Nat.toDigits 10 n).length < -decimalReach)) = false := by
      rw [decide_eq_false hn.ne', decide_eq_false hsmall]
      rfl
    obtain ⟨x, hsign, hx, hrounded, hnormal, hx'⟩ := exists_ofRatio negative ha hb
    rw [← hvalue] at hrounded hnormal
    refine ⟨x, hsign, hx, hrounded, hnormal, ?_⟩
    unfold ofDecimal
    simp only [hcond, Bool.false_eq_true, if_false]
    by_cases hlarge : decimalReach < e + Int.ofNat (Nat.toDigits 10 n).length
    · have hgreat : greatestExponent < x.exponent := by
        by_contra hfinite
        have hlt := (hrounded.lt_overflow hx (not_lt.mp hfinite)).trans overflow_lt
        have hle : (10 : ℚ) ^ (400 : ℤ) ≤ 10 ^ (e + (Nat.toDigits 10 n).length - 1) :=
          zpow_le_zpow_right₀ hten.le (Int.le_sub_one_of_lt hlarge)
        linarith
      rw [if_pos hlarge, if_pos hgreat]
    · rw [if_neg hlarge, hratio, hx']

/-- A finite number is what `ofDecimal` gives for every decimal that is rounded to it. -/
theorem ofDecimal_of_isRounded {x : Binary64} {n : ℕ} (hn : 0 < n) {e : ℤ} (hx : x.Canonical)
    (hfinite : x.exponent ≤ greatestExponent) (h : x.IsRounded (n * 10 ^ e)) :
    ofDecimal x.negative n e = some x := by
  obtain ⟨y, hsign, hy, hyv, -, hdecimal⟩ := exists_ofDecimal x.negative hn e
  obtain rfl : y = x := IsRounded.unique hsign hy hx hyv h
  rw [hdecimal, if_neg (not_lt.mpr hfinite)]

end Binary64

end SqlWeave.Decimal
