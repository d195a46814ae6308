import Mathlib
import SqlWeave.Decimal.Binary64

/-! Rounding a fraction to a number of 53 significant bits. Main statements: `ofRatio` gives a
number within half a unit of its last bit of the fraction, a quarter of one where the numbers below
are closer, a fraction half way between two numbers going to the one with an even significand; and
this is the only number that the fraction is rounded to. -/

namespace SqlWeave.Decimal

/-- A power with an integer exponent, written with natural ones. -/
theorem pow_toNat_div_pow_toNat (b : ℚ) (e : ℤ) : b ^ e.toNat / b ^ (-e).toNat = b ^ e := by
  rcases le_total 0 e with he | he
  · lift e to ℕ using he
    simp
  · obtain ⟨n, rfl⟩ : ∃ n : ℕ, e = -n := ⟨e.natAbs, by omega⟩
    simp [zpow_neg]

/-- An integer nearest to a fraction, a tie going to the even one. -/
structure IsNearest (m : ℕ) (v : ℚ) : Prop where
  close : |v - m| ≤ 1 / 2
  tie : |v - m| = 1 / 2 → m % 2 = 0

namespace IsNearest

variable {m : ℕ} {v : ℚ}

theorem of_lt (h : |v - m| < 1 / 2) : IsNearest m v := ⟨h.le, fun heq => absurd heq h.ne⟩

theorem of_even (h : |v - m| = 1 / 2) (heven : m % 2 = 0) : IsNearest m v := ⟨h.le, fun _ => heven⟩

theorem bounds (h : IsNearest m v) :
    m - 1 / 2 ≤ v ∧ v ≤ m + 1 / 2 ∧ (m % 2 = 1 → m - 1 / 2 < v ∧ v < m + 1 / 2) := by
  obtain ⟨hlow, hhigh⟩ := abs_le.mp h.close
  refine ⟨by linarith, by linarith, fun hodd => ?_⟩
  have hne : |v - m| ≠ 1 / 2 := fun heq => by
    have heven := h.tie heq
    omega
  obtain ⟨hlow, hhigh⟩ := abs_lt.mp (lt_of_le_of_ne h.close hne)
  exact ⟨by linarith, by linarith⟩

end IsNearest

namespace Binary64

theorem isNearest_roundDiv (n : ℕ) {d : ℕ} (hd : 0 < d) : IsNearest (roundDiv n d) (n / d) := by
  have hpos : (0 : ℚ) < d := Nat.cast_pos.mpr hd
  have hsplit : (n : ℚ) / d = (n / d : ℕ) + ((n % d : ℕ) : ℚ) / d := by
    rw [div_eq_iff hpos.ne', add_mul, div_mul_cancel₀ _ hpos.ne']
    exact_mod_cast (Nat.div_add_mod' n d).symm
  have hlt : ((n % d : ℕ) : ℚ) / d < 1 := (div_lt_one hpos).mpr (Nat.cast_lt.mpr (Nat.mod_lt n hd))
  have hnonneg : 0 ≤ ((n % d : ℕ) : ℚ) / d := by positivity
  have hdouble (c : ℚ) : ((n % d : ℕ) : ℚ) / d < c ↔ ((2 * (n % d) : ℕ) : ℚ) < 2 * c * d := by
    rw [div_lt_iff₀ hpos]
    push_cast
    constructor <;> intro h <;> linarith
  rw [hsplit]
  unfold roundDiv
  simp only
  split
  · rename_i hdown
    have hless : ((n % d : ℕ) : ℚ) / d < 1 / 2 := by
      rw [hdouble, mul_one_div_cancel two_ne_zero, one_mul]
      exact Nat.cast_lt.mpr hdown
    refine .of_lt ?_
    rwa [add_sub_cancel_left, abs_of_nonneg hnonneg]
  · rename_i hdown
    have hmore : 1 / 2 ≤ ((n % d : ℕ) : ℚ) / d := by
      rw [← not_lt, hdouble, mul_one_div_cancel two_ne_zero, one_mul]
      exact fun h => hdown (Nat.cast_lt.mp h)
    split
    · rename_i hup
      have hne : ((n % d : ℕ) : ℚ) / d ≠ 1 / 2 := by
        intro heq
        rw [div_eq_iff hpos.ne'] at heq
        have heq' : ((2 * (n % d) : ℕ) : ℚ) = d := by
          push_cast
          linarith
        exact absurd (Nat.cast_inj.mp heq') (Nat.ne_of_gt hup)
      have hgt := lt_of_le_of_ne hmore hne.symm
      refine .of_lt ?_
      rw [Nat.cast_succ, abs_of_nonpos (by linarith)]
      linarith
    · rename_i hup
      have htie : ((n % d : ℕ) : ℚ) / d = 1 / 2 := by
        have htwice : 2 * (n % d) = d := by omega
        rw [div_eq_iff hpos.ne']
        have hcast : ((2 * (n % d) : ℕ) : ℚ) = d := Nat.cast_inj.mpr htwice
        push_cast at hcast
        linarith
      rw [htie]
      rcases Nat.mod_two_eq_zero_or_one (n / d) with heven | hodd
      · rw [heven, Nat.add_zero]
        refine .of_even ?_ heven
        rw [add_sub_cancel_left, abs_of_nonneg (by norm_num)]
      · rw [hodd]
        refine .of_even ?_ (by omega)
        rw [Nat.cast_succ, abs_of_nonpos (by linarith)]
        ring

/-! ## The exponent -/

theorem scaled_snd_pos (n : ℕ) {d : ℕ} (hd : 0 < d) (q : ℤ) : 0 < (scaled n d q).2 := by
  unfold scaled
  split
  · exact hd
  · exact Nat.mul_pos hd (Nat.pow_pos (by decide))

theorem scaled_div (n d : ℕ) (q : ℤ) :
    ((scaled n d q).1 : ℚ) / (scaled n d q).2 = n / d / 2 ^ q := by
  unfold scaled
  split
  · obtain ⟨k, rfl⟩ : ∃ k : ℕ, q = -k := ⟨q.natAbs, by omega⟩
    simp only [neg_neg, Int.toNat_natCast, Nat.pow_eq, Nat.cast_mul, Nat.cast_pow, Nat.cast_ofNat,
      zpow_neg, zpow_natCast, div_inv_eq_mul]
    ring
  · obtain ⟨k, rfl⟩ : ∃ k : ℕ, q = k := ⟨q.natAbs, by omega⟩
    simp only [Int.toNat_natCast, Nat.pow_eq, Nat.cast_mul, Nat.cast_pow, Nat.cast_ofNat,
      zpow_natCast]
    rw [div_div]

/-- The numbers of bits of numerator and denominator give the size of a fraction up to a factor of
two. -/
theorem log2_bounds {n d : ℕ} (hn : 0 < n) (hd : 0 < d) :
    (2 : ℚ) ^ ((n.log2 : ℤ) - d.log2 - 1) < n / d ∧
      (n : ℚ) / d < 2 ^ ((n.log2 : ℤ) - d.log2 + 1) := by
  have hpos : (0 : ℚ) < d := Nat.cast_pos.mpr hd
  have hnlow : (2 : ℚ) ^ (n.log2 : ℤ) ≤ n := by exact_mod_cast Nat.log2_self_le hn.ne'
  have hnhigh : (n : ℚ) < 2 ^ ((n.log2 : ℤ) + 1) := by exact_mod_cast Nat.lt_log2_self
  have hdlow : (2 : ℚ) ^ (d.log2 : ℤ) ≤ d := by exact_mod_cast Nat.log2_self_le hd.ne'
  have hdhigh : (d : ℚ) < 2 ^ ((d.log2 : ℤ) + 1) := by exact_mod_cast Nat.lt_log2_self
  constructor
  · rw [lt_div_iff₀ hpos]
    calc (2 : ℚ) ^ ((n.log2 : ℤ) - d.log2 - 1) * d
        < 2 ^ ((n.log2 : ℤ) - d.log2 - 1) * 2 ^ ((d.log2 : ℤ) + 1) := by gcongr
      _ = 2 ^ (n.log2 : ℤ) := by rw [← zpow_add₀ two_ne_zero]; congr 1; ring
      _ ≤ n := hnlow
  · rw [div_lt_iff₀ hpos]
    calc (n : ℚ) < 2 ^ ((n.log2 : ℤ) + 1) := hnhigh
      _ = 2 ^ ((n.log2 : ℤ) - d.log2 + 1) * 2 ^ (d.log2 : ℤ) := by
        rw [← zpow_add₀ two_ne_zero]; congr 1; ring
      _ ≤ 2 ^ ((n.log2 : ℤ) - d.log2 + 1) * d := by gcongr

/-- At its exponent a fraction has no more than 53 bits before the point, and no fewer unless the
exponent is the least one. -/
theorem exponentFor_bounds {n d : ℕ} (hn : 0 < n) (hd : 0 < d) :
    leastExponent ≤ exponentFor n d ∧ (n : ℚ) / d < 2 ^ (exponentFor n d + 53) ∧
      (leastExponent < exponentFor n d → (2 : ℚ) ^ (exponentFor n d + 52) ≤ n / d) := by
  obtain ⟨hlow, hhigh⟩ := log2_bounds hn hd
  set q₀ : ℤ := n.log2 - d.log2 - 53 with hq₀
  have hfloor (q : ℤ) :
      (scaled n d q).1 / (scaled n d q).2 < 2 ^ 53 ↔ (n : ℚ) / d < 2 ^ (q + 53) := by
    have hpos := scaled_snd_pos n hd q
    rw [Nat.div_lt_iff_lt_mul hpos, zpow_add₀ two_ne_zero, ← div_lt_iff₀' (by positivity),
      ← scaled_div n d q, div_lt_iff₀ (Nat.cast_pos.mpr hpos)]
    exact_mod_cast Iff.rfl
  have hq : exponentFor n d = if (n : ℚ) / d < 2 ^ (max q₀ leastExponent + 53)
      then max q₀ leastExponent
      else max q₀ leastExponent + 1 := if_congr (hfloor _) rfl rfl
  have hle : n / d < (2 : ℚ) ^ (q₀ + 1 + 53) := by
    rwa [show q₀ + 1 + 53 = n.log2 - d.log2 + 1 by omega]
  rcases le_total leastExponent q₀ with hleast | hleast
  · rw [max_eq_left hleast] at hq
    rw [hq]
    split
    · rename_i hlt
      refine ⟨hleast, hlt, fun _ => ?_⟩
      rw [show q₀ + 52 = n.log2 - d.log2 - 1 by omega]
      exact hlow.le
    · rename_i hge
      refine ⟨by omega, hle, fun _ => ?_⟩
      rw [show q₀ + 1 + 52 = q₀ + 53 by ring]
      exact not_lt.mp hge
  · rw [max_eq_right hleast] at hq
    have hlt : (n : ℚ) / d < 2 ^ (leastExponent + 53) ∨ q₀ = leastExponent := by
      rcases hleast.lt_or_eq with hless | heq
      · refine .inl (hle.trans_le ?_)
        exact zpow_le_zpow_right₀ one_le_two (by omega)
      · exact .inr heq
    rw [hq]
    split
    · rename_i hlt
      exact ⟨le_rfl, hlt, fun h => absurd h (lt_irrefl _)⟩
    · rename_i hge
      obtain heq : q₀ = leastExponent := hlt.resolve_left hge
      rw [← heq] at hge ⊢
      refine ⟨by omega, hle, fun _ => ?_⟩
      rw [show q₀ + 1 + 52 = q₀ + 53 by ring]
      exact not_lt.mp hge

/-! ## The number -/

/-- A significand of 53 bits, or of fewer at the least exponent. -/
structure Canonical (x : Binary64) : Prop where
  least : leastExponent ≤ x.exponent
  lt : x.significand < 2 ^ 53
  normal : leastExponent < x.exponent → 2 ^ 52 ≤ x.significand

/-- The distance to the next number. -/
def ulp (x : Binary64) : ℚ := 2 ^ x.exponent

/-- The number without its sign. -/
def magnitude (x : Binary64) : ℚ := x.significand * x.ulp

theorem ulp_pos (x : Binary64) : 0 < x.ulp := zpow_pos two_pos _

/-- The part of a unit within which a fraction below a number is rounded to it. -/
def reachBelow (x : Binary64) : ℚ :=
  if x.significand = 2 ^ 52 ∧ leastExponent < x.exponent then 1 / 4 else 1 / 2

/-- The fraction is rounded to the number. -/
structure IsRounded (x : Binary64) (v : ℚ) : Prop where
  low : (x.significand - x.reachBelow) * x.ulp ≤ v
  high : v ≤ (x.significand + 1 / 2) * x.ulp
  inside : x.significand % 2 = 1 →
    (x.significand - x.reachBelow) * x.ulp < v ∧ v < (x.significand + 1 / 2) * x.ulp

theorem isRounded_of_isNearest {x : Binary64} {v : ℚ} (h : IsNearest x.significand (v / x.ulp))
    (hlow : x.significand = 2 ^ 52 → leastExponent < x.exponent → x.magnitude ≤ v) :
    x.IsRounded v := by
  have hpos := x.ulp_pos
  obtain ⟨hnear, hfar, hodd⟩ := h.bounds
  have hhigh : v ≤ (x.significand + 1 / 2) * x.ulp := (div_le_iff₀ hpos).mp hfar
  by_cases hedge : x.significand = 2 ^ 52 ∧ leastExponent < x.exponent
  · have hbelow : x.reachBelow = 1 / 4 := if_pos hedge
    have hmagnitude := hlow hedge.1 hedge.2
    refine ⟨?_, hhigh, fun hmod => ?_⟩
    · rw [hbelow]
      unfold magnitude at hmagnitude
      linarith
    · rw [hedge.1] at hmod
      norm_num at hmod
  · have hbelow : x.reachBelow = 1 / 2 := if_neg hedge
    refine ⟨?_, hhigh, fun hmod => ?_⟩
    · rw [hbelow]
      exact (le_div_iff₀ hpos).mp hnear
    · rw [hbelow]
      exact ⟨(lt_div_iff₀ hpos).mp (hodd hmod).1, (div_lt_iff₀ hpos).mp (hodd hmod).2⟩

/-- A fraction that rounds up to a power of two lies within a quarter of that number's unit below
it. -/
theorem isRounded_carry (negative : Bool) {q : ℤ} {v : ℚ} (hq : leastExponent ≤ q)
    (hnear : (2 : ℚ) ^ 53 - 1 / 2 ≤ v / 2 ^ q) (hlt : v < 2 ^ (q + 53)) :
    (⟨negative, 2 ^ 52, q + 1⟩ : Binary64).IsRounded v := by
  have hpos : (0 : ℚ) < 2 ^ q := by positivity
  have hulp : (⟨negative, 2 ^ 52, q + 1⟩ : Binary64).ulp = 2 * 2 ^ q := by
    rw [ulp, zpow_add_one₀ two_ne_zero, mul_comm]
  have hbelow : (⟨negative, 2 ^ 52, q + 1⟩ : Binary64).reachBelow = 1 / 4 :=
    if_pos ⟨rfl, Int.lt_add_one_of_le hq⟩
  have hv : v < 2 ^ 53 * 2 ^ q := by rwa [zpow_add₀ two_ne_zero, mul_comm] at hlt
  rw [le_div_iff₀ hpos] at hnear
  refine ⟨?_, ?_, fun hmod => ?_⟩
  · rw [hulp, hbelow]
    push_cast
    linarith
  · rw [hulp]
    push_cast
    linarith
  · norm_num at hmod

/-- The least number whose significand has all 53 bits. -/
def leastNormal : ℚ := 2 ^ (-1022 : ℤ)

/-- Every fraction is rounded to a number, and `ofRatio` gives that number unless its exponent is
too large. -/
theorem exists_ofRatio (negative : Bool) {n d : ℕ} (hn : 0 < n) (hd : 0 < d) :
    ∃ x : Binary64, x.negative = negative ∧ x.Canonical ∧ x.IsRounded (n / d) ∧
      (leastNormal ≤ (n : ℚ) / d → 2 ^ 52 ≤ x.significand) ∧
      ofRatio negative n d = if greatestExponent < x.exponent then none else some x := by
  obtain ⟨hleast, hlt, hfull⟩ := exponentFor_bounds hn hd
  have hscaled := scaled_div n d (exponentFor n d)
  have hnearest := isNearest_roundDiv (scaled n d (exponentFor n d)).1
    (scaled_snd_pos n hd (exponentFor n d))
  rw [hscaled] at hnearest
  simp only [ofRatio, if_neg hn.ne']
  generalize exponentFor n d = q at *
  generalize roundDiv (scaled n d q).1 (scaled n d q).2 = m at *
  generalize hv : (n : ℚ) / d = v at *
  have hpos : (0 : ℚ) < 2 ^ q := by positivity
  obtain ⟨hnear, hfar, -⟩ := hnearest.bounds
  have hsmall : v / 2 ^ q < 2 ^ 53 := by
    rwa [div_lt_iff₀ hpos, mul_comm, ← zpow_natCast, ← zpow_add₀ two_ne_zero]
  have hlarge (hcase : leastExponent < q ∨ leastNormal ≤ v) : 2 ^ 52 ≤ v / 2 ^ q := by
    rw [le_div_iff₀ hpos, mul_comm, ← zpow_natCast, ← zpow_add₀ two_ne_zero]
    rcases hleast.lt_or_eq with hless | heq
    · exact hfull hless
    · rw [← heq]
      exact hcase.resolve_left (by omega)
  have hmle : m ≤ 2 ^ 53 := by
    have hcast : (m : ℚ) < (2 ^ 53 + 1 : ℕ) := by
      push_cast
      linarith
    exact Nat.lt_succ_iff.mp (Nat.cast_lt.mp hcast)
  have hmge (hcase : leastExponent < q ∨ leastNormal ≤ v) : 2 ^ 52 ≤ m := by
    have hcast : ((2 ^ 52 : ℕ) : ℚ) < (m + 1 : ℕ) := by
      have hbits := hlarge hcase
      push_cast
      linarith
    exact Nat.lt_succ_iff.mp (Nat.cast_lt.mp hcast)
  by_cases hcarry : m = 2 ^ 53
  · have hedge : m = Nat.pow 2 53 := hcarry
    rw [if_pos hedge]
    rw [hcarry] at hnear
    push_cast at hnear
    exact ⟨⟨negative, 2 ^ 52, q + 1⟩, rfl, ⟨Int.le_add_one hleast, by norm_num, fun _ => le_rfl⟩,
      isRounded_carry negative hleast hnear hlt, fun _ => le_rfl, rfl⟩
  · have hedge : m ≠ Nat.pow 2 53 := hcarry
    rw [if_neg hedge]
    refine ⟨⟨negative, m, q⟩, rfl,
      ⟨hleast, lt_of_le_of_ne hmle hcarry, fun hless => hmge (.inl hless)⟩, ?_, fun hnormal =>
        hmge (.inr hnormal), rfl⟩
    refine isRounded_of_isNearest hnearest fun hm hless => ?_
    obtain rfl : m = 2 ^ 52 := hm
    have hbits := (le_div_iff₀ hpos).mp (hlarge (.inl hless))
    unfold magnitude ulp
    push_cast
    exact hbits

/-! ## No other number -/

section Neighbours

variable {x y : Binary64} {v : ℚ}

theorem reachBelow_cases (x : Binary64) :
    x.reachBelow = 1 / 4 ∧ x.significand = 2 ^ 52 ∨
      x.reachBelow = 1 / 2 ∧ (leastExponent < x.exponent → x.significand ≠ 2 ^ 52) := by
  unfold reachBelow
  split
  · rename_i hedge
    exact .inl ⟨rfl, hedge.1⟩
  · rename_i hedge
    exact .inr ⟨rfl, fun hless heq => hedge ⟨heq, hless⟩⟩

theorem reachBelow_bounds (x : Binary64) : 0 < x.reachBelow ∧ x.reachBelow ≤ 1 / 2 := by
  rcases x.reachBelow_cases with ⟨h, -⟩ | ⟨h, -⟩ <;> rw [h] <;> norm_num

theorem two_ulp_le (h : x.exponent < y.exponent) : 2 * x.ulp ≤ y.ulp := by
  rw [ulp, ulp, mul_comm, ← zpow_add_one₀ two_ne_zero]
  exact zpow_le_zpow_right₀ one_le_two h

theorem Canonical.magnitude_le (hx : x.Canonical) : x.magnitude ≤ (2 ^ 53 - 1) * x.ulp := by
  have hbits : ((x.significand + 1 : ℕ) : ℚ) ≤ (2 ^ 53 : ℕ) := Nat.cast_le.mpr hx.lt
  have hpos := x.ulp_pos
  push_cast at hbits
  unfold magnitude
  gcongr
  linarith

/-- A number above the least exponent, and the end of what is rounded to it. -/
theorem Canonical.normal_bounds (hx : x.Canonical) (h : leastExponent < x.exponent) :
    (2 ^ 52 - 1 / 2) * x.ulp ≤ x.magnitude - 2 * x.reachBelow * x.ulp ∧
      2 ^ 52 * x.ulp ≤ x.magnitude := by
  have hpos := x.ulp_pos
  have hnormal := hx.normal h
  unfold magnitude
  rcases x.reachBelow_cases with ⟨hreach, hedge⟩ | ⟨hreach, hmore⟩
  · rw [hreach, hedge]
    push_cast
    constructor <;> linarith
  · have hstep : 2 ^ 52 < x.significand := lt_of_le_of_ne hnormal (hmore h).symm
    have hcast : ((2 ^ 52 + 1 : ℕ) : ℚ) ≤ x.significand := Nat.cast_le.mpr hstep
    push_cast at hcast
    have hmagnitude : (2 ^ 52 + 1) * x.ulp ≤ x.significand * x.ulp := by
      gcongr
      linarith
    rw [hreach]
    constructor <;> linarith

end Neighbours

namespace IsRounded

variable {x y : Binary64} {v : ℚ}

/-- What is rounded to a number above the least exponent is not much smaller than a power of two. -/
theorem le_of_normal (hx : x.Canonical) (h : leastExponent < x.exponent) (hv : x.IsRounded v) :
    (2 ^ 52 - 1 / 4) * x.ulp ≤ v := by
  obtain ⟨hlow, hbits⟩ := hx.normal_bounds h
  have hreach := hv.low
  unfold magnitude at hlow hbits
  linarith

/-- What is rounded to a number is no larger than what is rounded to one with a larger exponent. -/
theorem exponent_le (hx : x.Canonical) (hy : y.Canonical) (hxv : x.IsRounded v)
    (hyv : y.IsRounded v) :
    y.exponent ≤ x.exponent := by
  by_contra hlt
  rw [not_le] at hlt
  have hpos := x.ulp_pos
  have hulp := two_ulp_le hlt
  have hlow := hyv.le_of_normal hy (hx.least.trans_lt hlt)
  have hbits : ((x.significand + 1 : ℕ) : ℚ) ≤ (2 ^ 53 : ℕ) := Nat.cast_le.mpr hx.lt
  push_cast at hbits
  have hfloor : (2 ^ 53 - 1 / 2) * x.ulp ≤ v := by linarith
  have hfull : (2 : ℚ) ^ 53 - 1 / 2 ≤ x.significand + 1 / 2 :=
    le_of_mul_le_mul_right (hfloor.trans hxv.high) hpos
  have hlast : x.significand + 1 = 2 ^ 53 := by
    refine le_antisymm hx.lt ?_
    have hcast : ((2 ^ 53 : ℕ) : ℚ) ≤ (x.significand + 1 : ℕ) := by
      push_cast
      linarith
    exact Nat.cast_le.mp hcast
  -- the last significand is odd, so that its end is not its own
  have hstrict := (hxv.inside (by omega)).2
  have hend : (x.significand + 1 / 2) * x.ulp = (2 ^ 53 - 1 / 2) * x.ulp := by
    have hcast : ((x.significand + 1 : ℕ) : ℚ) = (2 ^ 53 : ℕ) := Nat.cast_inj.mpr hlast
    push_cast at hcast
    linear_combination x.ulp * hcast
  linarith

theorem significand_le (hexponent : x.exponent = y.exponent) (hxv : x.IsRounded v)
    (hyv : y.IsRounded v) :
    y.significand ≤ x.significand := by
  by_contra hlt
  rw [not_le] at hlt
  have hpos := x.ulp_pos
  have hulp : y.ulp = x.ulp := by rw [ulp, ulp, hexponent]
  have hreach := y.reachBelow_bounds.2
  have hstep : ((x.significand + 1 : ℕ) : ℚ) ≤ y.significand := Nat.cast_le.mpr hlt
  push_cast at hstep
  have hfloor : (x.significand + 1 / 2) * x.ulp ≤ (y.significand - y.reachBelow) * x.ulp := by
    gcongr
    linarith
  have hlow := hyv.low
  rw [hulp] at hlow
  have hodd : x.significand % 2 ≠ 1 := fun hmod => by
    have hstrict := (hxv.inside hmod).2
    linarith
  have hodd' : y.significand % 2 ≠ 1 := fun hmod => by
    have hstrict := (hyv.inside hmod).1
    rw [hulp] at hstrict
    linarith [hxv.high]
  -- two even significands are further apart
  have htwo : ((x.significand + 2 : ℕ) : ℚ) ≤ y.significand := Nat.cast_le.mpr (by omega)
  push_cast at htwo
  have hgap : (x.significand + 3 / 2) * x.ulp ≤ (y.significand - y.reachBelow) * x.ulp := by
    gcongr
    linarith
  linarith [hxv.high]

/-- A fraction is rounded to one number only. -/
theorem unique (hsign : x.negative = y.negative) (hx : x.Canonical) (hy : y.Canonical)
    (hxv : x.IsRounded v) (hyv : y.IsRounded v) : x = y := by
  have hexponent : x.exponent = y.exponent :=
    le_antisymm (exponent_le hy hx hyv hxv) (exponent_le hx hy hxv hyv)
  have hsignificand : x.significand = y.significand :=
    le_antisymm (significand_le hexponent.symm hyv hxv) (significand_le hexponent hxv hyv)
  cases x
  cases y
  congr

end IsRounded

/-! ## No nearer number -/

section Neighbours

variable {x y : Binary64} {v : ℚ}

/-- Numbers are apart by a unit of the lower one, and by twice what reaches below the higher one. -/
theorem Canonical.gap (hx : x.Canonical) (hy : y.Canonical) (hlt : x.magnitude < y.magnitude) :
    x.magnitude + x.ulp ≤ y.magnitude ∧
      x.magnitude ≤ y.magnitude - 2 * y.reachBelow * y.ulp := by
  have hxpos := x.ulp_pos
  have hypos := y.ulp_pos
  have hxle := hx.magnitude_le
  have hyle := hy.magnitude_le
  rcases lt_trichotomy x.exponent y.exponent with hless | hsame | hmore
  · obtain ⟨hlow, hbits⟩ := hy.normal_bounds (hx.least.trans_lt hless)
    have hulp := two_ulp_le hless
    constructor <;> linarith
  · have hulp : y.ulp = x.ulp := by rw [ulp, ulp, hsame]
    have hreach : 2 * y.reachBelow * y.ulp ≤ 2 * (1 / 2) * y.ulp := by
      gcongr
      exact y.reachBelow_bounds.2
    unfold magnitude at hlt ⊢
    rw [hulp] at hlt hreach ⊢
    have hcast : (x.significand : ℚ) < y.significand := lt_of_mul_lt_mul_right hlt hxpos.le
    have hstep : ((x.significand + 1 : ℕ) : ℚ) ≤ y.significand :=
      Nat.cast_le.mpr (Nat.cast_lt.mp hcast)
    push_cast at hstep
    have hmagnitude : (x.significand + 1) * x.ulp ≤ y.significand * x.ulp := by gcongr
    constructor <;> linarith
  · obtain ⟨-, hbits⟩ := hx.normal_bounds (hy.least.trans_lt hmore)
    have hulp := two_ulp_le hmore
    linarith

/-- No number is nearer to a fraction than the one that it is rounded to. -/
theorem IsRounded.nearest (hx : x.Canonical) (hy : y.Canonical) (h : x.IsRounded v) :
    |v - x.magnitude| ≤ |v - y.magnitude| := by
  have hlow := h.low
  have hhigh := h.high
  rcases lt_trichotomy x.magnitude y.magnitude with hless | hsame | hmore
  · obtain ⟨hgap, -⟩ := hx.gap hy hless
    calc |v - x.magnitude| ≤ -(v - y.magnitude) := by
          unfold magnitude at *
          exact abs_le.mpr ⟨by linarith, by linarith⟩
      _ ≤ |v - y.magnitude| := neg_le_abs _
  · rw [hsame]
  · obtain ⟨-, hgap⟩ := hy.gap hx hmore
    calc |v - x.magnitude| ≤ v - y.magnitude := by
          unfold magnitude at *
          exact abs_le.mpr ⟨by linarith, by linarith⟩
      _ ≤ |v - y.magnitude| := le_abs_self _

/-! ## The range -/

/-- Half a unit above the greatest finite number. -/
def overflow : ℚ := 2 ^ (1024 : ℤ) - 2 ^ (970 : ℤ)

theorem overflow_eq : overflow = (2 ^ 53 - 1 / 2) * 2 ^ greatestExponent := by
  have hhigh : (2 : ℚ) ^ (1024 : ℤ) = 2 ^ (53 : ℤ) * 2 ^ greatestExponent := by
    rw [← zpow_add₀ two_ne_zero]
    rfl
  have hlow : (2 : ℚ) ^ (970 : ℤ) = 2 ^ (-1 : ℤ) * 2 ^ greatestExponent := by
    rw [← zpow_add₀ two_ne_zero]
    rfl
  rw [overflow, hhigh, hlow]
  norm_num
  ring

/-- What is rounded to a finite number is in range. -/
theorem IsRounded.lt_overflow (hx : x.Canonical) (hfinite : x.exponent ≤ greatestExponent)
    (h : x.IsRounded v) : v < overflow := by
  have hpos := x.ulp_pos
  have hulp : x.ulp ≤ 2 ^ greatestExponent := zpow_le_zpow_right₀ one_le_two hfinite
  have hbits : ((x.significand + 1 : ℕ) : ℚ) ≤ (2 ^ 53 : ℕ) := Nat.cast_le.mpr hx.lt
  push_cast at hbits
  have hend {c : ℚ} (hc : c ≤ 2 ^ 53 - 1 / 2) : c * x.ulp ≤ overflow := by
    rw [overflow_eq]
    exact mul_le_mul hc hulp hpos.le (by norm_num)
  -- the greatest significand is odd, so that the end is not rounded to it
  rcases Nat.mod_two_eq_zero_or_one x.significand with heven | hodd
  · have hless : ((x.significand + 2 : ℕ) : ℚ) ≤ (2 ^ 53 : ℕ) := by
      have hlt := hx.lt
      exact Nat.cast_le.mpr (by omega)
    push_cast at hless
    have hinside : (x.significand + 1 / 2) * x.ulp < (2 ^ 53 - 1 / 2) * x.ulp := by
      gcongr
      linarith
    exact (h.high.trans_lt hinside).trans_le (hend le_rfl)
  · exact (h.inside hodd).2.trans_le (hend (by linarith))

/-- What is rounded to a number whose exponent is too large is out of range. -/
theorem IsRounded.overflow_le (hx : x.Canonical) (hlarge : greatestExponent < x.exponent)
    (h : x.IsRounded v) : overflow ≤ v := by
  have hulp : 2 * (2 : ℚ) ^ greatestExponent ≤ x.ulp :=
    two_ulp_le (x := ⟨false, 0, greatestExponent⟩) hlarge
  have hlow := h.le_of_normal hx (lt_trans (by decide) hlarge)
  rw [overflow_eq]
  linarith

end Neighbours

end Binary64

end SqlWeave.Decimal
