import Mathlib
import SqlWeave.Decimal.Shortest
import SqlWeave.Proofs.Decimal.Literal

/-! The shortest decimal that reads back as a number. Main statements: of the decimals that are
rounded to the number none has fewer digits, and of those that have as few none is nearer; and a
number with all of its bits is that of one decimal of fifteen digits at most. -/

namespace SqlWeave.Decimal

/-- The value of a scaled integer. -/
def Scaled.value (s : Scaled) : ℚ := s.digits * 10 ^ s.exponent

/-- A value as a multiple of a power of ten that is not above its own. -/
theorem Scaled.value_on_grid (s : Scaled) {g : ℤ} (h : g ≤ s.exponent) :
    s.value = ((s.digits * 10 ^ (s.exponent - g).toNat : ℕ) : ℚ) * 10 ^ g := by
  have hsplit : s.exponent = ((s.exponent - g).toNat : ℤ) + g := by omega
  unfold Scaled.value
  push_cast
  rw [mul_assoc, ← zpow_natCast, ← zpow_add₀ (by norm_num), ← hsplit]

/-- A value that `k` decimal digits and a power of ten can express. -/
def HasDigits (v : ℚ) (k : ℕ) : Prop := ∃ s : Scaled, s.digits < 10 ^ k ∧ v = s.value

namespace HasDigits

variable {v : ℚ} {k l : ℕ}

theorem mono (h : HasDigits v k) (hkl : k ≤ l) : HasDigits v l := by
  obtain ⟨s, hs, rfl⟩ := h
  exact ⟨s, hs.trans_le (Nat.pow_le_pow_right (by decide) hkl), rfl⟩

theorem zero (k : ℕ) : HasDigits 0 k :=
  ⟨⟨0, 0⟩, Nat.pow_pos (by decide), by rw [Scaled.value, Nat.cast_zero, zero_mul]⟩

theorem eq_zero (h : HasDigits v 0) : v = 0 := by
  obtain ⟨s, hs, rfl⟩ := h
  rw [Scaled.value, Nat.lt_one_iff.mp hs, Nat.cast_zero, zero_mul]

/-- A power of ten has one digit, where one more than `k` digits were counted. -/
theorem of_le {s : Scaled} (h : s.digits ≤ 10 ^ (k + 1)) : HasDigits s.value (k + 1) := by
  rcases h.lt_or_eq with hlt | heq
  · exact ⟨s, hlt, rfl⟩
  · refine ⟨⟨1, s.exponent + (k + 1 : ℕ)⟩, Nat.one_lt_pow (by omega) (by decide), ?_⟩
    rw [Scaled.value, Scaled.value, heq, zpow_add₀ (by norm_num), zpow_natCast]
    push_cast
    ring

end HasDigits

namespace Interval

variable {i : Interval} {u v w : ℚ}

/-- A fraction lies in the interval. -/
structure Has (i : Interval) (v : ℚ) : Prop where
  low : i.low ≤ v * i.scale
  high : v * i.scale ≤ i.high
  inside : i.closed = false → i.low < v * i.scale ∧ v * i.scale < i.high

theorem holds_iff {n d : ℕ} (hd : 0 < d) : i.holds n d = true ↔ i.Has (n / d) := by
  have hpos : (0 : ℚ) < d := Nat.cast_pos.mpr hd
  have hvalue : (n : ℚ) / d * i.scale = (n * i.scale : ℕ) / d := by
    push_cast
    ring
  have hlow : i.low ≤ (n : ℚ) / d * i.scale ↔ i.low * d ≤ n * i.scale := by
    rw [hvalue, le_div_iff₀ hpos]
    exact_mod_cast Iff.rfl
  have hhigh : (n : ℚ) / d * i.scale ≤ i.high ↔ n * i.scale ≤ i.high * d := by
    rw [hvalue, div_le_iff₀ hpos]
    exact_mod_cast Iff.rfl
  have hlow' : i.low < (n : ℚ) / d * i.scale ↔ i.low * d < n * i.scale := by
    rw [hvalue, lt_div_iff₀ hpos]
    exact_mod_cast Iff.rfl
  have hhigh' : (n : ℚ) / d * i.scale < i.high ↔ n * i.scale < i.high * d := by
    rw [hvalue, div_lt_iff₀ hpos]
    exact_mod_cast Iff.rfl
  unfold holds
  cases hclosed : i.closed with
  | true =>
    simp only [if_true, Bool.and_eq_true, decide_eq_true_eq]
    constructor
    · intro h
      exact ⟨hlow.mpr h.1, hhigh.mpr h.2, fun hopen => by rw [hclosed] at hopen; cases hopen⟩
    · intro h
      exact ⟨hlow.mp h.low, hhigh.mp h.high⟩
  | false =>
    simp only [Bool.false_eq_true, if_false, Bool.and_eq_true, decide_eq_true_eq]
    constructor
    · intro h
      have hlt := hlow'.mpr h.1
      have hgt := hhigh'.mpr h.2
      exact ⟨hlt.le, hgt.le, fun _ => ⟨hlt, hgt⟩⟩
    · intro h
      obtain ⟨hlt, hgt⟩ := h.inside hclosed
      exact ⟨hlow'.mp hlt, hhigh'.mp hgt⟩

theorem Has.between (hu : i.Has u) (hw : i.Has w) (huv : u ≤ v) (hvw : v ≤ w) : i.Has v := by
  have hleft : u * i.scale ≤ v * i.scale := by gcongr
  have hright : v * i.scale ≤ w * i.scale := by gcongr
  refine ⟨hu.low.trans hleft, hright.trans hw.high, fun hopen => ?_⟩
  exact ⟨(hu.inside hopen).1.trans_le hleft, hright.trans_lt (hw.inside hopen).2⟩

/-! ## The leading digit -/

/-- How many digits a quotient has. -/
theorem exists_length_div {a b : ℕ} (hb : 0 < b) (hle : b ≤ a) :
    ∃ k, (Nat.toDigits 10 (a / b)).length = k + 1 ∧ (10 : ℚ) ^ k * b ≤ a ∧
      (a : ℚ) < 10 ^ (k + 1) * b := by
  obtain ⟨k, hk, hlow, hhigh⟩ := exists_length_toDigits (Nat.div_pos hle hb)
  rw [Nat.le_div_iff_mul_le hb] at hlow
  rw [Nat.div_lt_iff_lt_mul hb] at hhigh
  exact ⟨k, hk, by exact_mod_cast hlow, by exact_mod_cast hhigh⟩

theorem leading_bounds (hmid : 0 < i.mid) (hscale : 0 < i.scale) :
    (10 : ℚ) ^ i.leading ≤ i.mid / i.scale ∧ (i.mid : ℚ) / i.scale < 10 ^ (i.leading + 1) := by
  have hm : (0 : ℚ) < i.mid := Nat.cast_pos.mpr hmid
  have hs : (0 : ℚ) < i.scale := Nat.cast_pos.mpr hscale
  have hten : (10 : ℚ) ≠ 0 := by norm_num
  unfold leading
  by_cases hle : i.scale ≤ i.mid
  · obtain ⟨k, hk, hlow, hhigh⟩ := exists_length_div hscale hle
    have hexponent : Int.ofNat (k + 1) - 1 = (k : ℤ) := by simp
    rw [if_pos hle, hk, hexponent, le_div_iff₀ hs, div_lt_iff₀ hs]
    exact_mod_cast And.intro hlow hhigh
  · obtain ⟨k, hk, hlow, hhigh⟩ := exists_length_div hmid (not_le.mp hle).le
    have hpower (j : ℕ) : (10 : ℚ) ^ (-(j : ℤ)) * 10 ^ j = 1 := by
      rw [zpow_neg, zpow_natCast, inv_mul_cancel₀ (by positivity)]
    -- the middle is a power of ten, or it lies between two of them
    rcases hlow.eq_or_lt with heq | hlt
    · have hexact : i.scale ≤ i.mid * 10 ^ k := by
        rw [mul_comm]
        exact_mod_cast heq.ge
      have hexponent : 1 - Int.ofNat (k + 1) = -(k : ℤ) := by
        simp only [Int.ofNat_eq_natCast]
        omega
      have hratio : (i.mid : ℚ) / i.scale = 10 ^ (-(k : ℤ)) := by
        rw [← heq, div_eq_iff (by positivity), ← mul_assoc, hpower, one_mul]
      rw [if_neg hle, hk]
      simp only [Nat.add_sub_cancel, Nat.pow_eq, if_pos hexact]
      rw [hexponent, hratio, zpow_add_one₀ hten]
      exact ⟨le_rfl, lt_mul_of_one_lt_right (by positivity) (by norm_num)⟩
    · have hinexact : ¬ i.scale ≤ i.mid * 10 ^ k := by
        rw [not_le, mul_comm]
        exact_mod_cast hlt
      have hexponent : -Int.ofNat (k + 1) + 1 = -(k : ℤ) := by
        simp only [Int.ofNat_eq_natCast]
        omega
      rw [if_neg hle, hk]
      simp only [Nat.add_sub_cancel, Nat.pow_eq, if_neg hinexact]
      rw [hexponent, le_div_iff₀ hs, div_lt_iff₀ hs]
      constructor
      · calc (10 : ℚ) ^ (-((k + 1 : ℕ) : ℤ)) * i.scale
            ≤ 10 ^ (-((k + 1 : ℕ) : ℤ)) * (10 ^ (k + 1) * i.mid) := by gcongr
          _ = i.mid := by rw [← mul_assoc, hpower, one_mul]
      · calc (i.mid : ℚ)
            = 10 ^ (-(k : ℤ)) * (10 ^ k * i.mid) := by rw [← mul_assoc, hpower, one_mul]
          _ < 10 ^ (-(k : ℤ)) * i.scale := by gcongr

/-! ## One grid -/

theorem mul_pow_toNat_div_pow_toNat (n : ℕ) (e : ℤ) :
    ((n * Nat.pow 10 e.toNat : ℕ) : ℚ) / (Nat.pow 10 (-e).toNat : ℕ) = n * 10 ^ e := by
  rw [← pow_toNat_div_pow_toNat 10 e]
  push_cast [Nat.pow_eq]
  ring

/-- The number that the interval is around. -/
def middle (i : Interval) : ℚ := i.mid / i.scale

/-- The multiple of `10 ^ e` next below the middle, in units of the grid. -/
def below (i : Interval) (e : ℤ) : ℕ :=
  i.mid * Nat.pow 10 (-e).toNat / (i.scale * Nat.pow 10 e.toNat)

section Grid

variable {e : ℤ}

theorem unit_pos (hscale : 0 < i.scale) (e : ℤ) : 0 < i.scale * Nat.pow 10 e.toNat :=
  Nat.mul_pos hscale (Nat.pow_pos (by decide))

theorem holds_iff_grid (n : ℕ) :
    i.holds (n * Nat.pow 10 e.toNat) (Nat.pow 10 (-e).toNat) = true ↔ i.Has (n * 10 ^ e) := by
  rw [holds_iff (d := Nat.pow 10 (-e).toNat) (Nat.pow_pos (by decide)), mul_pow_toNat_div_pow_toNat]

/-- What is left of the middle above that multiple. -/
theorem middle_sub_below (hscale : 0 < i.scale) :
    i.middle - i.below e * 10 ^ e =
      ((i.mid * Nat.pow 10 (-e).toNat % (i.scale * Nat.pow 10 e.toNat) : ℕ) : ℚ) /
        (i.scale * Nat.pow 10 e.toNat : ℕ) * 10 ^ e := by
  have hs : (0 : ℚ) < i.scale := Nat.cast_pos.mpr hscale
  have hpos : (0 : ℚ) < (i.scale * Nat.pow 10 e.toNat : ℕ) := Nat.cast_pos.mpr (unit_pos hscale e)
  have hmiddle : i.middle =
      ((i.mid * Nat.pow 10 (-e).toNat : ℕ) : ℚ) / (i.scale * Nat.pow 10 e.toNat : ℕ) * 10 ^ e := by
    rw [← pow_toNat_div_pow_toNat 10 e, middle]
    push_cast [Nat.pow_eq]
    field_simp
  have hsplit : ((i.mid * Nat.pow 10 (-e).toNat : ℕ) : ℚ) =
      (i.scale * Nat.pow 10 e.toNat : ℕ) * i.below e +
        (i.mid * Nat.pow 10 (-e).toNat % (i.scale * Nat.pow 10 e.toNat) : ℕ) := by
    exact_mod_cast (Nat.div_add_mod _ _).symm
  rw [hmiddle, hsplit, add_div, mul_div_cancel_left₀ _ hpos.ne']
  ring

theorem below_bounds (hscale : 0 < i.scale) (e : ℤ) :
    i.below e * 10 ^ e ≤ i.middle ∧ i.middle < (i.below e + 1 : ℕ) * 10 ^ e := by
  have hpos : (0 : ℚ) < (i.scale * Nat.pow 10 e.toNat : ℕ) := Nat.cast_pos.mpr (unit_pos hscale e)
  have hleft := middle_sub_below (e := e) hscale
  have hless := Nat.mod_lt (i.mid * Nat.pow 10 (-e).toNat) (unit_pos hscale e)
  generalize i.mid * Nat.pow 10 (-e).toNat % (i.scale * Nat.pow 10 e.toNat) = r at *
  have hnonneg : (0 : ℚ) ≤ r / (i.scale * Nat.pow 10 e.toNat : ℕ) * 10 ^ e := by positivity
  have hone : (r : ℚ) / (i.scale * Nat.pow 10 e.toNat : ℕ) * 10 ^ e < 1 * 10 ^ e := by
    gcongr
    exact (div_lt_one hpos).mpr (Nat.cast_lt.mpr hless)
  push_cast at hleft hnonneg hone ⊢
  constructor <;> linarith

/-- The point that is taken of a grid is one of the two next to the middle, and the other one is out
or no nearer. -/
theorem onGrid_cases (hscale : 0 < i.scale) {s : Scaled} (h : i.onGrid e = some s) :
    s.exponent = e ∧
      (s.digits = i.below e ∧ i.Has (i.below e * 10 ^ e) ∧
          (i.Has ((i.below e + 1 : ℕ) * 10 ^ e) → 2 * (i.middle - i.below e * 10 ^ e) ≤ 10 ^ e) ∨
        s.digits = i.below e + 1 ∧ i.Has ((i.below e + 1 : ℕ) * 10 ^ e) ∧
          (i.Has (i.below e * 10 ^ e) → 10 ^ e ≤ 2 * (i.middle - i.below e * 10 ^ e))) := by
  have hpos : (0 : ℚ) < (i.scale * Nat.pow 10 e.toNat : ℕ) := Nat.cast_pos.mpr (unit_pos hscale e)
  have hten : (0 : ℚ) < 10 ^ e := by positivity
  have hbelow : i.mid * Nat.pow 10 (-e).toNat / (i.scale * Nat.pow 10 e.toNat) = i.below e := rfl
  rw [middle_sub_below hscale]
  simp only [onGrid, hbelow, ← holds_iff_grid] at h ⊢
  generalize i.mid * Nat.pow 10 (-e).toNat % (i.scale * Nat.pow 10 e.toNat) = r at *
  generalize i.holds (i.below e * Nat.pow 10 e.toNat) _ = isBelow at *
  generalize i.holds ((i.below e + 1) * Nat.pow 10 e.toNat) _ = isAbove at *
  have htwice : 2 * ((r : ℚ) / (i.scale * Nat.pow 10 e.toNat : ℕ) * 10 ^ e) =
      ((2 * r : ℕ) : ℚ) / (i.scale * Nat.pow 10 e.toNat : ℕ) * 10 ^ e := by
    push_cast
    ring
  rw [htwice]
  split at h
  · rename_i htaken
    cases h
    simp only [Bool.and_eq_true, Bool.or_eq_true, Bool.not_eq_true', decide_eq_true_eq,
      beq_iff_eq] at htaken
    refine ⟨rfl, .inl ⟨rfl, htaken.1, fun habove => ?_⟩⟩
    have hless : 2 * r ≤ i.scale * Nat.pow 10 e.toNat := by
      rcases htaken.2 with (hout | hlt) | ⟨heq, -⟩
      · rw [hout] at habove
        cases habove
      · exact hlt.le
      · exact heq.le
    exact mul_le_of_le_one_left hten.le ((div_le_one hpos).mpr (Nat.cast_le.mpr hless))
  · rename_i hleft
    split at h
    · rename_i habove
      cases h
      refine ⟨rfl, .inr ⟨rfl, habove, fun hin => ?_⟩⟩
      have hmore : i.scale * Nat.pow 10 e.toNat ≤ 2 * r := by
        by_contra hlt
        exact hleft (by
          rw [hin, decide_eq_true (not_le.mp hlt), Bool.or_true, Bool.true_or, Bool.true_and])
      exact le_mul_of_one_le_left hten.le ((one_le_div hpos).mpr (Nat.cast_le.mpr hmore))
    · cases h

/-- What is taken of the grid of `10 ^ e`: a point of the interval, and no other one is nearer. -/
structure Taken (i : Interval) (e : ℤ) (s : Scaled) : Prop where
  exponent : s.exponent = e
  has : i.Has s.value
  nearest : ∀ p : ℕ, i.Has (p * 10 ^ e) → |s.value - i.middle| ≤ |p * 10 ^ e - i.middle|
  digits : s.digits ≤ i.below e + 1

theorem onGrid_taken (hscale : 0 < i.scale) (hmid : i.Has i.middle) {s : Scaled}
    (h : i.onGrid e = some s) : i.Taken e s := by
  obtain ⟨hlow, hhigh⟩ := below_bounds hscale e
  have hten : (0 : ℚ) < 10 ^ e := by positivity
  have hgrid {p q : ℕ} (hpq : p ≤ q) : (p : ℚ) * 10 ^ e ≤ q * 10 ^ e := by gcongr
  obtain ⟨hexponent, hcases⟩ := onGrid_cases hscale h
  have hvalue {n : ℕ} (hn : s.digits = n) : s.value = n * 10 ^ e := by
    rw [Scaled.value, hn, hexponent]
  rcases hcases with ⟨hdigits, hhas, hother⟩ | ⟨hdigits, hhas, hother⟩
  · refine ⟨hexponent, hvalue hdigits ▸ hhas, fun p hp => ?_, hdigits ▸ Nat.le_succ _⟩
    rw [hvalue hdigits, abs_of_nonpos (sub_nonpos.mpr hlow)]
    rcases Nat.lt_or_ge (i.below e) p with hlt | hge
    · have hnext := hgrid (Nat.succ_le_of_lt hlt)
      have hhalf := hother (hmid.between hp hhigh.le hnext)
      rw [abs_of_nonneg (by linarith)]
      push_cast at hnext
      linarith
    · have hprevious := hgrid hge
      rw [abs_of_nonpos (by linarith)]
      linarith
  · refine ⟨hexponent, hvalue hdigits ▸ hhas, fun p hp => ?_, hdigits.le⟩
    rw [hvalue hdigits, abs_of_pos (sub_pos.mpr hhigh)]
    rcases Nat.lt_or_ge (i.below e) p with hlt | hge
    · have hnext := hgrid (Nat.succ_le_of_lt hlt)
      rw [abs_of_nonneg (by linarith)]
      linarith
    · have hprevious := hgrid hge
      have hhalf := hother (hp.between hmid hprevious hlow)
      rw [abs_of_nonpos (by linarith)]
      push_cast
      linarith

/-- If a point of a grid lies in the interval, so does one of the two next to its middle. -/
theorem isSome_onGrid {p : ℕ} (hscale : 0 < i.scale) (hmid : i.Has i.middle)
    (h : i.Has (p * 10 ^ e)) : (i.onGrid e).isSome = true := by
  obtain ⟨hlow, hhigh⟩ := below_bounds hscale e
  have hbelow : i.mid * Nat.pow 10 (-e).toNat / (i.scale * Nat.pow 10 e.toNat) = i.below e := rfl
  have hnear : i.Has (i.below e * 10 ^ e) ∨ i.Has ((i.below e + 1 : ℕ) * 10 ^ e) := by
    rcases Nat.lt_or_ge (i.below e) p with hlt | hge
    · refine .inr (hmid.between h hhigh.le ?_)
      gcongr
      exact hlt
    · refine .inl (h.between hmid ?_ hlow)
      gcongr
  simp only [onGrid, hbelow, ← holds_iff_grid] at hnear ⊢
  generalize i.holds (i.below e * Nat.pow 10 e.toNat) _ = isBelow at *
  generalize i.holds ((i.below e + 1) * Nat.pow 10 e.toNat) _ = isAbove at *
  rcases hnear with rfl | rfl
  · cases isAbove with
    | true => split <;> rfl
    | false => rfl
  · split <;> rfl

end Grid

/-! ## All grids -/

/-- The search stops at the first grid with a point. -/
theorem exists_search {fuel k j : ℕ} (hj : j < fuel)
    (h : (i.onGrid (i.leading - Int.ofNat (k + j) + 1)).isSome = true) :
    ∃ l ≤ j, i.onGrid (i.leading - Int.ofNat (k + l) + 1) = some (i.search fuel k) ∧
      ∀ m < l, i.onGrid (i.leading - Int.ofNat (k + m) + 1) = none := by
  induction fuel generalizing k j with
  | zero => omega
  | succ fuel ih =>
    unfold search
    cases hgrid : i.onGrid (i.leading - Int.ofNat k + 1) with
    | some s => exact ⟨0, Nat.zero_le j, hgrid, fun m hm => absurd hm (Nat.not_lt_zero m)⟩
    | none =>
      cases j with
      | zero =>
        rw [Nat.add_zero, hgrid] at h
        cases h
      | succ j =>
        have hnext (m : ℕ) : k + (m + 1) = k + 1 + m := by omega
        rw [hnext] at h
        obtain ⟨l, hl, hsearch, hnone⟩ := ih (Nat.lt_of_succ_lt_succ hj) h
        refine ⟨l + 1, by omega, by rw [hnext]; exact hsearch, fun m hm => ?_⟩
        cases m with
        | zero => exact hgrid
        | succ m =>
          rw [hnext]
          exact hnone m (Nat.lt_of_succ_lt_succ hm)

end Interval

/-! ## The interval of a number -/

namespace Binary64

variable {x : Binary64} {v : ℚ}

theorem interval_scale_pos (x : Binary64) : 0 < x.interval.scale :=
  Nat.mul_pos (by decide) (Nat.pow_pos (by decide))

/-- A quarter of a unit, as the interval has it. -/
theorem quarter_eq (x : Binary64) :
    ((Nat.pow 2 x.exponent.toNat : ℕ) : ℚ) / x.interval.scale = x.ulp / 4 := by
  have hscale : x.interval.scale = 4 * Nat.pow 2 (-x.exponent).toNat := rfl
  rw [hscale, ulp, ← pow_toNat_div_pow_toNat 2 x.exponent]
  push_cast [Nat.pow_eq]
  rw [div_div, mul_comm]

theorem interval_middle (x : Binary64) : x.interval.middle = x.magnitude := by
  have hmid : (x.interval.mid : ℚ) = 4 * x.significand * (Nat.pow 2 x.exponent.toNat : ℕ) := by
    rw [← Nat.cast_ofNat, ← Nat.cast_mul, ← Nat.cast_mul]
    rfl
  rw [Interval.middle, hmid, mul_div_assoc, quarter_eq, magnitude]
  ring

theorem interval_high (x : Binary64) :
    (x.interval.high : ℚ) / x.interval.scale = (x.significand + 1 / 2) * x.ulp := by
  have hhigh :
      (x.interval.high : ℚ) = (4 * x.significand + 2) * (Nat.pow 2 x.exponent.toNat : ℕ) := by
    exact_mod_cast rfl
  rw [hhigh, mul_div_assoc, quarter_eq]
  ring

theorem interval_low (hsome : 0 < x.significand) :
    (x.interval.low : ℚ) / x.interval.scale = (x.significand - x.reachBelow) * x.ulp := by
  obtain ⟨below, hbelow, hle, hreach⟩ :
      ∃ below : ℕ, x.interval.low = (4 * x.significand - below) * Nat.pow 2 x.exponent.toNat ∧
      below ≤ 2 ∧ x.reachBelow = below / 4 := by
    unfold reachBelow interval
    by_cases hedge : x.significand = 2 ^ 52 ∧ leastExponent < x.exponent
    · refine ⟨1, ?_, by decide, by rw [if_pos hedge]; norm_num⟩
      have hcond : (decide (x.significand = Nat.pow 2 52) && decide (leastExponent < x.exponent)) =
          true := by
        simpa using hedge
      simp only [hcond, if_true]
    · refine ⟨2, ?_, le_rfl, by rw [if_neg hedge]; norm_num⟩
      have hcond : ¬ (decide (x.significand = Nat.pow 2 52) &&
          decide (leastExponent < x.exponent)) = true := by
        simpa using hedge
      simp only [hcond, Bool.false_eq_true, if_false]
  rw [hbelow, hreach, Nat.cast_mul, Nat.cast_sub (by omega), mul_div_assoc, quarter_eq]
  push_cast
  ring

/-- The fractions in the interval of a number are those that are rounded to it. -/
theorem interval_has_iff (hsome : 0 < x.significand) : x.interval.Has v ↔ x.IsRounded v := by
  have hscale : (0 : ℚ) < x.interval.scale := Nat.cast_pos.mpr x.interval_scale_pos
  have hopen : x.interval.closed = false ↔ x.significand % 2 = 1 := by
    have hclosed : x.interval.closed = (x.significand % 2 == 0) := rfl
    rw [hclosed, beq_eq_false_iff_ne]
    omega
  constructor
  · intro h
    refine ⟨?_, ?_, fun hodd => ?_⟩
    · rw [← interval_low hsome, div_le_iff₀ hscale]
      exact h.low
    · rw [← interval_high, le_div_iff₀ hscale]
      exact h.high
    · rw [← interval_low hsome, ← interval_high, div_lt_iff₀ hscale, lt_div_iff₀ hscale]
      exact h.inside (hopen.mpr hodd)
  · intro h
    refine ⟨?_, ?_, fun hodd => ?_⟩
    · rw [← div_le_iff₀ hscale, interval_low hsome]
      exact h.low
    · rw [← le_div_iff₀ hscale, interval_high]
      exact h.high
    · rw [← div_lt_iff₀ hscale, ← lt_div_iff₀ hscale, interval_low hsome, interval_high]
      exact h.inside (hopen.mp hodd)

theorem isRounded_magnitude (x : Binary64) : x.IsRounded x.magnitude := by
  have hpos := x.ulp_pos
  have hlow : (x.significand - x.reachBelow) * x.ulp < x.significand * x.ulp := by
    gcongr
    linarith [x.reachBelow_bounds.1]
  have hhigh : x.significand * x.ulp < (x.significand + 1 / 2) * x.ulp := by
    gcongr
    linarith
  exact ⟨hlow.le, hhigh.le, fun _ => ⟨hlow, hhigh⟩⟩

theorem IsRounded.of_lt (hlow : x.magnitude - x.reachBelow * x.ulp < v)
    (hhigh : v < x.magnitude + x.ulp / 2) :
    x.IsRounded v := by
  have hlow' : (x.significand - x.reachBelow) * x.ulp < v := by
    unfold magnitude at hlow
    linarith
  have hhigh' : v < (x.significand + 1 / 2) * x.ulp := by
    unfold magnitude at hhigh
    linarith
  exact ⟨hlow'.le, hhigh'.le, fun _ => ⟨hlow', hhigh'⟩⟩

theorem IsRounded.close (h : x.IsRounded v) : |v - x.magnitude| ≤ x.ulp / 2 := by
  have hpos := x.ulp_pos
  have hlow := h.low
  have hhigh := h.high
  have hreach : x.reachBelow * x.ulp ≤ 1 / 2 * x.ulp := by
    gcongr
    exact x.reachBelow_bounds.2
  rw [abs_le]
  unfold magnitude
  constructor <;> linarith

/-! ## The shortest decimal -/

/-- A grid of seventeen digits is finer than the interval of a number. -/
theorem exists_isRounded_grid (hx : x.Canonical) {s : ℚ} (hs : 0 < s)
    (hfine : s * 10 ^ 16 ≤ x.magnitude) :
    ∃ p : ℕ, x.IsRounded (p * s) := by
  have hpos := x.ulp_pos
  have hmagnitude : 0 ≤ x.magnitude := mul_nonneg (Nat.cast_nonneg _) hpos.le
  have hfloor : (⌊x.magnitude / s⌋₊ : ℚ) * s ≤ x.magnitude :=
    (le_div_iff₀ hs).mp (Nat.floor_le (div_nonneg hmagnitude hs.le))
  have hceil : x.magnitude < ((⌊x.magnitude / s⌋₊ + 1 : ℕ) : ℚ) * s := by
    rw [← div_lt_iff₀ hs]
    push_cast
    exact Nat.lt_floor_add_one _
  generalize ⌊x.magnitude / s⌋₊ = p at *
  by_cases hbelow : x.magnitude - x.reachBelow * x.ulp < p * s
  · exact ⟨p, .of_lt hbelow (by linarith)⟩
  · refine ⟨p + 1, .of_lt ?_ ?_⟩
    · have hreach : 0 < x.reachBelow * x.ulp := mul_pos x.reachBelow_bounds.1 hpos
      linarith
    · -- otherwise both neighbours are out, and the grid as coarse as the interval
      have hgap : s < (x.reachBelow + 1 / 2) * x.ulp := by
        have hwide : (x.significand : ℚ) < (x.reachBelow + 1 / 2) * 10 ^ 16 := by
          rcases x.reachBelow_cases with ⟨hreach, hpower⟩ | ⟨hreach, -⟩
          · rw [hreach, hpower]
            norm_num
          · rw [hreach]
            have hbits : (x.significand : ℚ) < (2 ^ 53 : ℕ) := Nat.cast_lt.mpr hx.lt
            push_cast at hbits
            linarith
        have hscaled : s * 10 ^ 16 < (x.reachBelow + 1 / 2) * x.ulp * 10 ^ 16 := by
          refine lt_of_le_of_lt hfine ?_
          rw [magnitude, mul_right_comm]
          gcongr
        exact lt_of_mul_lt_mul_right hscaled (by positivity)
      push_cast
      linarith

theorem shortest_eq (hsome : 0 < x.significand) : x.shortest = x.interval.search 17 1 :=
  if_neg (by simpa [isZero] using hsome.ne')

theorem leading_magnitude (hsome : 0 < x.significand) :
    (10 : ℚ) ^ x.interval.leading ≤ x.magnitude ∧ x.magnitude < 10 ^ (x.interval.leading + 1) := by
  have hmid : 0 < x.interval.mid :=
    Nat.mul_pos (Nat.mul_pos (by decide) hsome) (Nat.pow_pos (by decide))
  rw [← interval_middle]
  exact Interval.leading_bounds hmid x.interval_scale_pos

/-- The decimal is a point of the first grid that has one. -/
theorem exists_grid (hx : x.Canonical) (hsome : 0 < x.significand) :
    ∃ l : ℕ, x.interval.Taken (x.interval.leading - l) x.shortest ∧
      ∀ m < l, ∀ p : ℕ, ¬ x.IsRounded (p * 10 ^ (x.interval.leading - m)) := by
  have hexponent (l : ℕ) :
      x.interval.leading - Int.ofNat (1 + l) + 1 = x.interval.leading - l := by
    simp only [Int.ofNat_eq_natCast]
    omega
  have hmid : x.interval.Has x.interval.middle := by
    rw [interval_middle, interval_has_iff hsome]
    exact x.isRounded_magnitude
  have hpoint {l p : ℕ} (h : x.IsRounded (p * 10 ^ (x.interval.leading - l))) :
      (x.interval.onGrid (x.interval.leading - Int.ofNat (1 + l) + 1)).isSome = true := by
    rw [hexponent]
    exact Interval.isSome_onGrid x.interval_scale_pos hmid ((interval_has_iff hsome).mpr h)
  have hfine : (10 : ℚ) ^ (x.interval.leading - (16 : ℕ)) * 10 ^ 16 ≤ x.magnitude := by
    rw [← zpow_natCast (10 : ℚ) 16, ← zpow_add₀ (by norm_num), sub_add_cancel]
    exact (leading_magnitude hsome).1
  obtain ⟨p, hp⟩ := exists_isRounded_grid hx (by positivity) hfine
  have hfuel : 16 < 17 := by decide
  obtain ⟨l, -, hgrid, hnone⟩ := Interval.exists_search hfuel (hpoint hp)
  rw [hexponent, ← shortest_eq hsome] at hgrid
  refine ⟨l, Interval.onGrid_taken x.interval_scale_pos hmid hgrid, fun m hm q hq => ?_⟩
  have hsome' := hpoint hq
  rw [hnone m hm] at hsome'
  cases hsome'

theorem shortest_isRounded (hx : x.Canonical) (hsome : 0 < x.significand) :
    x.IsRounded x.shortest.value := by
  obtain ⟨l, htaken, -⟩ := exists_grid hx hsome
  exact (interval_has_iff hsome).mp htaken.has

theorem IsRounded.pos (hsome : 0 < x.significand) (h : x.IsRounded v) : 0 < v := by
  have hone : (1 : ℚ) ≤ x.significand := Nat.one_le_cast.mpr hsome
  have hreach := x.reachBelow_bounds.2
  exact (mul_pos (by linarith) x.ulp_pos).trans_le h.low

/-- A decimal that is rounded to a number lies on the grid of its digits, counted from the leading
one of the number, or the power of ten at that one is nearer. -/
theorem exists_grid_point (hsome : 0 < x.significand) {k : ℕ} (hv : x.IsRounded v)
    (hdigits : HasDigits v (k + 1)) :
    ∃ p : ℕ, x.IsRounded (p * 10 ^ (x.interval.leading - k)) ∧
      |p * 10 ^ (x.interval.leading - k) - x.magnitude| ≤ |v - x.magnitude| := by
  obtain ⟨s, hs, rfl⟩ := hdigits
  obtain ⟨hlead, -⟩ := leading_magnitude hsome
  rcases Int.lt_or_le s.exponent (x.interval.leading - k) with hlt | hle
  · have hpower : ((10 ^ k : ℕ) : ℚ) * 10 ^ (x.interval.leading - k) =
        10 ^ x.interval.leading := by
      push_cast
      rw [← zpow_natCast, ← zpow_add₀ (by norm_num), add_sub_cancel]
    have hless : s.value ≤ 10 ^ x.interval.leading := by
      have hcast : (s.digits : ℚ) ≤ (10 ^ (k + 1) : ℕ) := Nat.cast_le.mpr hs.le
      calc s.value ≤ (10 ^ (k + 1) : ℕ) * 10 ^ s.exponent := by
            unfold Scaled.value
            gcongr
        _ = 10 ^ (s.exponent + (k + 1 : ℕ)) := by
            push_cast
            rw [← zpow_natCast, ← zpow_add₀ (by norm_num), add_comm]
            push_cast
            rfl
        _ ≤ 10 ^ x.interval.leading := zpow_le_zpow_right₀ (by norm_num) (by omega)
    refine ⟨10 ^ k, ?_, ?_⟩ <;> rw [hpower]
    · rw [← interval_has_iff hsome] at hv ⊢
      have hmagnitude := (interval_has_iff hsome).mpr x.isRounded_magnitude
      exact hv.between hmagnitude hless hlead
    · rw [abs_of_nonpos (by linarith), abs_of_nonpos (by linarith)]
      linarith
  · have hpoint := s.value_on_grid hle
    exact ⟨_, hpoint ▸ hv, by rw [← hpoint]⟩

/-- A decimal that is rounded to a number, that has as few digits as such a decimal can have, and
that is as near to the number as one with so few digits can be. -/
structure IsShortest (x : Binary64) (w : ℚ) : Prop where
  rounded : x.IsRounded w
  short : ∀ v k, x.IsRounded v → HasDigits v k → HasDigits w k
  nearest : ∀ v, x.IsRounded v → (∀ k, HasDigits w k → HasDigits v k) →
    |w - x.magnitude| ≤ |v - x.magnitude|

theorem isShortest_shortest (hx : x.Canonical) (hsome : 0 < x.significand) :
    x.IsShortest x.shortest.value := by
  obtain ⟨l, htaken, hnone⟩ := exists_grid hx hsome
  have hbelow : x.interval.below (x.interval.leading - l) < 10 ^ (l + 1) := by
    obtain ⟨hbelow, -⟩ := Interval.below_bounds x.interval_scale_pos (x.interval.leading - l)
    rw [interval_middle, ← le_div_iff₀ (by positivity)] at hbelow
    have hsplit : ((l + 1 : ℕ) : ℤ) + (x.interval.leading - l) = x.interval.leading + 1 := by
      push_cast
      ring
    have hless : (x.interval.below (x.interval.leading - l) : ℚ) < (10 ^ (l + 1) : ℕ) := by
      refine hbelow.trans_lt ((div_lt_iff₀ (by positivity)).mpr ?_)
      rw [Nat.cast_pow, ← zpow_natCast, Nat.cast_ofNat, ← zpow_add₀ (by norm_num), hsplit]
      exact (leading_magnitude hsome).2
    exact Nat.cast_lt.mp hless
  have hdigits : HasDigits x.shortest.value (l + 1) := .of_le (htaken.digits.trans hbelow)
  refine ⟨(interval_has_iff hsome).mp htaken.has, fun v k hv hk => ?_, fun v hv hfew => ?_⟩
  · cases k with
    | zero => exact absurd hk.eq_zero (hv.pos hsome).ne'
    | succ k =>
      obtain ⟨p, hp, -⟩ := exists_grid_point hsome hv hk
      exact hdigits.mono (Nat.succ_le_succ (not_lt.mp fun hlt => hnone k hlt p hp))
  · obtain ⟨p, hp, hnear⟩ := exists_grid_point hsome hv (hfew _ hdigits)
    rw [← interval_middle] at hnear ⊢
    exact (htaken.nearest p ((interval_has_iff hsome).mpr hp)).trans hnear

theorem isShortest_zero (negative : Bool) : (zero negative).IsShortest 0 := by
  have hmagnitude : (zero negative).magnitude = 0 := by
    rw [magnitude, show (zero negative).significand = 0 from rfl, Nat.cast_zero, zero_mul]
  refine ⟨isRounded_zero negative le_rfl (by positivity), fun v k _ _ => .zero k, fun v _ _ => ?_⟩
  rw [hmagnitude, sub_zero, abs_zero]
  exact abs_nonneg _

/-! ## Few digits -/

/-- A point of a grid that is coarser than the unit is the only one that is rounded to the
number. -/
theorem grid_unique {s : ℚ} {p p' : ℕ} (hcoarse : x.ulp < s) (h : x.IsRounded (p * s))
    (h' : x.IsRounded (p' * s)) : p = p' := by
  have hs : 0 < s := x.ulp_pos.trans hcoarse
  have hclose : |(p : ℚ) * s - p' * s| < s := by
    have hleft := abs_le.mp h.close
    have hright := abs_le.mp h'.close
    rw [abs_lt]
    constructor <;> linarith
  rw [← sub_mul, abs_mul, abs_of_pos hs, mul_lt_iff_lt_one_left hs] at hclose
  have hcast : |(p : ℤ) - p'| < 1 := by exact_mod_cast hclose
  have hzero := Int.abs_lt_one_iff.mp hcast
  omega

/-- The grid of a decimal of fifteen digits is coarser than the unit of the number. -/
theorem IsRounded.ulp_lt (hnormal : 2 ^ 52 ≤ x.significand) {s : Scaled} (hs : s.digits < 10 ^ 15)
    (h : x.IsRounded s.value) : x.ulp < 10 ^ s.exponent := by
  have hpos := x.ulp_pos
  have hclose := abs_le.mp h.close
  have hbits : (2 : ℚ) ^ 52 * x.ulp ≤ x.magnitude := by
    unfold magnitude
    gcongr
    exact_mod_cast hnormal
  have hvalue : s.value < 10 ^ 15 * 10 ^ s.exponent := by
    unfold Scaled.value
    gcongr
    exact_mod_cast hs
  linarith

/-- Of the decimals of fifteen digits at most one is rounded to a number with all of its bits. -/
theorem IsRounded.eq_of_hasDigits {u v : ℚ} (hnormal : 2 ^ 52 ≤ x.significand)
    (hu : x.IsRounded u) (hv : x.IsRounded v) (hudigits : HasDigits u 15)
    (hvdigits : HasDigits v 15) : u = v := by
  obtain ⟨s, hs, rfl⟩ := hudigits
  obtain ⟨t, ht, rfl⟩ := hvdigits
  have hboth {s t : Scaled} (hle : s.exponent ≤ t.exponent) (hs : s.digits < 10 ^ 15)
      (hsv : x.IsRounded s.value) (htv : x.IsRounded t.value) : s.value = t.value := by
    have hcoarse := hsv.ulp_lt hnormal hs
    rw [t.value_on_grid hle] at htv ⊢
    rw [s.value_on_grid le_rfl] at hsv ⊢
    rw [grid_unique hcoarse hsv htv]
  rcases le_total s.exponent t.exponent with hle | hle
  · exact hboth hle hs hu hv
  · exact (hboth hle ht hv hu).symm

end Binary64

end SqlWeave.Decimal
