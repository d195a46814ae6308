import Mathlib
import SqlWeave.Proofs.Decimal.Shortest

/-! The texts of numbers. In positional and in scientific notation a text is a literal of the
shortest decimal, so that what is read of it is the number that was written. -/

namespace SqlWeave.Decimal

variable {ds : List Char} {e : ℤ}

theorem isDigits_of_mem {cs : List Char} {c : Char} (hmem : c ∈ cs) (hc : c.isDigit = false) :
    isDigits cs = false := by
  rw [Bool.eq_false_iff]
  intro h
  rw [(isDigits_iff.mp h).2 c hmem] at hc
  cases hc

theorem isDigit_of_mem_zeros {c : Char} {k : ℕ} (h : c ∈ List.replicate k '0') :
    c.isDigit = true := by
  rw [List.eq_of_mem_replicate h]
  rfl

/-- Digits are what is kept of them and zeros. -/
theorem exists_zeros (ds : List Char) :
    ∃ k, ds = (ds.reverse.dropWhile (· == '0')).reverse ++ List.replicate k '0' := by
  have hzeros : ds.reverse.takeWhile (· == '0') =
      List.replicate (ds.reverse.takeWhile (· == '0')).length '0' :=
    List.eq_replicate_iff.mpr ⟨rfl, fun c hc => by simpa using List.mem_takeWhile_imp hc⟩
  refine ⟨(ds.reverse.takeWhile (· == '0')).length, ?_⟩
  rw [← List.reverse_replicate, ← hzeros, ← List.reverse_append, List.takeWhile_append_dropWhile,
    List.reverse_reverse]

theorem Scaled.parts_spec {s : Scaled} (h : 0 < s.digits) :
    isDigits s.parts.1 = true ∧
      s.value = naturalOf s.parts.1 * 10 ^ (s.parts.2 + 1 - s.parts.1.length) := by
  obtain ⟨k, hk⟩ := exists_zeros (Nat.toDigits 10 s.digits)
  have hkept : s.parts.1 = ((Nat.toDigits 10 s.digits).reverse.dropWhile (· == '0')).reverse := rfl
  have hexponent : s.parts.2 = s.exponent + (Nat.toDigits 10 s.digits).length - 1 := rfl
  rw [← hkept] at hk
  have hnatural := naturalOf_toDigits s.digits
  rw [hk, naturalOf_append_zeros] at hnatural
  constructor
  · refine isDigits_iff.mpr ⟨fun hnil => ?_, fun c hc => ?_⟩
    · rw [hnil, naturalOf, List.foldl_nil, Nat.zero_mul] at hnatural
      omega
    · refine (isDigits_iff.mp (isDigits_toDigits s.digits)).2 c ?_
      rw [hk]
      exact List.mem_append_left _ hc
  · rw [hexponent, hk, List.length_append, List.length_replicate, Scaled.value, ← hnatural]
    have hsplit : s.exponent + ((s.parts.1.length + k : ℕ) : ℤ) - 1 + 1 - s.parts.1.length =
        k + s.exponent := by
      push_cast
      ring
    rw [hsplit, zpow_add₀ (by norm_num), zpow_natCast]
    push_cast
    ring

/-! ## Layouts -/

/-- A point behind `whole` digits, of which those that are missing are zeros. -/
theorem decimalText_positional (hds : isDigits ds = true) (whole : ℕ) :
    DecimalText ((ds ++ List.replicate (whole - ds.length) '0').take whole ++ '.' ::
        (if ((ds ++ List.replicate (whole - ds.length) '0').drop whole).isEmpty then ['0']
          else (ds ++ List.replicate (whole - ds.length) '0').drop whole))
      (naturalOf ds * 10 ^ ((whole : ℤ) - ds.length)) := by
  obtain ⟨-, hall⟩ := isDigits_iff.mp hds
  rcases le_or_gt ds.length whole with hle | hlt
  · obtain ⟨k, rfl⟩ : ∃ k, whole = ds.length + k := ⟨whole - ds.length, by omega⟩
    have hlength : (ds ++ List.replicate k '0').length = ds.length + k := by simp
    rw [Nat.add_sub_cancel_left, List.take_of_length_le hlength.le,
      List.drop_of_length_le hlength.le]
    have htext := DecimalText.point (ds ++ List.replicate k '0') ['0'] (fun c hc => by
      rcases List.mem_append.mp hc with hc | hc
      · exact hall c hc
      · exact isDigit_of_mem_zeros hc) rfl .missing
    have hvalue :
        naturalOf (ds ++ List.replicate k '0' ++ ['0']) = naturalOf ds * 10 ^ (k + 1) := by
      rw [List.append_assoc, ← List.replicate_succ', naturalOf_append_zeros]
    refine htext.cast rfl ?_
    rw [hvalue, Nat.cast_mul, mul_assoc, Nat.cast_pow, ← zpow_natCast, Nat.cast_ofNat,
      ← zpow_add₀ (by norm_num)]
    congr 2
    simp
  · rw [Nat.sub_eq_zero_of_le hlt.le, List.replicate_zero, List.append_nil]
    have hsome : ds.drop whole ≠ [] := fun hnil => by
      rw [List.drop_eq_nil_iff] at hnil
      omega
    rw [if_neg (by simpa using hsome)]
    have htext := DecimalText.point (ds.take whole) (ds.drop whole)
      (fun c hc => hall c (List.mem_of_mem_take hc))
      (isDigits_iff.mpr ⟨hsome, fun c hc => hall c (List.mem_of_mem_drop hc)⟩) .missing
    refine htext.cast (by rw [List.append_nil]) ?_
    rw [List.take_append_drop, List.length_drop]
    congr 2
    omega

/-- A zero, a point and zeros in front of the digits. -/
theorem decimalText_below (hds : isDigits ds = true) (k : ℕ) :
    DecimalText ('0' :: '.' :: (List.replicate k '0' ++ ds))
      (naturalOf ds * 10 ^ (-(k : ℤ) - ds.length)) := by
  obtain ⟨hsome, hall⟩ := isDigits_iff.mp hds
  have htext := DecimalText.point ['0'] (List.replicate k '0' ++ ds) (by simp)
    (isDigits_iff.mpr ⟨by simp [hsome], fun c hc => by
      rcases List.mem_append.mp hc with hc | hc
      · exact isDigit_of_mem_zeros hc
      · exact hall c hc⟩) .missing
  have hvalue : naturalOf (['0'] ++ (List.replicate k '0' ++ ds)) = naturalOf ds :=
    naturalOf_zeros_append (k + 1) ds
  refine htext.cast (by simp) ?_
  rw [hvalue, List.length_append, List.length_replicate]
  congr 2
  omega

theorem exponentText_signed (e : ℤ) :
    ExponentText ('e' :: (if 0 ≤ e then '+' else '-') :: (toString e.natAbs).toList) e := by
  have hdigits := isDigits_toString e.natAbs
  have hnatural : naturalOf (toString e.natAbs).toList = e.natAbs := by
    rw [Nat.toString_eq_ofList_toDigits, String.toList_ofList, naturalOf_toDigits]
  split
  · have htext := ExponentText.positive (.inl rfl) hdigits
    rwa [hnatural, Int.natAbs_of_nonneg ‹_›] at htext
  · have htext := ExponentText.negative (.inl rfl) hdigits
    rwa [hnatural, Int.ofNat_natAbs_of_nonpos (by omega), neg_neg] at htext

/-- One digit, a point before further ones, and an exponent. -/
theorem decimalText_scientific (hds : isDigits ds = true) {exponent : List Char}
    (h : ExponentText exponent e) :
    DecimalText (ds.take 1 ++ ((if (ds.drop 1).isEmpty then [] else '.' :: ds.drop 1) ++ exponent))
      (naturalOf ds * 10 ^ (e + 1 - ds.length)) := by
  obtain ⟨hsome, hall⟩ := isDigits_iff.mp hds
  obtain ⟨c, cs, rfl⟩ := List.exists_cons_of_ne_nil hsome
  simp only [List.take_succ_cons, List.take_zero, List.drop_succ_cons, List.drop_zero]
  cases cs with
  | nil =>
    exact (DecimalText.whole hds h).cast rfl (by simp)
  | cons d cs =>
    have htext := DecimalText.point [c] (d :: cs) (by simpa using hall c List.mem_cons_self)
      (isDigits_iff.mpr ⟨by simp, fun x hx => hall x (List.mem_cons_of_mem _ hx)⟩) h
    refine htext.cast rfl ?_
    congr 2
    simp only [List.length_cons]
    omega

namespace Binary64

theorem shortest_digits_pos {x : Binary64} (hx : x.Canonical) (hsome : 0 < x.significand) :
    0 < x.shortest.digits := by
  have hpos := (shortest_isRounded hx hsome).pos hsome
  refine Nat.pos_of_ne_zero fun hzero => ?_
  rw [Scaled.value, hzero, Nat.cast_zero, zero_mul] at hpos
  exact lt_irrefl _ hpos

/-- The text of a number is a literal of its shortest decimal, and not only digits. -/
theorem magnitudeText_denotes {x : Binary64} (hx : x.Canonical) (hsome : 0 < x.significand) :
    DecimalText x.magnitudeText.toList x.shortest.value ∧
      isDigits x.magnitudeText.toList = false := by
  have hzero : x.isZero = false := by simpa [isZero] using hsome.ne'
  obtain ⟨hds, hvalue⟩ := Scaled.parts_spec (shortest_digits_pos hx hsome)
  rw [hvalue]
  unfold magnitudeText
  simp only [hzero, Bool.false_eq_true, if_false]
  generalize x.shortest.parts = p at *
  obtain ⟨ds, e⟩ := p
  simp only at hds ⊢
  split
  · split
    · rename_i hnonneg
      have htext := decimalText_positional hds (e.toNat + 1)
      refine ⟨?_, isDigits_of_mem (c := '.') ?_ rfl⟩
      · refine htext.cast ?_ ?_
        · split <;> simp [*]
        · congr 2
          omega
      · simp
    · rename_i hneg
      have htext := decimalText_below hds ((-e).toNat - 1)
      refine ⟨?_, isDigits_of_mem (c := '.') ?_ rfl⟩
      · refine htext.cast (by simp) ?_
        congr 2
        omega
      · simp
  · have htext := decimalText_scientific hds (exponentText_signed e)
    refine ⟨?_, isDigits_of_mem (c := 'e') ?_ rfl⟩
    · refine htext.cast ?_ rfl
      split <;> split <;> simp
    · simp

end Binary64

end SqlWeave.Decimal
