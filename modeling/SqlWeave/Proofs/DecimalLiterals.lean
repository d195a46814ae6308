import Mathlib
import SqlWeave.Proofs.Decimal.Notation
import SqlWeave.Proofs.RoundTrip
import SqlWeave.Proofs.Token.Scan

/-! Numbers with a fraction or an exponent. The token of one is a decimal literal. It is kept as it
is if it is out of range; otherwise it is rounded to the nearest number, and what is written is the
shortest decimal that is read as that number again. -/

namespace SqlWeave

open Decimal (Binary64 DecimalText ExponentText HasDigits Scaled isDigits literal? naturalOf
  word64?)
open SqlWeave.Parser (Nested Reads numberLiteral)
open Token (fractionLength exponentLength scan scanNumber tokenize)

/-! ## Tokens -/

namespace Token

variable {s : String}

/-- A point with digits behind it, or nothing. -/
theorem take_fractionLength (rest : List Char) :
    rest.take (fractionLength rest) = [] ∨
      ∃ ds, isDigits ds = true ∧ rest.take (fractionLength rest) = '.' :: ds := by
  unfold fractionLength
  split
  · rename_i d cs
    split
    · rename_i hd
      refine .inr ⟨d :: cs.takeWhile Char.isDigit,
        Decimal.isDigits_iff.mpr ⟨List.cons_ne_nil _ _, ?_⟩, ?_⟩
      · exact List.forall_mem_cons.mpr ⟨hd, fun c hc => List.mem_takeWhile_imp hc⟩
      · rw [List.take_succ_cons, List.take_succ_cons, take_countWhile]
    · exact .inl rfl
  · exact .inl rfl

/-- An exponent, or one that stops at its sign. -/
theorem take_exponentLength (rest : List Char) :
    (∃ e, ExponentText (rest.take (exponentLength rest)) e) ∨
      ∃ mark sign, rest.take (exponentLength rest) = [mark, sign] ∧ sign.isDigit = false := by
  unfold exponentLength
  split
  · rename_i mark d cs
    split
    · rename_i hletter
      have hmark : mark = 'e' ∨ mark = 'E' := by simpa using hletter
      split
      · rename_i hnext
        rw [List.take_succ_cons, List.take_succ_cons, take_countWhile]
        have hall : ∀ c ∈ cs.takeWhile Char.isDigit, c.isDigit = true :=
          fun c hc => List.mem_takeWhile_imp hc
        generalize cs.takeWhile Char.isDigit = ds at *
        simp only [Bool.or_eq_true, beq_iff_eq] at hnext
        rcases hnext with (hd | rfl) | rfl
        · have hds : isDigits (d :: ds) = true :=
            Decimal.isDigits_iff.mpr ⟨List.cons_ne_nil _ _, List.forall_mem_cons.mpr ⟨hd, hall⟩⟩
          exact .inl ⟨_, .unsigned hmark hds⟩
        · cases ds with
          | nil => exact .inr ⟨mark, '+', rfl, rfl⟩
          | cons c ds =>
            exact .inl ⟨_, .positive hmark (Decimal.isDigits_iff.mpr ⟨List.cons_ne_nil _ _, hall⟩)⟩
        · cases ds with
          | nil => exact .inr ⟨mark, '-', rfl, rfl⟩
          | cons c ds =>
            exact .inl ⟨_, .negative hmark (Decimal.isDigits_iff.mpr ⟨List.cons_ne_nil _ _, hall⟩)⟩
      · exact .inl ⟨0, .missing⟩
    · exact .inl ⟨0, .missing⟩
  · exact .inl ⟨0, .missing⟩

/-- What is scanned as a number, if it has one point at most and ends with a digit. -/
def IsLiteral (cs : List Char) : Prop :=
  cs.count '.' ≤ 1 → (∀ c ∈ cs.getLast?, c.isDigit = true) → ∃ v, DecimalText cs v

theorem isLiteral_digits {ds fraction exponent : List Char} (hds : isDigits ds = true)
    (hfraction : fraction = [] ∨ ∃ fs, isDigits fs = true ∧ fraction = '.' :: fs)
    (hexponent : (∃ e, ExponentText exponent e) ∨ ∃ mark sign, exponent = [mark, sign] ∧
      sign.isDigit = false) :
    IsLiteral (ds ++ (fraction ++ exponent)) := by
  intro _ hlast
  rcases hexponent with ⟨e, hexponent⟩ | ⟨mark, sign, rfl, hsign⟩
  · rcases hfraction with rfl | ⟨fs, hfs, rfl⟩
    · exact ⟨_, .whole hds hexponent⟩
    · exact ⟨_, .point _ _ (Decimal.isDigits_iff.mp hds).2 hfs hexponent⟩
  · have hdigit := hlast sign (by simp)
    rw [hsign] at hdigit
    cases hdigit

theorem isLiteral_point {ds fraction exponent : List Char} (hds : isDigits ds = true)
    (hfraction : fraction = [] ∨ ∃ fs, isDigits fs = true ∧ fraction = '.' :: fs)
    (hexponent : (∃ e, ExponentText exponent e) ∨ ∃ mark sign, exponent = [mark, sign] ∧
      sign.isDigit = false) :
    IsLiteral ('.' :: (ds ++ (fraction ++ exponent))) := by
  intro hpoints hlast
  rcases hexponent with ⟨e, hexponent⟩ | ⟨mark, sign, rfl, hsign⟩
  · rcases hfraction with rfl | ⟨fs, hfs, rfl⟩
    · exact ⟨_, .point [] _ (List.forall_mem_nil _) hds hexponent⟩
    · simp only [List.count_cons_self, List.count_append, List.cons_append] at hpoints
      omega
  · have hdigit := hlast sign (by
      rw [← List.cons_append, ← List.append_assoc, List.getLast?_append]
      rfl)
    rw [hsign] at hdigit
    cases hdigit

theorem scanNumber_isLiteral {c : Char} {cs : List Char}
    (hstart : c.isDigit = true ∨ c = '.' ∧ cs.head?.any Char.isDigit = true)
    (h : (scanNumber c cs).1 = .number s) : IsLiteral s.toList := by
  obtain rfl : String.ofList (c :: cs.take (scanNumber c cs).2) = s := TokenKind.number.inj h
  rw [String.toList_ofList]
  simp only [scanNumber]
  rw [List.take_add, List.take_add, take_countWhile, List.append_assoc]
  have hfraction := take_fractionLength (cs.drop (countWhile Char.isDigit cs))
  have hexponent := take_exponentLength
    (cs.drop (countWhile Char.isDigit cs + fractionLength (cs.drop (countWhile Char.isDigit cs))))
  generalize (cs.drop (countWhile Char.isDigit cs)).take _ = fraction at *
  generalize List.take _ (cs.drop (_ + _)) = exponent at *
  have hall : ∀ d ∈ cs.takeWhile Char.isDigit, d.isDigit = true :=
    fun d hd => List.mem_takeWhile_imp hd
  rcases hstart with hc | ⟨rfl, hhead⟩
  · rw [← List.cons_append]
    refine isLiteral_digits (Decimal.isDigits_iff.mpr ⟨List.cons_ne_nil _ _, ?_⟩) hfraction
      hexponent
    exact List.forall_mem_cons.mpr ⟨hc, hall⟩
  · refine isLiteral_point (Decimal.isDigits_iff.mpr ⟨fun hnil => ?_, hall⟩) hfraction hexponent
    cases cs with
    | nil => cases hhead
    | cons d ds =>
      have hd : d.isDigit = true := hhead
      rw [List.takeWhile_cons, if_pos hd] at hnil
      cases hnil

theorem scan_isLiteral {q : Quoting} {c : Char} {cs : List Char} (h : (scan q c cs).1 = .number s) :
    IsLiteral s.toList := by
  revert h
  refine scan_elim (P := fun x => x.1 = .number s → IsLiteral s.toList) q c cs
    (fun _ _ _ h => by cases h)
    (fun _ _ _ _ _ h => by cases h) (fun hd => ?_) scanNumber_isLiteral (fun _ h => by cases h)
    (fun _ => ?_) (fun _ => ?_) (fun _ _ => ?_) (fun h => by cases h)
  · cases hd <;> exact scanDelimited_fst (P := fun k => k = .number s → IsLiteral s.toList)
      (fun _ h => by cases h) (fun h => by cases h) cs
  · exact scanColon_fst (P := fun k => k = .number s → IsLiteral s.toList)
      (fun _ h => by cases h) (fun _ h => by cases h) cs
  · exact scanHex_fst (P := fun k => k = .number s → IsLiteral s.toList)
      (fun _ h => by cases h) (fun _ h => by cases h) cs
  · unfold scanWord
    simp only
    split <;> exact fun h => by cases h

theorem number_isLiteral {d : Dialect} {text : String} {a : Token} (ha : a ∈ tokenize d text)
    (hkind : a.kind = .number s) : IsLiteral s.toList :=
  forall_tokenize (P := fun k => k.kind = .number s → IsLiteral s.toList) (fun h => by cases h)
    (fun _ _ => scan_isLiteral) ha hkind

end Token

/-! ## Literals -/

section Literals

variable {s : String} {v : ℚ}

theorem numberLiteral_float (h : isDigits s.toList = false) {n : ℕ} {e : ℤ}
    (hliteral : literal? s = some (n, e)) {x : Binary64}
    (hx : Binary64.ofDecimal false n e = some x) : numberLiteral s = .number (.float x) := by
  have hword : word64? s = none := by simp [word64?, h]
  unfold numberLiteral
  simp only [hword, h, Bool.false_eq_true, if_false, hliteral, Option.bind_some, hx]

theorem numberLiteral_verbatim (h : isDigits s.toList = false) {n : ℕ} {e : ℤ}
    (hliteral : literal? s = some (n, e)) (hnone : Binary64.ofDecimal false n e = none) :
    numberLiteral s = .verbatim s := by
  have hword : word64? s = none := by simp [word64?, h]
  unfold numberLiteral
  simp only [hword, h, Bool.false_eq_true, if_false, hliteral, Option.bind_some, hnone]

/-- A finite number without a sign, as literals have it. -/
structure Decimal.Binary64.Finite (x : Binary64) : Prop where
  sign : x.negative = false
  canonical : x.Canonical
  range : x.exponent ≤ Binary64.greatestExponent

/-- A literal that is out of range is kept as it is. Another one is rounded to a finite number,
which has all of its bits unless it is small. -/
theorem numberLiteral_decimal (hs : DecimalText s.toList v) (h : isDigits s.toList = false) :
    (Binary64.overflow ≤ v → numberLiteral s = .verbatim s) ∧
      (v < Binary64.overflow → ∃ x : Binary64, numberLiteral s = .number (.float x) ∧ x.Finite ∧
        x.IsRounded v ∧ (Binary64.leastNormal ≤ v → 2 ^ 52 ≤ x.significand)) := by
  obtain ⟨n, e, hliteral, rfl⟩ := hs.literal?_eq
  rcases Nat.eq_zero_or_pos n with rfl | hn
  · have hzero := Binary64.isRounded_zero false (v := ((0 : ℕ) : ℚ) * 10 ^ e) (by simp)
      (by rw [Nat.cast_zero, zero_mul]; positivity)
    have hsmall := hzero.lt_overflow (Binary64.canonical_zero false) (by decide)
    refine ⟨fun hlarge => absurd hsmall (not_lt.mpr hlarge), fun _ => ?_⟩
    refine ⟨.zero false, numberLiteral_float h hliteral (Binary64.ofDecimal_zero false e),
      ⟨rfl, Binary64.canonical_zero false, by decide⟩, hzero, fun hnormal => ?_⟩
    have hpos : 0 < Binary64.leastNormal := by unfold Binary64.leastNormal; positivity
    rw [Nat.cast_zero, zero_mul] at hnormal
    exact absurd hpos (not_lt.mpr hnormal)
  · obtain ⟨x, hsign, hx, hrounded, hnormal, hdecimal⟩ := Binary64.exists_ofDecimal false hn e
    by_cases hlarge : Binary64.greatestExponent < x.exponent
    · rw [if_pos hlarge] at hdecimal
      have hover := hrounded.overflow_le hx hlarge
      exact ⟨fun _ => numberLiteral_verbatim h hliteral hdecimal,
        fun hlt => absurd hlt (not_lt.mpr hover)⟩
    · rw [if_neg hlarge] at hdecimal
      have hrange := not_lt.mp hlarge
      have hlt := hrounded.lt_overflow hx hrange
      exact ⟨fun hover => absurd hlt (not_lt.mpr hover), fun _ =>
        ⟨x, numberLiteral_float h hliteral hdecimal, ⟨hsign, hx, hrange⟩, hrounded, hnormal⟩⟩

namespace Decimal.Binary64

variable {x : Binary64}

theorem Finite.text_eq (hx : x.Finite) : x.text = x.magnitudeText := by
  rw [text, hx.sign]
  exact String.empty_append

theorem Finite.eq_zero (hx : x.Finite) (hzero : x.significand = 0) : x = .zero false := by
  have hexponent : x.exponent = leastExponent := by
    refine le_antisymm (not_lt.mp fun hlt => ?_) hx.canonical.least
    have hbits := hx.canonical.normal hlt
    omega
  obtain ⟨negative, significand, exponent⟩ := x
  obtain rfl : negative = false := hx.sign
  obtain rfl : significand = 0 := hzero
  obtain rfl : exponent = leastExponent := hexponent
  rfl

/-- The text of a number is the shortest literal that is rounded to it, and read as it again. -/
theorem Finite.text_denotes (hx : x.Finite) :
    ∃ w, DecimalText x.text.toList w ∧ x.IsShortest w ∧
      numberLiteral x.text = .number (.float x) := by
  rw [hx.text_eq]
  rcases Nat.eq_zero_or_pos x.significand with hzero | hsome
  · obtain rfl := hx.eq_zero hzero
    have htext : DecimalText "0.0".toList _ := .point ['0'] ['0'] (by simp) rfl .missing
    have hvalue : (naturalOf (['0'] ++ ['0']) : ℚ) = 0 := Nat.cast_zero
    have hwritten : (zero false).magnitudeText = "0.0" := if_pos rfl
    have hliteral : literal? "0.0" = some (0, -1) := by decide
    rw [hwritten]
    exact ⟨0, htext.cast rfl (by rw [hvalue, zero_mul]), isShortest_zero false,
      numberLiteral_float (by decide) hliteral (ofDecimal_zero false (-1))⟩
  · obtain ⟨htext, hmixed⟩ := magnitudeText_denotes hx.canonical hsome
    have hshortest := isShortest_shortest hx.canonical hsome
    obtain ⟨n, e, hliteral, hvalue⟩ := htext.literal?_eq
    refine ⟨_, htext, hshortest, ?_⟩
    have hrounded := hshortest.rounded
    rw [hvalue] at hrounded
    have hn : 0 < n := by
      refine Nat.pos_of_ne_zero ?_
      rintro rfl
      have hpos := hrounded.pos hsome
      rw [Nat.cast_zero, zero_mul] at hpos
      exact lt_irrefl _ hpos
    have hdecimal := ofDecimal_of_isRounded hn hx.canonical hx.range hrounded
    rw [hx.sign] at hdecimal
    exact numberLiteral_float hmixed hliteral hdecimal

end Decimal.Binary64

end Literals

/-- A number with a fraction or an exponent, with one point at most and a digit at its end, is a
decimal literal. What is made of it is written by every renderer as a literal that is read as the
same again. Out of range it is kept as it is. In range it is rounded to the nearest number, and the
shortest decimal of that number is written, which denotes what the literal does if that has no more
than fifteen digits and is zero or not too close to it. -/
theorem number_token_rounded {d : Dialect} {text : String} {a : Token} (ha : a ∈ tokenize d text)
    {s : String} (hkind : a.kind = .number s) (hmixed : isDigits s.toList = false)
    (hpoint : s.toList.count '.' ≤ 1) (hlast : ∀ c ∈ s.toList.getLast?, c.isDigit = true) :
    ∃ v written w, DecimalText s.toList v ∧
      (∀ (i : Nested) rest,
        Reads i.readPrimary (⟨.number s, s⟩ :: rest) (numberLiteral s) rest) ∧
      (∀ r : Renderer, r.expr (numberLiteral s) = .ok written) ∧
      DecimalText written.toList w ∧ numberLiteral written = numberLiteral s ∧
      (Binary64.overflow ≤ v → numberLiteral s = .verbatim s ∧ written = s ∧ w = v) ∧
      (v < Binary64.overflow → ∃ x : Binary64, numberLiteral s = .number (.float x) ∧ x.Finite ∧
        x.IsRounded v ∧ (∀ y : Binary64, y.Finite → |v - x.magnitude| ≤ |v - y.magnitude|) ∧
        x.IsShortest w) ∧
      (v = 0 ∨ Binary64.leastNormal ≤ v → HasDigits v 15 → w = v) := by
  obtain ⟨v, hv⟩ := Token.number_isLiteral ha hkind hpoint hlast
  have hreads (i : Nested) (rest : List Token.Piece) :
      Reads i.readPrimary (⟨.number s, s⟩ :: rest) (numberLiteral s) rest := .look (.step (.pure _))
  obtain ⟨hout, hin⟩ := numberLiteral_decimal hv hmixed
  rcases le_or_gt Binary64.overflow v with hlarge | hsmall
  · have hkept := hout hlarge
    refine ⟨v, s, v, hv, hreads, fun r => ?_, hv, rfl, fun _ => ⟨hkept, rfl, rfl⟩,
      fun hlt => absurd hlarge (not_le.mpr hlt), fun _ _ => rfl⟩
    rw [hkept]
    exact r.expr_mk _
  · obtain ⟨x, hliteral, hx, hrounded, hnormal⟩ := hin hsmall
    obtain ⟨w, htext, hshortest, hagain⟩ := hx.text_denotes
    refine ⟨v, x.text, w, hv, hreads, fun r => ?_, htext, hagain.trans hliteral.symm,
      fun hlarge => absurd hsmall (not_lt.mpr hlarge), fun _ => ?_, fun hsize hdigits => ?_⟩
    · rw [hliteral]
      exact r.expr_mk _
    · exact ⟨x, hliteral, hx, hrounded, fun y hy => hrounded.nearest hx.canonical hy.canonical,
        hshortest⟩
    · rcases hsize with rfl | hsize
      · exact (hshortest.short 0 0 hrounded (.zero 0)).eq_zero
      · exact hshortest.rounded.eq_of_hasDigits (hnormal hsize) hrounded
          (hshortest.short v 15 hrounded hdigits) hdigits

/-- A literal without digits in front of its point is rounded, and one with too large an exponent is
kept. -/
theorem number_token_rounded_point :
    (⟨.number ".50e-3", ⟨7, 13⟩⟩ : Token) ∈ tokenize .mySql "SELECT .50e-3, 1e400" ∧
      (⟨.number "1e400", ⟨15, 20⟩⟩ : Token) ∈ tokenize .mySql "SELECT .50e-3, 1e400" ∧
      (∃ written, (∀ r : Renderer, r.expr (numberLiteral ".50e-3") = .ok written) ∧
        DecimalText written.toList (1 / 2000) ∧
        ∃ x : Binary64, numberLiteral ".50e-3" = .number (.float x) ∧ x.IsShortest (1 / 2000)) ∧
      numberLiteral "1e400" = .verbatim "1e400" := by
  have hmem : (⟨.number ".50e-3", ⟨7, 13⟩⟩ : Token) ∈ tokenize .mySql "SELECT .50e-3, 1e400" := by
    decide +kernel
  have hmem' : (⟨.number "1e400", ⟨15, 20⟩⟩ : Token) ∈ tokenize .mySql "SELECT .50e-3, 1e400" := by
    decide +kernel
  refine ⟨hmem, hmem', ?_, ?_⟩
  · have hlast : ∀ c ∈ ".50e-3".toList.getLast?, c.isDigit = true := by
      rw [show ".50e-3".toList.getLast? = some '3' by decide]
      rintro _ ⟨⟩
      rfl
    have hvalue : DecimalText ".50e-3".toList _ :=
      .point [] ['5', '0'] (by simp) rfl
        (.negative (.inl rfl) (show isDigits ['3'] = true from rfl))
    obtain ⟨v, written, w, hv, -, hrendered, hw, -, -, hin, hsame⟩ :=
      number_token_rounded hmem rfl (by decide) (by decide) hlast
    have hdenoted : v = (⟨50, -5⟩ : Scaled).value := hv.unique hvalue
    have hhalf : v = 1 / 2000 := by
      rw [hdenoted, Scaled.value]
      norm_num
    have hnormal : Binary64.leastNormal ≤ v := by
      have hpower : Binary64.leastNormal ≤ 2 ^ (-11 : ℤ) :=
        zpow_le_zpow_right₀ one_le_two (by decide)
      rw [hhalf]
      exact hpower.trans (by norm_num)
    have hrange : v < Binary64.overflow := by
      have hone : (1 : ℚ) ≤ 2 ^ Binary64.greatestExponent := one_le_zpow₀ one_le_two (by decide)
      rw [hhalf, Binary64.overflow_eq]
      generalize (2 : ℚ) ^ Binary64.greatestExponent = unit at *
      linarith
    obtain ⟨x, hliteral, -, -, -, hshortest⟩ := hin hrange
    rw [hsame (.inr hnormal) ⟨⟨50, -5⟩, by norm_num, hdenoted⟩, hhalf] at hw hshortest
    exact ⟨written, hrendered, hw, x, hliteral, hshortest⟩
  · have hlast : ∀ c ∈ "1e400".toList.getLast?, c.isDigit = true := by
      rw [show "1e400".toList.getLast? = some '0' by decide]
      rintro _ ⟨⟩
      rfl
    have hvalue : DecimalText "1e400".toList _ :=
      .whole (show isDigits ['1'] = true from rfl)
        (.unsigned (.inl rfl) (show isDigits ['4', '0', '0'] = true from rfl))
    obtain ⟨v, written, w, hv, -, -, -, -, hout, -, -⟩ :=
      number_token_rounded hmem' rfl (by decide) (by decide) hlast
    have hlarge : v = 10 ^ (400 : ℤ) := (hv.unique hvalue).trans (one_mul _)
    rw [hlarge] at hout
    exact (hout Binary64.overflow_lt.le).1

/-- Of twenty digits seventeen are left. -/
theorem digits_rounded_away :
    (⟨.number "0.12345678901234567890", ⟨7, 29⟩⟩ : Token) ∈ tokenize .mySql
      "SELECT 0.12345678901234567890" ∧
      (∀ (i : Nested) rest, Reads i.readPrimary
        (⟨.number "0.12345678901234567890", "0.12345678901234567890"⟩ :: rest)
        (numberLiteral "0.12345678901234567890") rest) ∧
      (∀ r : Renderer, r.expr (numberLiteral "0.12345678901234567890") =
        .ok "0.12345678901234568") ∧
      ∃ v w, DecimalText "0.12345678901234567890".toList v ∧
        DecimalText "0.12345678901234568".toList w ∧ w ≠ v := by
  have hliteral : literal? "0.12345678901234567890" = some (12345678901234567890, -20) := by
    decide +kernel
  have hrounded : Binary64.ofDecimal false 12345678901234567890 (-20) =
      some ⟨false, 8895999183877727, -56⟩ := by
    decide +kernel
  have hwritten : (⟨false, 8895999183877727, -56⟩ : Binary64).text = "0.12345678901234568" := by
    decide +kernel
  refine ⟨by decide +kernel, fun i rest => .look (.step (.pure _)), fun r => ?_, _, _,
    .point ['0'] "12345678901234567890".toList (by simp) (by decide +kernel) .missing,
    .point ['0'] "12345678901234568".toList (by simp) (by decide +kernel) .missing, ?_⟩
  · rw [numberLiteral_float (by decide) hliteral hrounded, ← hwritten]
    exact r.expr_mk _
  · have hlong : naturalOf (['0'] ++ "12345678901234567890".toList) = 12345678901234567890 := by
      decide +kernel
    have hshort : naturalOf (['0'] ++ "12345678901234568".toList) = 12345678901234568 := by
      decide +kernel
    have hplaces : "12345678901234567890".toList.length = 20 := by decide
    have hfewer : "12345678901234568".toList.length = 17 := by decide
    rw [hlong, hshort, hplaces, hfewer]
    norm_num

end SqlWeave
