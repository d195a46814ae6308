import Mathlib.Data.Nat.Init
import SqlWeave.Decimal.Digits

/-! The digits of a natural number: what they denote, and that only zero starts with a zero. -/

namespace SqlWeave.Decimal

theorem isDigits_toDigits (n : Nat) : isDigits (Nat.toDigits 10 n) = true := by
  simp only [isDigits, Bool.and_eq_true, Bool.not_eq_true', List.isEmpty_eq_false_iff,
    List.all_eq_true]
  exact ⟨Nat.toDigits_ne_nil, fun c hc => Nat.isDigit_of_mem_toDigits (by decide) (by decide) hc⟩

theorem naturalOf_toDigits (n : Nat) : naturalOf (Nat.toDigits 10 n) = n := by
  have hdigits : Nat.ofDigitChars 10 (Nat.toDigits 10 n) 0 = n := Nat.ofDigitChars_ten_toDigits
  rwa [Nat.ofDigitChars_eq_foldl] at hdigits

theorem isDigits_toString (n : Nat) : isDigits (toString n).toList = true := by
  rw [Nat.toString_eq_ofList_toDigits, String.toList_ofList, isDigits_toDigits]

theorem word64?_toString {n : Nat} (h : n < Nat.pow 2 64) : word64? (toString n) = some n := by
  unfold word64?
  rw [Nat.toString_eq_ofList_toDigits, String.toList_ofList, naturalOf_toDigits, isDigits_toDigits]
  simp only [h, decide_true, Bool.and_self, if_true]

theorem word64?_lt {text : String} {n : Nat} (h : word64? text = some n) : n < Nat.pow 2 64 := by
  simp only [word64?] at h
  split at h
  · rename_i hcond
    cases h
    exact of_decide_eq_true (Bool.and_eq_true_iff.mp hcond).2
  · cases h

theorem head?_toDigits {n : Nat} (hn : n ≠ 0) : (Nat.toDigits 10 n).head? ≠ some '0' := by
  induction n using Nat.strongRecOn with
  | ind n ih =>
    by_cases hlt : n < 10
    · simpa [Nat.toDigits_of_lt_base hlt] using hn
    · have htens := ih (n / 10) (by omega) (by omega)
      rw [Nat.toDigits_of_base_le (by decide) (Nat.le_of_not_lt hlt), List.head?_append]
      rwa [List.head?_eq_some_head Nat.toDigits_ne_nil, Option.some_or, ← List.head?_eq_some_head]

end SqlWeave.Decimal
