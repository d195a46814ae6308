import SqlWeave.Proofs.RoundTrip

/-! Integer literals are exact. A string of digits of any length is read as the number that it
denotes, as a 64-bit word or as its digits, and what is written for it denotes the same number and
is read as the same literal. -/

namespace SqlWeave

open Decimal (isDigits naturalOf word64?)
open SqlWeave.Parser (Returns nested next readersFor startState)
open Token (Lexes Piece)

/-! ## Digits written again -/

namespace Decimal

variable {text : String} {n : Nat}

theorem word64?_eq_some (h : isDigits text.toList = true) :
    word64? text = some n ↔ n = naturalOf text.toList ∧ n < Nat.pow 2 64 := by
  simp only [word64?, h, Bool.true_and, decide_eq_true_eq]
  constructor
  · intro hword
    split at hword
    · cases hword
      exact ⟨rfl, ‹_›⟩
    · cases hword
  · rintro ⟨rfl, hlt⟩
    exact if_pos hlt

theorem word64?_eq_none (h : isDigits text.toList = true) :
    word64? text = none ↔ Nat.pow 2 64 ≤ naturalOf text.toList := by
  constructor
  · intro hword
    refine Nat.le_of_not_lt fun hlt => ?_
    rw [(word64?_eq_some h).mpr ⟨rfl, hlt⟩] at hword
    cases hword
  · intro hle
    cases hword : word64? text with
    | none => rfl
    | some n =>
      obtain ⟨rfl, hlt⟩ := (word64?_eq_some h).mp hword
      exact absurd hle (Nat.not_le_of_lt hlt)

/-- The digits that are written for the literal of a digit string: those of a 64-bit word have no
zeros in front. -/
def writtenDigits (text : String) : String := ((word64? text).map toString).getD text

theorem writtenDigits_of_word (h : word64? text = some n) : writtenDigits text = toString n := by
  rw [writtenDigits, h]
  rfl

theorem writtenDigits_of_long (h : word64? text = none) : writtenDigits text = text := by
  rw [writtenDigits, h]
  rfl

theorem isDigits_writtenDigits (h : isDigits text.toList = true) :
    isDigits (writtenDigits text).toList = true := by
  cases hword : word64? text with
  | none => rwa [writtenDigits_of_long hword]
  | some n =>
    rw [writtenDigits_of_word hword]
    exact isDigits_toString n

theorem naturalOf_writtenDigits (h : isDigits text.toList = true) :
    naturalOf (writtenDigits text).toList = naturalOf text.toList := by
  cases hword : word64? text with
  | none => rw [writtenDigits_of_long hword]
  | some n =>
    rw [writtenDigits_of_word hword, Nat.toString_eq_ofList_toDigits, String.toList_ofList,
      naturalOf_toDigits]
    exact ((word64?_eq_some h).mp hword).1

end Decimal

open Decimal (writtenDigits)

/-! ## The literal of a digit string -/

/-- The literal of the digits of a natural number: a number if that fits 64 bits, and else the
digits themselves. -/
def Expr.ofDigits (digits : String) : Expr :=
  if naturalOf digits.toList < Nat.pow 2 64 then .number (.int (naturalOf digits.toList))
    else .text .bigint digits

section Literal

variable {text : String}

theorem numberLiteral_digits (h : isDigits text.toList = true) :
    Parser.numberLiteral text = .ofDigits text := by
  unfold Parser.numberLiteral Expr.ofDigits
  cases hword : word64? text with
  | some n =>
    obtain ⟨rfl, hlt⟩ := (Decimal.word64?_eq_some h).mp hword
    exact (if_pos hlt).symm
  | none =>
    have hle : ¬ naturalOf text.toList < Nat.pow 2 64 :=
      Nat.not_lt.mpr ((Decimal.word64?_eq_none h).mp hword)
    rw [if_neg hle]
    exact if_pos h

/-- A word is the same whatever zeros it was written with, and a longer integer keeps its zeros. -/
theorem Expr.ofDigits_writtenDigits (h : isDigits text.toList = true) :
    Expr.ofDigits (writtenDigits text) = .ofDigits text := by
  unfold Expr.ofDigits
  rw [Decimal.naturalOf_writtenDigits h]
  split
  · rfl
  · rename_i hle
    rw [Decimal.writtenDigits_of_long ((Decimal.word64?_eq_none h).mpr (Nat.le_of_not_lt hle))]

theorem Renderer.expr_ofDigits (r : Renderer) (h : isDigits text.toList = true) :
    r.expr (.ofDigits text) = .ok (writtenDigits text) := by
  rw [← numberLiteral_digits h]
  unfold Parser.numberLiteral
  cases hword : word64? text with
  | some n =>
    rw [Decimal.writtenDigits_of_word hword]
    exact r.expr_mk _
  | none =>
    rw [Decimal.writtenDigits_of_long hword]
    simp only [h, if_true]
    exact r.expr_mk _

theorem digits_continue (h : isDigits text.toList = true) :
    Continues (.ofDigits text) [⟨.number text, text⟩] := by
  refine .operand fun n _ rest _ => opensExpr_not_leading rfl rfl ?_
  rw [← numberLiteral_digits h]
  exact .look (.step (.pure _))

/-- In every dialect a string of digits is read to its end as one literal. -/
theorem parseExpr_digits (d : Dialect) (h : isDigits text.toList = true) :
    ∃ refs, Parser.parseExpr d text 0 = .ok (.ofDigits text, refs) := by
  have hlexes : Lexes d.quoting text [⟨.number text, text⟩] := .digits h
  have hstands := startState_stands hlexes
  have hdeep : [(⟨.number text, text⟩ : Piece)].length < (startState d text).rest.length + 1 := by
    rw [hstands.rest_length]
    exact Nat.lt_succ_self _
  obtain ⟨u, hu, -⟩ := ((digits_continue h).legible hlexes).reads _ hdeep [] rfl _ _ hstands
  exact ⟨u.references, Parser.parseExpr_eq_ok.mpr ⟨u, hu, rfl⟩⟩

end Literal

/-- A string of digits, of any length and with any zeros in front, is read in every dialect as a
literal of the natural number that it denotes. Every renderer writes that literal with digits of the
same number, and these are read as an equal literal again. -/
theorem integer_literal_exact {digits : String} (h : isDigits digits.toList = true) :
    ∃ e written,
      (e = .number (.int (naturalOf digits.toList)) ∧ naturalOf digits.toList < Nat.pow 2 64 ∨
        e = .text .bigint digits ∧ Nat.pow 2 64 ≤ naturalOf digits.toList) ∧
      (∀ d, ∃ refs, Parser.parseExpr d digits 0 = .ok (e, refs)) ∧
      (∀ r : Renderer, r.expr e = .ok written) ∧
      isDigits written.toList = true ∧ naturalOf written.toList = naturalOf digits.toList ∧
      ∀ d, ∃ refs, Parser.parseExpr d written 0 = .ok (e, refs) := by
  have hwritten := Decimal.isDigits_writtenDigits h
  refine ⟨.ofDigits digits, writtenDigits digits, ?_, fun d => parseExpr_digits d h,
    fun r => r.expr_ofDigits h, hwritten, Decimal.naturalOf_writtenDigits h, fun d => ?_⟩
  · unfold Expr.ofDigits
    split
    · exact .inl ⟨rfl, ‹_›⟩
    · exact .inr ⟨rfl, Nat.le_of_not_lt ‹_›⟩
  · rw [← Expr.ofDigits_writtenDigits h]
    exact parseExpr_digits d hwritten

/-- The first integer that is no 64-bit word keeps its zeros. -/
theorem integer_literal_exact_long :
    isDigits "0018446744073709551616".toList = true ∧
      (∀ d, ∃ refs, Parser.parseExpr d "0018446744073709551616" 0 =
        .ok (.text .bigint "0018446744073709551616", refs)) ∧
      ∀ r : Renderer, ∃ written, r.expr (.text .bigint "0018446744073709551616") = .ok written ∧
        naturalOf written.toList = Nat.pow 2 64 := by
  have hdigits : isDigits "0018446744073709551616".toList = true := by decide
  have hvalue : naturalOf "0018446744073709551616".toList = Nat.pow 2 64 := by decide
  obtain ⟨e, written, hliteral, hparsed, hrendered, -, hsame, -⟩ := integer_literal_exact hdigits
  rw [hvalue] at hliteral hsame
  obtain ⟨-, hlt⟩ | ⟨rfl, -⟩ := hliteral
  · exact absurd hlt (Nat.lt_irrefl _)
  · exact ⟨hdigits, hparsed, fun r => ⟨written, hrendered r, hsame⟩⟩

end SqlWeave
