import SqlWeave.Proofs.Parser.Statements
import SqlWeave.Proofs.Token.Pieces
import SqlWeave.Proofs.Tree.Precedence

/-! Which operator the reader stands at, and where it stops. It takes every operator that binds as
tightly as is asked, so that behind an expression there is none. -/

namespace SqlWeave

namespace Operator

variable {k : TokenKind} {operator : String} {power : Nat}

theorem comparisonWord?_mem {name : String} (h : comparisonWord? name = some operator) :
    operator ∈ comparisonWords :=
  List.mem_of_find?_eq_some h

theorem comparison_mem : ∀ word ∈ comparisonWords, ((word, predicatePower) ∈ infixes ∧
    word ∉ ranges) ∧
    ("NOT " ++ word, predicatePower) ∈ infixes ∧ "NOT " ++ word ∉ ranges := by
  decide

/-- An operator of one token binds as tightly by its text as by its kind. -/
theorem text?_mem (htext : text? k = some operator) (hpower : power? k = some power) :
    (operator, power) ∈ infixes ∧ operator ∉ ranges := by
  unfold text? at htext
  split at htext
  case h_20 name =>
    have hmem := comparisonWord?_mem htext
    have hsome : (comparisonWord? name).isSome = true := by rw [htext]; rfl
    have hfive : some 5 = some power := by rw [← hpower, power?, if_pos hsome]
    cases hfive
    exact (comparison_mem _ hmem).1
  case h_21 => cases htext
  all_goals
    cases htext
    cases hpower
    decide

/-- Behind NOT there is a predicate. -/
theorem negated_mem (hnegatable : isNegatable k = true) (htext : text? k = some operator) :
    ("NOT " ++ operator, predicatePower) ∈ infixes ∧ "NOT " ++ operator ∉ ranges := by
  unfold isNegatable at hnegatable
  split at hnegatable
  · cases htext
  · cases htext
  · cases htext
    decide
  · have hmem := comparisonWord?_mem htext
    exact (comparison_mem _ hmem).2
  · cases hnegatable

theorem leading?_lookup {front : String} (h : leading? k = some (front, power)) :
    beforeOperand.lookup front = some power := by
  unfold leading? at h
  split at h <;> cases h <;> rfl

theorem power?_of_isPostfix (h : isPostfix k = true) : power? k = none := by
  unfold isPostfix at h
  split at h <;> first | rfl | cases h

/-- An operator that has no text of its own is one of these words. -/
theorem text?_isSome (h : power? k = some power) (his : k ≠ .keyword .IS) (hnot : k ≠ .keyword .NOT)
    (hin : k ≠ .keyword .IN) (hbetween : k ≠ .keyword .BETWEEN) : (text? k).isSome = true := by
  unfold power? at h
  split at h
  case h_9 => exact absurd rfl his
  case h_10 => exact absurd rfl hin
  case h_11 => exact absurd rfl hbetween
  case h_13 => exact absurd rfl hnot
  case h_14 name =>
    by_cases hword : (comparisonWord? name).isSome = true
    · exact hword
    · rw [if_neg hword] at h
      cases h
  all_goals first | rfl | cases h

end Operator

/-- How tightly the operator binds that the reader stands at. NOT is one only before what it
negates. -/
def ParserState.operator? (s : ParserState) : Option Nat :=
  if s.current.kind = .keyword .NOT ∧
    Operator.isNegatable ((s.rest.head?.map Token.kind).getD .eof) = false then none
  else Operator.power? s.current.kind

theorem ParserState.power?_of_operator? {s : ParserState} {power : Nat}
    (h : s.operator? = some power) :
    Operator.power? s.current.kind = some power := by
  unfold ParserState.operator? at h
  split at h
  · cases h
  · exact h

namespace Parser

variable {src : Source} {s t : ParserState} {i : Nested}

theorem takeIf_returns {check : Parser Bool} {b : TokenKind → Bool} (ht : Asks check b) {v : Bool}
    (h : Returns (takeIf check) src s v t) :
    v = true ∧ b s.current.kind = true ∧ t = s.advance ∨ v = false ∧ b s.current.kind = false ∧
      s = t := by
  cases hb : b s.current.kind with
  | true =>
    obtain ⟨rfl, rfl⟩ := (takeIf_takes ht hb).det h
    exact .inl ⟨rfl, rfl, rfl⟩
  | false =>
    obtain ⟨rfl, rfl⟩ := (takeIf_stops ht hb).det h
    exact .inr ⟨rfl, rfl, rfl⟩

namespace Nested

variable {left e : Expr} {least power n : Nat}

/-- Where there turns out to be no operator, nothing is taken. -/
theorem infixForm_none (hpower : Operator.power? s.current.kind = some power)
    (h : Returns (i.infixForm left (power + 1)) src s none t) : t = s ∧ s.operator? = none := by
  obtain ⟨k, u, hk, h⟩ := Returns.bind h
  obtain ⟨rfl, rfl⟩ := kind_returns hk
  split at h
  · obtain ⟨_, _, -, h⟩ := Returns.bind h
    obtain ⟨_, _, -, h⟩ := Returns.bind h
    obtain ⟨_, _, -, h⟩ := Returns.bind h
    cases (Returns.pure h).1
  · rename_i hnot
    obtain ⟨next, v, hnext, h⟩ := Returns.bind h
    obtain ⟨rfl, rfl⟩ := nextKind_returns hnext
    split at h
    · obtain ⟨_, _, -, h⟩ := Returns.bind h
      obtain ⟨_, _, -, h⟩ := Returns.bind h
      cases (Returns.pure h).1
    · rename_i hnegatable
      refine ⟨(Returns.pure h).2.symm, if_pos ⟨hnot, by simpa using hnegatable⟩⟩
  · obtain ⟨_, _, -, h⟩ := Returns.bind h
    cases (Returns.pure h).1
  · obtain ⟨_, _, -, h⟩ := Returns.bind h
    cases (Returns.pure h).1
  · rename_i his hnot hin hbetween
    obtain ⟨operator, v, hoperator, h⟩ := Returns.bind h
    cases operator with
    | some operator =>
      obtain ⟨_, _, -, h⟩ := Returns.bind h
      obtain ⟨_, _, -, h⟩ := Returns.bind h
      cases (Returns.pure h).1
    | none =>
      obtain ⟨k, w, hk, hoperator⟩ := Returns.bind hoperator
      obtain ⟨rfl, rfl⟩ := kind_returns hk
      split at hoperator
      · obtain ⟨_, _, -, hoperator⟩ := Returns.bind hoperator
        cases (Returns.pure hoperator).1
      · have hsome := Operator.text?_isSome hpower his hnot hin hbetween
        rw [(Returns.pure hoperator).1] at hsome
        cases hsome

/-- The operator behind what was read does not bind as tightly as was asked. -/
theorem operators_stop (h : Returns (i.operators least n left) src s e t) :
    ∀ power, t.operator? = some power → power < least := by
  induction n generalizing left s with
  | zero => exact absurd h not_returns_outOfRounds
  | succ n ih =>
    obtain ⟨k, u, hk, h⟩ := Returns.bind h
    obtain ⟨rfl, rfl⟩ := kind_returns hk
    intro power hpower
    split at h
    · rename_i hpostfix
      split at h
      · obtain ⟨-, rfl⟩ := Returns.pure h
        cases (Operator.power?_of_isPostfix hpostfix).symm.trans
          (ParserState.power?_of_operator? hpower)
      · obtain ⟨_, _, -, h⟩ := Returns.bind h
        exact ih h power hpower
    · split at h
      · rename_i hnone
        obtain ⟨-, rfl⟩ := Returns.pure h
        cases hnone.symm.trans (ParserState.power?_of_operator? hpower)
      · rename_i strength hsome
        split at h
        · rename_i hweak
          obtain ⟨-, rfl⟩ := Returns.pure h
          cases hsome.symm.trans (ParserState.power?_of_operator? hpower)
          exact hweak
        · obtain ⟨form, u, hform, h⟩ := Returns.bind h
          cases form with
          | some e => exact ih h power hpower
          | none =>
            obtain ⟨-, rfl⟩ := Returns.pure h
            obtain ⟨rfl, hnone⟩ := infixForm_none hsome hform
            cases hnone.symm.trans hpower

theorem readExpr_stop (h : Returns (i.readExpr least) src s e t) :
    ∀ power, t.operator? = some power → power < least := by
  obtain ⟨_, _, -, h⟩ := Returns.bind h
  obtain ⟨_, _, -, h⟩ := Returns.bind h
  exact operators_stop h

end Nested

end Parser

end SqlWeave
