import SqlWeave.Proofs.Spelling.Basic

/-! Operators around their operands. An operand is read up to an operator that all of its own
operands leave alone; that operator then takes it as its left side, and what follows as its right
side. -/

namespace SqlWeave

open Token (Piece Lexes Quoting)
open SqlWeave.Parser (Nested Reads nested next)

/-- Whether no operand goes on with a token. -/
def endsOperand (k : TokenKind) : Bool :=
  !(Operator.isPostfix k || k == .symbol .dot || k == .symbol .leftParen || k == .keyword .OVER)

/-- Whether no expression goes on with a token. -/
def endsExpr (k : TokenKind) : Bool := endsOperand k && (Operator.power? k).isNone

/-- Whether an expression can start with a token. -/
def opensExpr : TokenKind → Bool
  | .number _ | .string _ | .identifier _ | .quotedIdentifier _ | .parameter _
  | .symbol .question => true
  | .symbol .leftParen | .symbol .minus | .symbol .plus | .symbol .bitNot | .symbol .bang => true
  | .keyword .NULL | .keyword .TRUE | .keyword .FALSE | .keyword .CASE | .keyword .EXISTS
  | .keyword .NOT => true
  | _ => false

/-- Whether the expression and all of its operands leave a token alone. -/
def Expr.leaves (e : Expr) (k : TokenKind) : Bool :=
  endsOperand k && (Operator.power? k).all e.yields

theorem isPostfix_of_endsOperand {k : TokenKind} (h : endsOperand k = true) :
    Operator.isPostfix k = false := by
  simp only [endsOperand, Bool.not_eq_true', Bool.or_eq_false_iff] at h
  exact h.1.1.1

theorem Expr.leaves_of_endsExpr {k : TokenKind} (e : Expr) (h : endsExpr k = true) :
    e.leaves k = true := by
  simp only [endsExpr, Bool.and_eq_true, Option.isNone_iff_eq_none] at h
  simp [Expr.leaves, h]

theorem Expr.leads_mono {e : Expr} {least power : Nat} (hle : least ≤ power)
    (h : e.leads power = true) :
    e.leads least = true := by
  unfold Expr.leads at h ⊢
  split at h
  · simp only [decide_eq_true_eq] at h ⊢
    omega
  · rfl

@[simp] theorem Expr.leads_zero (e : Expr) : e.leads 0 = true := by
  unfold Expr.leads
  split <;> simp

/-! ## One round -/

namespace Parser.Nested

variable {i : Nested} {least m power : Nat} {left e y : Expr} {ks rest final : List Piece}

theorem operators_stops (hends : Operator.isPostfix (next rest) = false)
    (hweak : (Operator.power? (next rest)).all (· < least) = true) :
    Reads (i.operators least (m + 1) e) rest e rest := by
  refine .look ?_
  simp only [hends, Bool.false_eq_true, if_false]
  split
  · exact .pure e
  · rename_i power hpower
    have hlt : power < least := by simpa [hpower] using hweak
    simp only [hlt, if_true]
    exact .pure e

theorem operators_round (hends : Operator.isPostfix (next ks) = false)
    (hpower : Operator.power? (next ks) = some power) (hle : least ≤ power)
    (hform : Reads (i.infixForm left (power + 1)) ks (some e) rest)
    (hmore : Reads (i.operators least m e) rest y final) :
    Reads (i.operators least (m + 1) left) ks y final := by
  refine .look ?_
  rw [hends, hpower]
  simp only [Bool.false_eq_true, if_false, Nat.not_lt.mpr hle]
  exact hform.bind hmore

end Parser.Nested

/-! ## Operands and what comes after them -/

/-- From these pieces the expression is read, and then what follows it as the operators behind
it. -/
def Continues (e : Expr) (ks : List Piece) : Prop :=
  ∀ n, ks.length ≤ n → ∀ least, e.leads least = true →
    ∀ rest, e.leaves (next rest) = true → ∀ y final,
    (∀ m, rest.length < m → Reads ((nested n).operators least m e) rest y final) →
    Reads ((nested n).readExpr least) (ks ++ rest) y final

/-- An expression without operators outside, or with one in front of it. -/
theorem Continues.operand {e : Expr} {ks : List Piece}
    (h : ∀ n, ks.length ≤ n → ∀ rest, e.leaves (next rest) = true →
      Reads (nested n).readOperand (ks ++ rest) e rest) :
    Continues e ks := by
  intro n hn least _ rest hrest y final hmore
  exact (h n hn rest hrest).bind (.rounds (hmore _ (Nat.lt_succ_self _)))

theorem Continues.reads {e : Expr} {ks rest : List Piece} (h : Continues e ks) {n least : Nat}
    (hn : ks.length < n) (hleads : e.leads least = true) (hleaves : e.leaves (next rest) = true)
    (hweak : (Operator.power? (next rest)).all (· < least) = true) :
    Reads ((nested n).expr least) (ks ++ rest) e rest := by
  obtain ⟨n, rfl⟩ : ∃ m, n = m + 1 := ⟨n - 1, by omega⟩
  refine h n (by omega) least hleads rest hleaves e rest fun m hm => ?_
  obtain ⟨m, rfl⟩ : ∃ l, m = l + 1 := ⟨m - 1, by omega⟩
  have hends : endsOperand (next rest) = true := by
    simp only [Expr.leaves, Bool.and_eq_true] at hleaves
    exact hleaves.1
  exact Nested.operators_stops (isPostfix_of_endsOperand hends) hweak

/-- An expression where everything behind it ends it. -/
theorem Continues.legible {e : Expr} {ks : List Piece} {q : Quoting} {text : String}
    (h : Continues e ks) (hlexes : Lexes q text ks) :
    Legible q (fun i => i.expr 0) endsExpr e text ks where
  lexes := hlexes
  reads := by
    intro n hn rest hrest
    refine h.reads hn e.leads_zero (e.leaves_of_endsExpr hrest) ?_
    simp only [endsExpr, Bool.and_eq_true, Option.isNone_iff_eq_none] at hrest
    rw [hrest.2]
    rfl

/-- A left side, an operator and what it takes behind it. -/
theorem Continues.between {left e : Expr} {kl ko kr : List Piece} {power : Nat}
    (hl : Continues left kl) (hsome : ko ≠ []) (hends : endsOperand (next ko) = true)
    (hpower : Operator.power? (next ko) = some power) (hleads : left.leads power = true)
    (hyields : left.yields power = true) (he : ∀ least, e.leads least = true → least ≤ power)
    (hform : ∀ n, kr.length < n → ∀ rest, e.leaves (next rest) = true →
      Reads ((nested n).infixForm left (power + 1)) (ko ++ (kr ++ rest)) (some e) rest) :
    Continues e (kl ++ ko ++ kr) := by
  intro n hn least hleast rest hrest y final hmore
  have hle := he least hleast
  have hpos := List.length_pos_iff.mpr hsome
  rw [List.length_append, List.length_append] at hn
  have hnext : next (ko ++ (kr ++ rest)) = next ko := Parser.next_append hsome _
  rw [List.append_assoc, List.append_assoc]
  refine hl n (by omega) least (left.leads_mono hle hleads) _ ?_ y final fun m hm => ?_
  · rw [hnext, Expr.leaves, hends, hpower]
    exact hyields
  · obtain ⟨m, rfl⟩ : ∃ k, m = k + 1 := ⟨m - 1, by omega⟩
    rw [List.length_append, List.length_append] at hm
    rw [← hnext] at hpower hends
    exact Nested.operators_round (isPostfix_of_endsOperand hends) hpower hle
      (hform n (by omega) rest hrest)
      (hmore m (by omega))

/-! ## The operators by their texts -/

/-- The text is an operator of this power between two operands, and these are its pieces. -/
structure IsOperator (q : Quoting) (operator : String) (power : Nat) (ko : List Piece) : Prop where
  lexes : Lexes q operator ko
  ends : endsOperand (next ko) = true
  binds : Operator.power? (next ko) = some power
  reads : ∀ (i : Nested) (left right : Expr) (ks rest : List Piece),
    (operator = "IS" → next ks ≠ .keyword .NOT) → Reads (i.expr (power + 1)) ks right rest →
    Reads (i.infixForm left (power + 1)) (ko ++ ks) (some (left.binary operator right)) rest

namespace IsOperator

variable {q : Quoting} {operator : String} {power : Nat}

theorem sign {mark : Symbol} (h : (operator, mark) ∈ Token.operatorSigns)
    (hpower : Operator.power? (.symbol mark) = some power) :
    IsOperator q operator power [⟨.symbol mark, operator⟩] where
  lexes := .sign h
  ends := by
    have hall : ∀ sign ∈ Token.operatorSigns, endsOperand (.symbol sign.2) = true := by decide
    exact hall _ h
  binds := hpower
  reads := by
    intro i left right ks rest _ hright
    have htext : Reads Nested.operatorText? (⟨.symbol mark, operator⟩ :: ks) (some operator)
        (⟨.symbol mark, operator⟩ :: ks) := by
      refine .look ?_
      simp only [Token.operatorSigns, List.mem_cons, Prod.mk.injEq, List.not_mem_nil, or_false] at h
      rcases h with ⟨rfl, rfl⟩ | ⟨rfl, rfl⟩ | ⟨rfl, rfl⟩ | ⟨rfl, rfl⟩ | ⟨rfl, rfl⟩ | ⟨rfl,
        rfl⟩ | ⟨rfl, rfl⟩ |
        ⟨rfl, rfl⟩ | ⟨rfl, rfl⟩ | ⟨rfl, rfl⟩ | ⟨rfl, rfl⟩ | ⟨rfl, rfl⟩ | ⟨rfl, rfl⟩ | ⟨rfl,
          rfl⟩ | ⟨rfl, rfl⟩ |
        ⟨rfl, rfl⟩ | ⟨rfl, rfl⟩
      all_goals first | exact .text (.pure _) | exact .pure _
    exact .look (htext.bind (.step (hright.bind (.pure _))))

/-- One word. -/
theorem word {k : Piece} (hlexes : Lexes q operator [k]) (hends : endsOperand k.kind = true)
    (hpower : Operator.power? k.kind = some power) (htext : Operator.text? k.kind = some operator)
    (hkind : (∃ name, k.kind = .identifier name) ∨
      k.kind ∈ [.keyword .AND, .keyword .OR, .keyword .LIKE]) :
    IsOperator q operator power [k] where
  lexes := hlexes
  ends := hends
  binds := hpower
  reads := by
    intro i left right ks rest _ hright
    have hform : Reads (i.operatorForm left (power + 1)) (k :: ks)
        (some (left.binary operator right)) rest := by
      have htext' : Reads Nested.operatorText? (k :: ks) (some operator) (k :: ks) := by
        refine .look ?_
        rw [Parser.next_cons]
        split
        · rename_i hsymbol
          simp [hsymbol] at hkind
        · rw [htext]
          exact .pure _
      exact htext'.bind (.step (hright.bind (.pure _)))
    refine .look ?_
    rw [List.singleton_append, Parser.next_cons]
    split
    · rename_i his
      simp [his] at hkind
    · rename_i hnot
      simp [hnot] at hkind
    · rename_i hin
      simp [hin] at hkind
    · rename_i hbetween
      simp [hbetween] at hkind
    · exact hform

/-- NOT before such a word. -/
theorem negated {k : Piece} (hlexes : Lexes q operator [k])
    (hnegatable : Operator.isNegatable k.kind = true)
    (htext : Operator.text? k.kind = some operator) :
    IsOperator q ("NOT " ++ operator) 5 [.word .NOT, k] where
  lexes := by
    have hspaced : Lexes q ("NOT" ++ " " ++ operator) ([.word .NOT] ++ [k]) :=
      .spaced (.keyword .NOT) hlexes
    rwa [show "NOT" ++ " " = "NOT " from rfl] at hspaced
  ends := rfl
  binds := rfl
  reads := by
    intro i left right ks rest _ hright
    rw [List.cons_append, List.singleton_append]
    refine .look (.peek ?_)
    show Reads (if Operator.isNegatable k.kind = true then _ else _) _ _ _
    rw [if_pos hnegatable]
    refine .step (.bind (x := left.binary ("NOT " ++ operator) right) ?_ (.pure _))
    refine .left (Parser.isAtKeyword_asks .IN) ?_
      (.left (Parser.isAtKeyword_asks .BETWEEN) ?_ (.look ?_))
    · exact beq_eq_false_iff_ne.mpr fun h => nomatch (congrArg Operator.text? h).symm.trans htext
    · exact beq_eq_false_iff_ne.mpr fun h => nomatch (congrArg Operator.text? h).symm.trans htext
    · rw [Parser.next_cons, htext]
      exact .step (hright.bind (.pure _))

theorem is : IsOperator q "IS" 5 [.word .IS] where
  lexes := .keyword .IS
  ends := rfl
  binds := rfl
  reads := by
    intro i left right ks rest hnot hright
    refine .look (.step ?_)
    refine .bind (.stops (Parser.isAtKeyword_asks .NOT) (beq_eq_false_iff_ne.mpr (hnot rfl))) ?_
    exact hright.bind (.pure _)

theorem isNot : IsOperator q "IS NOT" 5 [.word .IS, .word .NOT] where
  lexes := by
    have hspaced : Lexes q ("IS" ++ " " ++ "NOT") ([.word .IS] ++ [.word .NOT]) :=
      .spaced (.keyword .IS) (.keyword .NOT)
    rwa [show "IS" ++ " " ++ "NOT" = "IS NOT" from rfl] at hspaced
  ends := rfl
  binds := rfl
  reads := by
    intro i left right ks rest _ hright
    refine .look (.step ?_)
    exact .bind (.takes (Parser.isAtKeyword_asks .NOT) rfl) (hright.bind (.pure _))

/-- A word that is not reserved but an operator. -/
theorem comparison {word : String} (h : word ∈ Operator.comparisonWords) :
    IsOperator q word 5 [.plain word] ∧
      IsOperator q ("NOT " ++ word) 5 [.word .NOT, .plain word] := by
  have hall : ∀ word ∈ Operator.comparisonWords, Token.isWord word = true ∧
      Token.wordKind word = .identifier word ∧
        Operator.comparisonWord? word = some word := by decide
  obtain ⟨hword, hkind, htext⟩ := hall word h
  have hlexes : Lexes q word [.plain word] := .plain hword hkind
  have hsome : (Operator.comparisonWord? word).isSome = true := by rw [htext]; rfl
  exact ⟨.word hlexes rfl (if_pos hsome) htext (.inl ⟨word, rfl⟩), .negated hlexes hsome htext⟩

/-- The operators that are reserved words. -/
def reserved : List (String × Nat) :=
  [("OR", 1), ("AND", 3), ("LIKE", 5), ("NOT LIKE", 5), ("IS", 5), ("IS NOT", 5)]

theorem betweenOperands_cases : ∀ o ∈ Operator.betweenOperands,
    (∃ sign ∈ Token.operatorSigns, sign.1 = o.1 ∧ Operator.power? (.symbol sign.2) = some o.2) ∨
    (∃ word ∈ Operator.comparisonWords, o = (word, 5) ∨ o = ("NOT " ++ word, 5)) ∨
    o ∈ reserved := by
  decide

/-- Every operator between two operands is spelled by its text. -/
theorem of_mem (h : (operator, power) ∈ Operator.betweenOperands) :
    ∃ ko, ko ≠ [] ∧ IsOperator q operator power ko := by
  rcases betweenOperands_cases _ h with ⟨⟨_, mark⟩, hsign, rfl, hpower⟩ | ⟨word, hword,
    ho⟩ | hreserved
  · exact ⟨_, List.cons_ne_nil _ _, .sign hsign hpower⟩
  · obtain ⟨hplain, hnegated⟩ := @comparison q word hword
    rcases ho with ho | ho
    · cases ho
      exact ⟨_, List.cons_ne_nil _ _, hplain⟩
    · cases ho
      exact ⟨_, List.cons_ne_nil _ _, hnegated⟩
  · simp only [reserved, List.mem_cons, Prod.mk.injEq, List.not_mem_nil, or_false] at hreserved
    rcases hreserved with ⟨rfl, rfl⟩ | ⟨rfl, rfl⟩ | ⟨rfl, rfl⟩ | ⟨rfl, rfl⟩ | ⟨rfl,
      rfl⟩ | ⟨rfl, rfl⟩
    · exact ⟨_, List.cons_ne_nil _ _, .word (.keyword .OR) rfl rfl rfl (.inr (by simp))⟩
    · exact ⟨_, List.cons_ne_nil _ _, .word (.keyword .AND) rfl rfl rfl (.inr (by simp))⟩
    · exact ⟨_, List.cons_ne_nil _ _, .word (.keyword .LIKE) rfl rfl rfl (.inr (by simp))⟩
    · exact ⟨_, List.cons_ne_nil _ _, .negated (.keyword .LIKE) rfl rfl⟩
    · exact ⟨_, List.cons_ne_nil _ _, .is⟩
    · exact ⟨_, List.cons_ne_nil _ _, .isNot⟩

end IsOperator

end SqlWeave
