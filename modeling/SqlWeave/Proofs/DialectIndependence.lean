import SqlWeave.Proofs.Parser.StatementMakes

/-! Dialects differ in their quotes and in `RETURNING`. A text with neither of them is read in the
same way under all of them. -/

namespace SqlWeave

open Token (Quoting scan tokensFrom text_induction tokenize)
open SqlWeave.Parser (parseScript)

namespace Token

/-- Every other character starts the same token under all dialects. -/
theorem scan_quoting (q q' : Quoting) {c : Char} (hquote : c ≠ '"') (hbracket : c ≠ '[')
    (cs : List Char) :
    scan q c cs = scan q' c cs := by
  simp only [scan, hquote, hbracket, ↓reduceIte]

theorem tokensFrom_quoting (q q' : Quoting) (pos : Nat) {cs : List Char}
    (hcs : ∀ c ∈ cs, c ≠ '"' ∧ c ≠ '[') :
    tokensFrom q pos cs = tokensFrom q' pos cs := by
  have hafter {c : Char} {cs : List Char} (h : ∀ d ∈ c :: cs, d ≠ '"' ∧ d ≠ '[') (n : Nat) :
      ∀ d ∈ cs.drop n, d ≠ '"' ∧ d ≠ '[' :=
    fun d hd => h d (List.mem_cons_of_mem c (List.mem_of_mem_drop hd))
  induction cs using text_induction q generalizing pos with
  | nil => rw [tokensFrom_nil, tokensFrom_nil]
  | blank c cs hc ih =>
    rw [tokensFrom_blank q pos hc, tokensFrom_blank q' pos hc, ih _ (hafter hcs 0)]
  | comment c cs n hc hn ih =>
    rw [tokensFrom_comment q pos hc hn, tokensFrom_comment q' pos hc hn, ih _ (hafter hcs n)]
  | token c cs hc hn ih =>
    obtain ⟨hquote, hbracket⟩ := hcs c List.mem_cons_self
    rw [tokensFrom_token q pos hc hn, tokensFrom_token q' pos hc hn,
      ← scan_quoting q q' hquote hbracket, ih _ (hafter hcs _)]

end Token

/-- The grammar depends on the dialect through its quotes and `RETURNING` only. -/
theorem parseScript_independent (d d' : Dialect) {text : String} (hquote : '"' ∉ text.toList)
    (hbracket : '[' ∉ text.toList)
    (hreturning : ∀ a ∈ tokenize d text, a.kind ≠ .keyword .RETURNING) :
    parseScript d text = parseScript d' text := by
  have htokens : tokenize d' text = tokenize d text :=
    (Token.tokensFrom_quoting d.quoting d'.quoting 0 fun c hc =>
      ⟨fun h => hquote (h ▸ hc), fun h => hbracket (h ▸ hc)⟩).symm
  have hwithin := Parser.parseScript_within (Parser.tokenize_nowhere htokens) (.inr hreturning)
  rw [String.empty_append, String.append_empty] at hwithin
  rcases hwithin with ⟨r, hl, hr⟩ | ⟨fault, a, ha, hl, hr⟩
  · rw [hl, hr]
  · have hmoved := Parser.moved_nowhere ha
    rw [String.empty_append, String.append_empty] at hmoved
    rw [hl, hr, hmoved]

/-- The text ends where the table is missing. -/
theorem parseScript_independent_incomplete :
    parseScript .mySql "SELECT `a`, 'b' # c\nFROM" =
      parseScript .transactSql "SELECT `a`, 'b' # c\nFROM" :=
  parseScript_independent .mySql .transactSql (by decide) (by decide) (by decide +kernel)

end SqlWeave
