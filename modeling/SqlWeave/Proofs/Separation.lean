import SqlWeave.Proofs.Parser.Joined
import SqlWeave.Proofs.TableList

/-! A line that holds a semicolon separates any two texts, provided the first one leaves no token
and no block comment open. -/

namespace SqlWeave

open SqlWeave.Parser (parseScript separator)

/-- The token a text leaves open is among its tokens. -/
theorem Token.openToken_mem (q : Quoting) (pos : Nat) (cs : List Char)
    (h : ending q cs = .openToken) :
    ∃ t ∈ tokensFrom q pos cs, isOpen t.kind = true := by
  induction cs using text_induction q generalizing pos with
  | nil =>
    rw [ending] at h
    cases h
  | blank c cs hc ih =>
    rw [ending, if_pos hc] at h
    rw [tokensFrom_blank q pos hc]
    exact ih _ h
  | comment c cs n hc hn ih =>
    have hcomment : commentEnding c cs ≠ .openToken := by
      unfold commentEnding
      repeat' split
      all_goals simp
    rw [ending, if_neg (by simp [hc]), hn] at h
    rw [tokensFrom_comment q pos hc hn]
    by_cases hplain : commentEnding c cs = .plain
    · exact ih _ (by simpa [hplain] using h)
    · exact absurd (by simpa [hplain] using h) hcomment
  | token c cs hc hn ih =>
    rw [ending, if_neg (by simp [hc]), hn] at h
    rw [tokensFrom_token q pos hc hn]
    cases hopen : isOpen (scan q c cs).1 with
    | true => exact ⟨_, List.mem_cons_self, hopen⟩
    | false =>
      obtain ⟨t, ht, hkind⟩ := ih (pos + byteLength (c :: cs.take (scan q c cs).2))
        (by simpa [hopen] using h)
      exact ⟨t, List.mem_cons_of_mem _ ht, hkind⟩

theorem Token.exists_fault_of_isOpen {k : TokenKind} (h : isOpen k = true) : ∃ f, k = .fault f := by
  unfold isOpen at h
  split at h
  · exact ⟨_, rfl⟩
  · exact ⟨_, rfl⟩
  · exact ⟨_, rfl⟩
  · cases h

/-- A new line closes all that a text without faults can leave open, but for a block comment. -/
theorem closedBefore_newline {d : Dialect} {text : String}
    (hfault : ∀ t ∈ Token.tokenize d text, ∀ f, t.kind ≠ .fault f)
    (hblock : Token.ending d.quoting text.toList ≠ .blockComment) :
    Parser.ClosedBefore d '\n' text := by
  unfold Parser.ClosedBefore
  cases hend : Token.ending d.quoting text.toList with
  | plain | lineComment => rfl
  | blockComment => exact absurd hend hblock
  | openToken =>
    obtain ⟨t, ht, hopen⟩ := Token.openToken_mem d.quoting 0 text.toList hend
    obtain ⟨f, hf⟩ := Token.exists_fault_of_isOpen hopen
    exact absurd hf (hfault t ht f)

/-- Of two accepted texts with a separator between them, each keeps its statements. -/
theorem parseScript_separated {d : Dialect} {s₁ s₂ : String} {sc₁ sc₂ : Script Expr}
    {r₁ r₂ : References} (h₁ : parseScript d s₁ = .ok (sc₁, r₁))
    (h₂ : parseScript d s₂ = .ok (sc₂, r₂))
    (hfault : ∀ t ∈ Token.tokenize d s₁, ∀ f, t.kind ≠ .fault f)
    (hblock : Token.ending d.quoting s₁.toList ≠ .blockComment) :
    ∃ script refs, parseScript d (s₁ ++ separator ++ s₂) = .ok (script, refs) ∧
      script.statements = sc₁.statements ++ sc₂.statements := by
  have hjoined := Parser.parseScript_joined (.inr rfl) (closedBefore_newline hfault hblock) h₁ h₂
  exact ⟨_, _, hjoined, Script.statements_ofStatements _⟩

/-- A text that keeps the words of a window frame as they are written, with a comment after it. -/
def framedText : String := "SELECT sum(a) OVER (ORDER BY b ROWS  2 PRECEDING) FROM t -- all"

theorem parseScript_separated_frame :
    ∃ sc₁ r₁ sc₂ r₂ script refs,
      parseScript .mySql framedText = .ok (sc₁, r₁) ∧
      parseScript .mySql "DROP TABLE u" = .ok (sc₂, r₂) ∧
      parseScript .mySql (framedText ++ separator ++ "DROP TABLE u") = .ok (script, refs) ∧
      script.statements = sc₁.statements ++ sc₂.statements := by
  obtain ⟨sc₁, r₁, h₁, -⟩ := parseScript_of_toOption .mySql
    framedText (fun _ _ => ()) (v := ()) (by decide +kernel)
  obtain ⟨sc₂, r₂, h₂, -⟩ := parseScript_of_toOption .mySql "DROP TABLE u" (fun _ _ => ()) (v := ())
    (by decide +kernel)
  have hfault : (Token.tokenize .mySql framedText).all
      (fun t => t.kind.name != "Error") = true := by decide +kernel
  obtain ⟨script, refs, h, hstatements⟩ := parseScript_separated h₁ h₂
    (fun t ht f hf => by
      have hname := List.all_eq_true.mp hfault t ht
      rw [hf] at hname
      cases hname)
    (by decide +kernel)
  exact ⟨sc₁, r₁, sc₂, r₂, script, refs, h₁, h₂, h, hstatements⟩

end SqlWeave
