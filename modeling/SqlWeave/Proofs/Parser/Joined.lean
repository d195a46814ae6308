import SqlWeave.Proofs.Parser.TextOverlay

/-! Texts with a semicolon between them. The statements of the joined text are those of the texts,
and what is noted for them is what each text notes, one after the other. -/

namespace SqlWeave.Parser

open Token (byteLength tokenize)

/-- A semicolon between two blanks. -/
def semicolonBetween (b : Char) : String := String.ofList [b, ';', b]

/-- A line that holds a semicolon. -/
def separator : String := semicolonBetween '\n'

/-- The semicolon that comes after `before` and a blank. -/
def semicolonAfter (before : String) : Token :=
  ⟨.symbol .semicolon, ⟨size before + 1, size before + 2⟩⟩

variable {d : Dialect} {b : Char}

theorem tokenize_joined (hb : b = ' ' ∨ b = '\n') {s₁ s₂ : String} (h : ClosedBefore d b s₁) :
    tokenize d (s₁ ++ semicolonBetween b ++ s₂) = tokensOf d s₁ ++
      semicolonAfter s₁ ::
        (tokensOf d s₂ ++ [endOf s₂]).map (Token.shift (size (s₁ ++ semicolonBetween b))) := by
  have hboundary : Token.endsToken b = true := by rcases hb with rfl | rfl <;> rfl
  have hblank : Text.isBlank b = true := by rcases hb with rfl | rfl <;> decide
  have hwidth : b.utf8Size = 1 := by rcases hb with rfl | rfl <;> rfl
  have hlist : (semicolonBetween b ++ s₂).toList = b :: ';' :: b :: s₂.toList := by
    simp [semicolonBetween]
  have hsize : size (s₁ ++ semicolonBetween b) = size s₁ + 3 := by
    rw [size_append]
    rcases hb with rfl | rfl <;> rfl
  have hshift : Token.tokensFrom d.quoting (size s₁ + 3) s₂.toList =
      (tokenize d s₂).map (Token.shift (size s₁ + 3)) := by
    rw [tokenize, ← Token.tokensFrom_shift, Nat.zero_add]
  rw [String.append_assoc, tokenize_append hboundary hlist h, hlist,
    Token.tokensFrom_blank _ _ hblank, Token.tokensFrom_symbol _ _ (by decide) rfl rfl, hsize,
    ← (tokenize_split d s₂).1, ← hshift, Token.tokensFrom_blank _ _ hblank, hwidth]
  rfl

/-- A first text that leaves nothing open is read in the joined text as it is by itself, and so is
the second. -/
theorem parseScript_joined (hb : b = ' ' ∨ b = '\n') {s₁ s₂ : String} {sc₁ sc₂ : Script Expr}
    {r₁ r₂ : References} (hc : ClosedBefore d b s₁) (h₁ : parseScript d s₁ = .ok (sc₁, r₁))
    (h₂ : parseScript d s₂ = .ok (sc₂, r₂)) :
    parseScript d (s₁ ++ semicolonBetween b ++ s₂) =
      .ok (.ofStatements (sc₁.statements ++ sc₂.statements), r₁.append r₂) := by
  obtain ⟨hne, t₁, ht₁, rfl⟩ := parseScript_statements h₁
  obtain ⟨_, t₂, ht₂, rfl⟩ := parseScript_statements h₂
  have hstart := (startState_tokens d (s₁ ++ semicolonBetween b ++ s₂)).trans
    (tokenize_joined hb hc)
  have hrest : (startState d (s₁ ++ semicolonBetween b ++ s₂)).rest.length =
      (tokensOf d s₁).length + 1 + (tokensOf d s₂).length := by
    have hlen := congrArg List.length hstart
    simp only [List.length_cons, List.length_append, List.length_map, List.length_nil] at hlen
    omega
  have hempty : size "" = 0 := rfl
  -- the first text, up to the semicolon
  let W₁ : Overlay := .within d "" s₁ (semicolonBetween b ++ s₂) (semicolonAfter s₁)
    ((tokensOf d s₂ ++ [endOf s₂]).map (Token.shift (size (s₁ ++ semicolonBetween b))))
    .semicolon .empty False
  have hlink₁ :
      W₁.Linked (startState d s₁) (startState d (s₁ ++ semicolonBetween b ++ s₂)) (tokensOf d s₁) :=
    Overlay.within_linked False.elim (by rw [hstart, hempty, Token.map_shift_zero])
      (startState_references _ _)
  have htracked₁ : (nested ((tokensOf d s₁).length + 1)).Tracked
      (nested ((tokensOf d s₁).length + 1 + (tokensOf d s₂).length + 1)) :=
    nested_tracked (by omega)
  obtain ⟨u, hlinku, hjoin⟩ := htracked₁.statements_joined rfl (by simp [W₁, Overlay.within])
    hlink₁ ht₁
  -- the second text, from behind the semicolon on
  let W₂ : Overlay := .within d (s₁ ++ semicolonBetween b) s₂ ""
    ((endOf s₂).shift (size (s₁ ++ semicolonBetween b))) []
    .eof t₁.references False
  have hlink₂ : W₂.Linked (startState d s₂) u.advance (tokensOf d s₂) := by
    have hu : u.rest = (tokensOf d s₂).map (Token.shift (size (s₁ ++ semicolonBetween b))) ++
        [(endOf s₂).shift (size (s₁ ++ semicolonBetween b))] := by
      rw [hlinku.right_end.2]
      exact List.map_append
    refine Overlay.within_linked False.elim ?_ ?_
    · rw [ParserState.advance_tokens (by simp [hu]), hu]
    · rw [ParserState.advance_references, Overlay.within_log hlinku, References.empty_append]
  have htracked₂ : (nested ((tokensOf d s₂).length + 1)).Tracked
      (nested ((tokensOf d s₁).length + 1 + (tokensOf d s₂).length + 1)) :=
    nested_tracked (by omega)
  obtain ⟨v, _, hv, hlinkv, _⟩ :=
    htracked₂.statements rfl (Nat.le_refl _) _ _ _ trivial hlink₂ _ _ ht₂
  have hright₁ : W₁.right = ⟨s₁ ++ semicolonBetween b ++ s₂, d⟩ := by
    simp [W₁, Overlay.within, String.append_assoc]
  have hright₂ : W₂.right = ⟨s₁ ++ semicolonBetween b ++ s₂, d⟩ := by
    simp [W₂, Overlay.within]
  rw [hright₂] at hv
  rw [hright₁] at hjoin
  refine parseScript_eq_ok.mpr ⟨v, script_returns.mpr ⟨_, ?_, ?_, rfl⟩, Overlay.within_log hlinkv⟩
  · rw [readersFor, hrest]
    exact hjoin _ _ _ hv
  · exact fun h => hne (List.append_eq_nil_iff.mp h).1

end SqlWeave.Parser
