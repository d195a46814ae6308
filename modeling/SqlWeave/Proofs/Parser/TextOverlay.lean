import SqlWeave.Proofs.Parser.Statements

/-! Texts inside longer texts. A text whose tokens occur as they are in a longer text is overlaid
with it, so that what is read from the start of the one is read at the place of the other. -/

namespace SqlWeave.Parser

open Token (byteLength tokenize)

/-- Whether a `b` may be written after a text: it stops inside no comment and no quoted token that
would take the `b` in. -/
def ClosedBefore (d : Dialect) (b : Char) (text : String) : Prop :=
  (Token.ending d.quoting text.toList).isClosedBefore b = true

instance (d : Dialect) (b : Char) (text : String) : Decidable (ClosedBefore d b text) :=
  inferInstanceAs (Decidable (_ = true))

/-- The bytes of a text. -/
def size (text : String) : Nat := byteLength text.toList

theorem size_append (a b : String) : size (a ++ b) = size a + size b := by
  simp [size, Token.byteLength_append]

/-- The tokens of a text, the end of input left out. -/
def tokensOf (d : Dialect) (text : String) : List Token := (tokenize d text).dropLast

def endOf (text : String) : Token := ⟨.eof, ⟨size text, size text⟩⟩

theorem tokenize_split (d : Dialect) (text : String) :
    tokenize d text = tokensOf d text ++ [endOf text] ∧
      ∀ t ∈ tokensOf d text, t.kind ≠ .eof ∧ t.span.stop ≤ size text := by
  obtain ⟨ts, hts, hin⟩ := Token.tokensFrom_split d.quoting 0 text.toList
  rw [Nat.zero_add] at hts hin
  have hinner : tokensOf d text = ts := by
    rw [tokensOf, tokenize, hts, List.dropLast_concat]
  rw [hinner]
  exact ⟨hts, hin⟩

theorem startState_tokens (d : Dialect) (text : String) :
    (startState d text).current :: (startState d text).rest = tokenize d text := by
  unfold startState
  cases h : tokenize d text with
  | nil => exact absurd h (Token.tokensFrom_ne_nil _ _ _)
  | cons t ts => rfl

theorem startState_references (d : Dialect) (text : String) :
    (startState d text).references = .empty := by
  unfold startState
  cases tokenize d text <;> rfl

theorem startState_verb (d : Dialect) (text : String) : (startState d text).verb = "select" := by
  unfold startState
  cases tokenize d text <;> rfl

theorem startState_rest (d : Dialect) (text : String) :
    (startState d text).rest.length = (tokensOf d text).length := by
  have h := congrArg List.length ((startState_tokens d text).trans (tokenize_split d text).1)
  simpa using h

theorem ParserState.advance_tokens {s : ParserState} (h : s.rest ≠ []) :
    s.advance.current :: s.advance.rest = s.rest := by
  obtain ⟨t, ts, hts⟩ := List.exists_cons_of_ne_nil h
  simp [ParserState.advance, hts]

theorem ParserState.advance_references (s : ParserState) : s.advance.references = s.references := by
  unfold ParserState.advance
  split <;> rfl

/-- `text` where it stands between `before` and `behind`, followed by the token `ending`. -/
def Overlay.within (d : Dialect) (before text behind : String) (ending : Token) (after : List Token)
    (closes : Closes ending.kind) (base : References) (sameVerb : Prop) : Overlay where
  left := ⟨text, d⟩
  right := ⟨before ++ text ++ behind, d⟩
  offset := size before
  bound := size text
  finish := endOf text
  ending := ending
  after := after
  leftBase := .empty
  rightBase := base
  sameVerb := sameVerb
  samePlace := False
  finish_eof := rfl
  closes := closes
  dialect := rfl
  slices := by
    intro start stop hstop
    have h := Token.slice_inside before.toList text.toList behind.toList start stop hstop
    rwa [← String.toList_append, ← String.toList_append, String.ofList_toList,
      String.ofList_toList] at h

/-- A reader at the start of the text and one at its place in the longer text. -/
theorem Overlay.within_linked {d : Dialect} {before text behind : String} {ending : Token}
    {after : List Token} {closes : Closes ending.kind} {base : References} {sameVerb : Prop}
    {t : ParserState} (hv : sameVerb → t.verb = "select")
    (ht : t.current :: t.rest = (tokensOf d text).map (Token.shift (size before)) ++
      ending :: after)
    (hr : t.references = base) :
    (within d before text behind ending after closes base sameVerb).Linked (startState d text) t
      (tokensOf d text) where
  left := (startState_tokens d text).trans (tokenize_split d text).1
  right := ht
  inText := (tokenize_split d text).2
  verb := fun h => (startState_verb d text).trans (hv h).symm
  place := fun h => h.elim
  log := ⟨.empty, by rw [startState_references]; rfl, by rw [hr, References.append_empty]; rfl⟩

/-- What was noted from the start of the text on is what was added at its place. -/
theorem Overlay.within_log {d : Dialect} {before text behind : String} {ending : Token}
    {after : List Token} {closes : Closes ending.kind} {base : References} {sameVerb : Prop}
    {s t : ParserState} {ts : List Token}
    (h : (within d before text behind ending after closes base sameVerb).Linked s t ts) :
    t.references = base.append s.references := by
  obtain ⟨r, hs, ht⟩ := h.log
  have hs' : s.references = r := hs.trans (References.empty_append r)
  rw [ht, hs']
  rfl

/-! ## Texts put together -/

/-- A text that leaves nothing open has its own tokens wherever it stands. -/
theorem tokensFrom_text {d : Dialect} {b : Char} (hb : Token.endsToken b = true) {text : String}
    (h : ClosedBefore d b text) (pos : Nat) (r : List Char) :
    Token.tokensFrom d.quoting pos (text.toList ++ b :: r) =
      (tokensOf d text).map (Token.shift pos) ++
        Token.tokensFrom d.quoting (pos + size text) (b :: r) := by
  have hshift :
      Token.tokensFrom d.quoting pos text.toList = (tokenize d text).map (Token.shift pos) := by
    rw [tokenize, ← Token.tokensFrom_shift, Nat.zero_add]
  rw [Token.tokensFrom_append d.quoting hb r pos text.toList h, hshift, ← List.map_dropLast]
  rfl

theorem tokenize_append {d : Dialect} {b : Char} (hb : Token.endsToken b = true)
    {text behind : String} {r : List Char} (hbehind : behind.toList = b :: r)
    (h : ClosedBefore d b text) :
    tokenize d (text ++ behind) = tokensOf d text ++
      Token.tokensFrom d.quoting (size text) behind.toList := by
  have happ := tokensFrom_text hb h 0 r
  rw [Nat.zero_add, Token.map_shift_zero, ← hbehind, ← String.toList_append] at happ
  exact happ

/-! ## Whole texts -/

theorem script_returns {i : Nested} {src : Source} {s t : ParserState} {script : Script Expr} :
    Returns i.script src s script t ↔
      ∃ ss, Returns (i.statements (s.rest.length + 1)) src s ss t ∧ ss ≠ [] ∧
        script = .ofStatements ss := by
  constructor
  · intro h
    obtain ⟨n, u, hn, h⟩ := Returns.bind h
    obtain ⟨rfl, rfl⟩ := rounds_returns hn
    obtain ⟨ss, u, hss, h⟩ := Returns.bind h
    cases ss with
    | nil => exact absurd h not_returns_unexpected
    | cons x ss =>
      obtain ⟨rfl, rfl⟩ := Returns.pure h
      exact ⟨x :: ss, hss, List.cons_ne_nil x ss, rfl⟩
  · rintro ⟨ss, hss, hne, rfl⟩
    refine returns_rounds.andThen (hss.andThen ?_)
    cases ss with
    | nil => exact absurd rfl hne
    | cons x ss => rfl

theorem noted_eq_ok {α : Type} {p : Parser α} {src : Source} {s : ParserState} {x : α}
    {r : References} :
    ((p src s).map fun y => (y.1, y.2.references)) = .ok (x, r) ↔ ∃ t, Returns p src s x t ∧
      t.references = r := by
  unfold Returns
  cases hrun : p src s with
  | error e => simp [Except.map]
  | ok result =>
    obtain ⟨x', t⟩ := result
    constructor
    · intro h
      cases h
      exact ⟨t, rfl, rfl⟩
    · rintro ⟨t, ht, rfl⟩
      cases ht
      rfl

theorem parseScript_eq_ok {d : Dialect} {text : String} {script : Script Expr} {r : References} :
    parseScript d text = .ok (script, r) ↔
      ∃ t, Returns (readersFor (startState d text)).script ⟨text, d⟩ (startState d text) script t ∧
        t.references = r :=
  noted_eq_ok

theorem parseExpr_eq_ok {d : Dialect} {text : String} {least : Nat} {e : Expr} {r : References} :
    parseExpr d text least = .ok (e, r) ↔
      ∃ t, Returns ((readersFor (startState d text)).expr least) ⟨text, d⟩ (startState d text) e t ∧
        t.references = r :=
  noted_eq_ok

/-- The statements of a text and what they note, read with any room that suffices. -/
theorem parseScript_statements {d : Dialect} {text : String} {script : Script Expr} {r : References}
    (h : parseScript d text = .ok (script, r)) :
    script.statements ≠ [] ∧ ∃ t,
      Returns ((nested ((tokensOf d text).length + 1)).statements ((tokensOf d text).length + 1))
        ⟨text, d⟩ (startState d text) script.statements t ∧ t.references = r := by
  obtain ⟨t, ht, hr⟩ := parseScript_eq_ok.mp h
  obtain ⟨ss, hss, hne, rfl⟩ := script_returns.mp ht
  rw [Script.statements_ofStatements]
  refine ⟨hne, t, ?_, hr⟩
  rwa [readersFor, startState_rest] at hss

/-- What a reader makes of a text it takes to the end, from a computed part of it. -/
theorem reads_of_toOption {α β : Type} (p : Parser α) (d : Dialect) (text : String)
    (f : α → References → β) {v : β}
    (h : (p ⟨text, d⟩ (startState d text)).toOption.map
      (fun x => (x.2.current.kind, f x.1 x.2.references)) =
      some (.eof, v)) :
    ∃ x t, Returns p ⟨text, d⟩ (startState d text) x t ∧ t.current.kind = .eof ∧
      f x t.references = v := by
  cases hrun : p ⟨text, d⟩ (startState d text) with
  | error e =>
    rw [hrun] at h
    cases h
  | ok result =>
    rw [hrun] at h
    obtain ⟨hkind, hf⟩ := Prod.mk.inj (Option.some.inj h)
    exact ⟨result.1, result.2, hrun, hkind, hf⟩

end SqlWeave.Parser
