import SqlWeave.Proofs.Parser.Condition

/-! Texts with a condition added. A SELECT without clauses behind its FROM list, followed by WHERE
and an expression, is read as that SELECT and that expression, and what is noted for it is what the
two note by themselves, one after the other. -/

namespace SqlWeave.Parser

open Token (byteLength tokenize)

variable {d : Dialect}

/-- The text is one SELECT and nothing else. -/
def ReadsSelect (d : Dialect) (text : String) (q : Query Expr) (r : References) : Prop :=
  ∃ t, Returns (nested ((tokensOf d text).length + 1)).statement ⟨text, d⟩ (startState d text)
    (.select q) t ∧
    t.current.kind = .eof ∧ t.references = r

/-- The text is one expression and nothing else. -/
def ReadsExpr (d : Dialect) (text : String) (e : Expr) (r : References) : Prop :=
  ∃ t, Returns ((nested ((tokensOf d text).length + 1)).expr 0) ⟨text, d⟩ (startState d text) e t ∧
    t.current.kind = .eof ∧ t.references = r

theorem Nested.statements_eof {i : Nested} {src : Source} {s : ParserState} (n : Nat)
    (hs : s.current.kind = .eof) : Returns (i.statements (n + 1)) src s [] s := by
  refine (semicolons_stops (by rw [hs]; exact TokenKind.noConfusion)).andThen
    (returns_kind.andThen ?_)
  rw [if_pos (by simp [hs])]
  rfl

/-- A text that is one SELECT is a script of one statement. -/
theorem parseScript_select {text : String} {q : Query Expr} {t : ParserState} {m : Nat}
    (hm : m = (tokensOf d text).length + 1)
    (ht : Returns (nested m).statement ⟨text, d⟩ (startState d text) (.select q) t)
    (heof : t.current.kind = .eof) :
    parseScript d text = .ok (.single (.select q), t.references) := by
  obtain ⟨word, hword⟩ : ∃ word, (startState d text).current.kind = .keyword word := by
    rcases Nested.statement_select_iff.mp ht with ⟨hk, _⟩ | ⟨hk, _⟩
    · exact ⟨_, hk⟩
    · exact ⟨_, hk⟩
  obtain ⟨n, hn⟩ : ∃ n, (tokensOf d text).length = n + 1 := by
    cases htokens : tokensOf d text with
    | cons k ks => exact ⟨ks.length, rfl⟩
    | nil =>
      have hstart := (startState_tokens d text).trans (tokenize_split d text).1
      rw [htokens, List.nil_append] at hstart
      injection hstart with hcurrent _
      rw [hcurrent] at hword
      cases hword
  have hstatements : Returns ((nested m).statements ((tokensOf d text).length + 1)) ⟨text, d⟩
      (startState d text) [.select q] t := by
    rw [hn]
    refine Nested.statements_cons ?_ ?_ ht (.inr heof) (Nested.statements_eof n heof)
    · rw [hword]
      exact TokenKind.noConfusion
    · rw [hword]
      exact TokenKind.noConfusion
  refine parseScript_eq_ok.mpr ⟨t, script_returns.mpr ⟨[.select q], ?_, by simp, rfl⟩, rfl⟩
  rw [readersFor, startState_rest]
  exact hm ▸ hstatements

/-! ## What is read at a place of a longer text -/

/-- The reader has gone on to where `after` comes next, and has noted `r`. -/
structure Took (s u : ParserState) (after : List Token) (r : References) : Prop where
  tokens : u.current :: u.rest = after
  references : u.references = s.references.append r
  verb : u.verb = s.verb

theorem Took.here {s : ParserState} {ts : List Token} (hs : s.current :: s.rest = ts) :
    Took s s ts .empty :=
  ⟨hs, (References.append_empty _).symm, rfl⟩

theorem Took.kind {s u : ParserState} {k : Token} {after : List Token} {r : References}
    (h : Took s u (k :: after) r) : u.current.kind = k.kind := by
  have htokens := h.tokens
  injection htokens with hcurrent _
  rw [hcurrent]

theorem Took.advance {s u : ParserState} {k : Token} {after : List Token} {r : References}
    (h : Took s u (k :: after) r) (hafter : after ≠ []) : Took s u.advance after r := by
  have hrest : u.rest = after := by
    have htokens := h.tokens
    injection htokens
  refine ⟨?_, (ParserState.advance_references u).trans h.references, ?_⟩
  · rw [ParserState.advance_tokens (by rwa [hrest]), hrest]
  · refine Eq.trans ?_ h.verb
    unfold ParserState.advance
    split <;> rfl

theorem Took.trans {s u v : ParserState} {after after' : List Token} {r r' : References}
    (h : Took s u after r) (h' : Took u v after' r') : Took s v after' (r.append r') where
  tokens := h'.tokens
  references := by rw [h'.references, h.references, References.append_assoc]
  verb := h'.verb.trans h.verb

/-- A reader takes a text wherever it stands, up to what closes it there. -/
theorem Took.of_tracks {α : Type} {p q : Parser α} {before text behind whole : String}
    (hwhole : before ++ text ++ behind = whole) {ending : Token} {after : List Token}
    (hp : ∀ W : Overlay, W.sameVerb → W.ending.kind = ending.kind → Tracks W p q)
    (hkeeps : ∀ src s x t, s.verb = "select" → Returns p src s x t → t.verb = "select")
    (hcloses : Closes ending.kind) {t : ParserState} (hv : t.verb = "select")
    (ht : t.current :: t.rest = (tokensOf d text).map (Token.shift (size before)) ++
      ending :: after)
    {x : α} {s : ParserState} (hs : Returns p ⟨text, d⟩ (startState d text) x s)
    (heof : s.current.kind = .eof) :
    ∃ u, Returns q ⟨whole, d⟩ t x u ∧ Took t u (ending :: after) s.references := by
  subst hwhole
  let W : Overlay := .within d before text behind ending after hcloses t.references True
  have hl : W.Linked (startState d text) t (tokensOf d text) :=
    Overlay.within_linked (fun _ => hv) ht rfl
  obtain ⟨u, us, hu, hlu, _⟩ := hp W trivial rfl _ _ _ trivial hl _ _ hs
  obtain rfl := hlu.nil_of_eof heof
  have hverb : s.verb = "select" := hkeeps _ _ _ _ (startState_verb d text) hs
  exact ⟨u, hu, hlu.right, Overlay.within_log hlu, by rw [← hlu.verb trivial, hverb, hv]⟩

theorem ReadsExpr.took {before text behind whole : String} {e : Expr} {r : References}
    (h : ReadsExpr d text e r) (hwhole : before ++ text ++ behind = whole) {ending : Token}
    {after : List Token} (hcloses : Closes ending.kind) {t : ParserState} (hv : t.verb = "select")
    (ht : t.current :: t.rest = (tokensOf d text).map (Token.shift (size before)) ++
      ending :: after) {m : Nat}
    (hm : (tokensOf d text).length + 1 ≤ m) :
    ∃ u, Returns ((nested m).expr 0) ⟨whole, d⟩ t e u ∧ Took t u (ending :: after) r := by
  obtain ⟨s, hs, heof, rfl⟩ := h
  have hnoted : (nested ((tokensOf d text).length + 1)).Noted True := nested_noted _
  exact Took.of_tracks hwhole (fun W hW _ => (nested_tracked hm).expr W hW 0)
    (fun _ _ _ _ hverb h => (hnoted.expr "select" 0 _ _ _ _ hverb h).1) hcloses hv ht hs heof

/-! ## WHERE -/

def whereWord : String := " WHERE "

/-- The WHERE that comes after `before`. -/
def whereAfter (before : String) : Token := ⟨.keyword .WHERE, ⟨size before + 1, size before + 6⟩⟩

theorem tokenize_where {s x : String} (h : ClosedBefore d ' ' s) :
    tokenize d (s ++ whereWord ++ x) = tokensOf d s ++
      whereAfter s :: (tokensOf d x ++ [endOf x]).map (Token.shift (size (s ++ whereWord))) := by
  have hlist : (whereWord ++ x).toList = ' ' :: ('W' :: "HERE".toList ++ ' ' :: x.toList) := by
    rw [String.toList_append]
    rfl
  have hsize : size (s ++ whereWord) = size s + 7 := by
    rw [size_append]
    rfl
  have hshift : Token.tokensFrom d.quoting (size s + 7) x.toList =
      (tokenize d x).map (Token.shift (size s + 7)) := by
    rw [tokenize, ← Token.tokensFrom_shift, Nat.zero_add]
  rw [String.append_assoc, tokenize_append (b := ' ') rfl hlist h, hlist,
    Token.tokensFrom_blank _ _ (by decide), Token.tokensFrom_word _ _ (by decide) rfl rfl, hsize,
    ← (tokenize_split d x).1, ← hshift]
  rfl

/-- `s WHERE p` notes `r`: `s` is a SELECT by itself, no clause of it comes after its FROM list, and
`p` is an expression by itself. -/
structure EndsInWhere (d : Dialect) (s p : String) (r : References) : Prop where
  reads : ∃ q e before added, ReadsSelect d s q before ∧ q.last.Bare ∧ ReadsExpr d p e added ∧
    r = before.append added
  closed : ClosedBefore d ' ' s

/-- A SELECT followed by WHERE and an expression. -/
theorem parseScript_where {s x : String} {r : References} (h : EndsInWhere d s x r) :
    ∃ q, parseScript d (s ++ whereWord ++ x) = .ok (.single (.select q), r) := by
  obtain ⟨⟨q, e, before, added, hs, hbare, hx, rfl⟩, hclosed⟩ := h
  obtain ⟨t, ht, heof, rfl⟩ := hs
  have hstart := (startState_tokens d (s ++ whereWord ++ x)).trans (tokenize_where hclosed)
  have hlength : (tokensOf d (s ++ whereWord ++ x)).length =
      (tokensOf d s).length + 1 + (tokensOf d x).length := by
    have htokens := congrArg List.length hstart
    rw [← startState_rest]
    simp only [List.length_cons, List.length_append, List.length_map, List.length_nil] at htokens
    omega
  have hempty : size "" = 0 := rfl
  let W : Overlay := .within d "" s (whereWord ++ x) (whereAfter s)
    ((tokensOf d x ++ [endOf x]).map (Token.shift (size (s ++ whereWord))))
    .whereClause .empty False
  have hright : W.right = ⟨s ++ whereWord ++ x, d⟩ := by
    simp [W, Overlay.within, String.append_assoc]
  have hl : W.Linked (startState d s) (startState d (s ++ whereWord ++ x)) (tokensOf d s) :=
    Overlay.within_linked False.elim (by rw [hstart, hempty, Token.map_shift_zero])
      (startState_references _ _)
  have hc (m : Nat) (hm : (tokensOf d x).length + 1 ≤ m) : Conditioned W (nested m) added := by
    refine ⟨rfl, fun u hu hverb => ?_⟩
    have htook : Took u u.advance W.after .empty :=
      (Took.here hu).advance (by simp [W, Overlay.within])
    have hwhole : s ++ whereWord ++ x ++ "" = s ++ whereWord ++ x := String.append_empty
    have hcloses : Closes ((endOf x).shift (size (s ++ whereWord))).kind := .eof
    obtain ⟨v, hv, htook'⟩ := hx.took hwhole hcloses (htook.verb.trans hverb)
      (htook.tokens.trans List.map_append) hm
    rw [hright]
    refine ⟨e, v, hv, htook'.kind, ?_⟩
    rw [htook'.references, ParserState.advance_references]
  obtain ⟨q', v, hv, hfinish⟩ := nested_statement_conditioned
    (m := (tokensOf d s).length + 1 + (tokensOf d x).length + 1) hc (by omega) hl ht hbare heof
  rw [hright] at hv
  refine ⟨q', ?_⟩
  rw [parseScript_select (by omega) hv hfinish.atEof]
  obtain ⟨noted, hs, hlog⟩ := hfinish.log
  rw [hlog, hs]
  rfl

end SqlWeave.Parser
