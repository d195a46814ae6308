import SqlWeave.Proofs.Parser.ConditionText

/-! A condition with a subquery added. `(p) AND EXISTS (q)` is read as the expression `p` and then
the query `q`, each as it is read by itself. -/

namespace SqlWeave.Parser

open Token (byteLength tokenize tokensFrom_symbol tokensFrom_word tokensFrom_blank)

variable {d : Dialect} {i : Nested} {src : Source} {s t u : ParserState}

/-! ## The text and its tokens -/

/-- `(p) AND EXISTS (q)`. -/
def conjoined (p q : String) : String := "(" ++ p ++ ") AND EXISTS (" ++ q ++ ")"

/-- A token of so many bytes. -/
def tokenAt (kind : TokenKind) (start length : Nat) : Token := ⟨kind, ⟨start, start + length⟩⟩

theorem tokenize_conjoined {p q : String} (hp : ClosedBefore d ')' p) (hq : ClosedBefore d ')' q) :
    tokenize d (conjoined p q) = tokenAt (.symbol .leftParen) 0 1 ::
      ((tokensOf d p).map (Token.shift (size "(")) ++
        tokenAt (.symbol .rightParen) (size p + 1) 1 :: tokenAt (.keyword .AND) (size p + 3) 3 ::
        tokenAt (.keyword .EXISTS) (size p + 7) 6 :: tokenAt (.symbol .leftParen) (size p + 14) 1 ::
        ((tokensOf d q).map (Token.shift (size ("(" ++ p ++ ") AND EXISTS ("))) ++
          [tokenAt (.symbol .rightParen) (size p + 15 + size q) 1, endOf (conjoined p q)])) := by
  have hlist : (conjoined p q).toList = '(' :: (p.toList ++
      ')' :: ' ' :: ('A' :: "ND".toList ++ ' ' :: ('E' :: "XISTS".toList ++ ' ' :: '(' ::
        (q.toList ++ [')'])))) := by
    simp only [conjoined, String.toList_append, List.append_assoc]
    rfl
  have hopen : size "(" = 1 := rfl
  have hbefore : size ("(" ++ p ++ ") AND EXISTS (") = size p + 15 := by
    rw [size_append, size_append, hopen, Nat.add_comm 1, Nat.add_assoc]
    rfl
  have hend : size (conjoined p q) = size p + 15 + size q + 1 := by
    rw [conjoined, size_append, size_append, hbefore]
    rfl
  rw [tokenize, hlist, tokensFrom_symbol _ _ (by decide) rfl rfl, tokensFrom_text rfl hp,
    tokensFrom_symbol _ _ (by decide) rfl rfl, tokensFrom_blank _ _ (by decide),
    tokensFrom_word _ _ (by decide) rfl rfl, tokensFrom_word _ _ (by decide) rfl rfl,
    tokensFrom_symbol _ _ (by decide) rfl rfl, tokensFrom_text rfl hq,
    tokensFrom_symbol _ _ (by decide) rfl rfl, Token.tokensFrom_nil]
  have hleft : '('.utf8Size = 1 := rfl
  have hright : ')'.utf8Size = 1 := rfl
  have hblank : ' '.utf8Size = 1 := rfl
  have hand : byteLength ('A' :: "ND".toList) = 3 := rfl
  have hexists : byteLength ('E' :: "XISTS".toList) = 6 := rfl
  simp only [tokenAt, endOf, hopen, hbefore, hend, hleft, hright, hblank, hand, hexists,
    Nat.zero_add, Nat.add_comm 1 (size p), Nat.add_assoc, Nat.reduceAdd]

/-! ## Queries -/

/-- The text is one query and nothing else. -/
def ReadsQuery (d : Dialect) (text : String) (q : Query Expr) (r : References) : Prop :=
  ∃ t, Returns (nested ((tokensOf d text).length + 1)).query ⟨text, d⟩ (startState d text) q t ∧
    t.current.kind = .eof ∧ t.references = r

/-- A statement notes its WITH clause twice, a query once. -/
theorem ReadsSelect.query {text : String} {q : Query Expr} {r : References}
    (h : ReadsSelect d text q r) :
    ∃ r', ReadsQuery d text q r' := by
  obtain ⟨t, ht, heof, rfl⟩ := h
  rcases Nested.statement_select_iff.mp ht with ⟨_, hq⟩ | ⟨_, hwith⟩
  · exact ⟨_, t, hq, heof, rfl⟩
  · obtain ⟨withs, u, _, _, hq⟩ := Nested.withStatement_select_iff.mp hwith
    have htracks (W : Overlay) (hW : W.ending.kind = .eof) : Tracks W
        (nested ((tokensOf d text).length + 1)).query
          (nested ((tokensOf d text).length + 1)).query := by
      refine (nested_tracked (Nat.le_refl _)).queryClosed W ?_
      rw [hW]
      exact TokenKind.noConfusion
    obtain ⟨_, t', ht', htokens⟩ := TracksOn.again (t := startState d text) htracks
      (by exact startState_ended d text) (by rfl) hq
    injection htokens with hcurrent _
    exact ⟨_, t', ht', by rw [hcurrent, heof], rfl⟩

theorem ReadsQuery.took {before text behind whole : String} {q : Query Expr} {r : References}
    (h : ReadsQuery d text q r) (hwhole : before ++ text ++ behind = whole) {ending : Token}
    {after : List Token} (hending : ending.kind = .symbol .rightParen) {t : ParserState}
    (hv : t.verb = "select")
    (ht : t.current :: t.rest = (tokensOf d text).map (Token.shift (size before)) ++
      ending :: after) {m : Nat} (hm : (tokensOf d text).length + 1 ≤ m) :
    ∃ u, Returns (nested m).query ⟨whole, d⟩ t q u ∧ Took t u (ending :: after) r := by
  obtain ⟨s, hs, heof, rfl⟩ := h
  have hnoted : (nested ((tokensOf d text).length + 1)).Noted True := nested_noted _
  have hcloses : Closes ending.kind := hending ▸ .rightParen
  refine Took.of_tracks hwhole (fun W _ hW => (nested_tracked hm).queryClosed W ?_)
    (fun _ _ _ _ hverb h => (hnoted.query "select" _ _ _ _ hverb h).1) hcloses hv ht hs heof
  rw [hW, hending]
  exact TokenKind.noConfusion

/-! ## Readers at the tokens of the text -/

theorem expect_takes {mark : Symbol} (hs : s.current.kind = .symbol mark) :
    Returns (expect mark) src s () s.advance :=
  (takeIf_takes (isAt_asks mark) (by rw [hs]; exact beq_self_eq_true _)).andThen rfl

namespace Nested

/-- No expression starts with SELECT or WITH. -/
theorem readExpr_not_query {least : Nat} {e : Expr} (h : Returns (i.readExpr least) src s e t) :
    s.current.kind ≠ .keyword .SELECT ∧ s.current.kind ≠ .keyword .WITH := by
  have hreserved (k : Keyword) (hk : i.keywordExpr k = i.wordExpr k)
      (hcall : isCallableKeyword k = false) (hname : k.isUnreserved = false)
      (hlead : Operator.leading? (.keyword k) = none) :
      s.current.kind ≠ .keyword k := by
    intro hs
    obtain ⟨left, u, hleft, _⟩ := Returns.bind h
    obtain ⟨kind, v, hkind, hleft⟩ := Returns.bind hleft
    obtain ⟨rfl, rfl⟩ := kind_returns hkind
    rw [hs, hlead] at hleft
    obtain ⟨kind, v, hkind, hleft⟩ := Returns.bind hleft
    obtain ⟨rfl, rfl⟩ := kind_returns hkind
    rw [hs] at hleft
    change Returns (i.keywordExpr k) src s left u at hleft
    rw [hk] at hleft
    obtain ⟨next, v, _, hleft⟩ := Returns.bind hleft
    rw [hcall, hname] at hleft
    exact not_returns_unexpected hleft
  exact ⟨hreserved .SELECT rfl rfl rfl rfl, hreserved .WITH rfl rfl rfl rfl⟩

theorem parenthesizedExpr_returns {e : Expr} (hselect : s.current.kind ≠ .keyword .SELECT)
    (hwith : s.current.kind ≠ .keyword .WITH) (h : Returns (i.expr 0) src s e t)
    (ht : t.current.kind = .symbol .rightParen) :
    Returns i.parenthesizedExpr src s e.parenthesized t.advance := by
  refine Returns.andThen (returns_kind.andThen rfl) ?_
  rw [if_neg (by simp [hselect, hwith])]
  refine h.andThen ((many_stops (isAt_asks .comma) (by rw [ht]; rfl)).andThen ?_)
  exact (expect_takes ht).andThen rfl

theorem existsExpr_returns {q : Query Expr} (hs : s.current.kind = .symbol .leftParen)
    (h : Returns i.query src s.advance q t) (ht : t.current.kind = .symbol .rightParen) :
    Returns i.existsExpr src s (.unary "EXISTS" (.query q.parenthesized)) t.advance := by
  have hquery : Returns i.parenthesizedQuery src s.advance q t.advance :=
    h.andThen ((expect_takes ht).andThen rfl)
  exact (expect_takes hs).andThen (hquery.andThen rfl)

theorem readExpr_returns {least : Nat} {left e : Expr}
    (hs : Operator.leading? s.current.kind = none) (hleft : Returns i.readPrimary src s left t)
    (h : Returns (i.operators least (t.rest.length + 1) left) src t e u) :
    Returns (i.readExpr least) src s e u := by
  refine Returns.andThen (x := left) (u := t) ?_ (returns_rounds.andThen h)
  refine returns_kind.andThen ?_
  rw [hs]
  exact hleft

theorem operators_eof (least n : Nat) (left : Expr) (hs : s.current.kind = .eof) :
    Returns (i.operators least (n + 1) left) src s left s := by
  refine returns_kind.andThen ?_
  rw [hs]
  rfl

theorem operators_and {least n : Nat} {left right e : Expr} (hleast : least ≤ 3)
    (hs : s.current.kind = .keyword .AND) (hright : Returns (i.expr 4) src s.advance right t)
    (h : Returns (i.operators least n (left.binary "AND" right)) src t e u) :
    Returns (i.operators least (n + 1) left) src s e u := by
  have hform : Returns (i.infixForm left 4) src s (some (left.binary "AND" right)) t := by
    refine returns_kind.andThen ?_
    rw [hs]
    refine Returns.andThen (x := some "AND") (u := s) ?_
      (returns_advance.andThen (hright.andThen rfl))
    refine returns_kind.andThen ?_
    rw [hs]
    rfl
  refine returns_kind.andThen ?_
  rw [hs]
  show Returns (if 3 < least then _ else _) src s e u
  rw [if_neg (Nat.not_lt.mpr hleast)]
  exact hform.andThen h

end Nested

/-! ## The whole condition -/

/-- The condition in parentheses and the subquery after it. -/
theorem ReadsExpr.conjoined {p q : String} {e : Expr} {query : Query Expr} {r r' : References}
    (hp : ReadsExpr d p e r) (hq : ReadsQuery d q query r') (hcp : ClosedBefore d ')' p)
    (hcq : ClosedBefore d ')' q) :
    ReadsExpr d (conjoined p q)
      (e.parenthesized.binary "AND" (.unary "EXISTS" (.query query.parenthesized)))
        (r.append r') := by
  have hstart := (startState_tokens d (Parser.conjoined p q)).trans (tokenize_conjoined hcp hcq)
  have hlength : (tokensOf d (Parser.conjoined p q)).length =
      (tokensOf d p).length + (tokensOf d q).length + 6 := by
    have htokens := congrArg List.length hstart
    rw [← startState_rest]
    simp only [List.length_cons, List.length_append, List.length_map, List.length_nil] at htokens
    omega
  let m := (tokensOf d p).length + (tokensOf d q).length + 5
  let start := startState d (Parser.conjoined p q)
  -- `p` behind its parenthesis
  have hfirst := Took.here hstart
  have hinside := hfirst.advance (by simp)
  have hverb : start.advance.verb = "select" := hinside.verb.trans (startState_verb _ _)
  have hwhole : "(" ++ p ++ (") AND EXISTS (" ++ q ++ ")") = Parser.conjoined p q := by
    simp only [Parser.conjoined, String.append_assoc]
  obtain ⟨u, hu, htook⟩ := hp.took (m := m + 1) hwhole .rightParen hverb hinside.tokens (by omega)
  -- `q` behind AND EXISTS and its parenthesis
  have hand := htook.advance (by simp)
  have hexists := hand.advance (by simp)
  have hopen := hexists.advance (by simp)
  have hbehind := hopen.advance (by simp)
  have hwhole' : "(" ++ p ++ ") AND EXISTS (" ++ q ++ ")" = Parser.conjoined p q := rfl
  obtain ⟨v, hv, htook'⟩ := hq.took (m := m) hwhole' rfl (hbehind.verb.trans hverb) hbehind.tokens
    (by omega)
  have hend := htook'.advance (by simp)
  have hleft : Returns (nested (m + 1)).readPrimary ⟨Parser.conjoined p q,
      d⟩ start e.parenthesized u.advance := by
    obtain ⟨hselect, hwith⟩ := Nested.readExpr_not_query hu
    refine returns_kind.andThen ?_
    rw [hfirst.kind]
    exact returns_advance.andThen (Nested.parenthesizedExpr_returns hselect hwith hu htook.kind)
  have hright : Returns ((nested (m + 1)).expr 4) ⟨Parser.conjoined p q, d⟩ u.advance.advance
      (.unary "EXISTS" (.query query.parenthesized)) v.advance := by
    refine Nested.readExpr_returns (i := nested m) (by rw [hexists.kind]; rfl) ?_
      (Nested.operators_eof _ _ _ hend.kind)
    refine returns_kind.andThen ?_
    rw [hexists.kind]
    exact returns_advance.andThen (Nested.existsExpr_returns hopen.kind hv htook'.kind)
  obtain ⟨n, hn⟩ : ∃ n, u.advance.rest.length = n + 1 := by
    have hrest := congrArg List.length hand.tokens
    simp only [List.length_cons] at hrest
    exact ⟨_, Nat.succ.inj hrest⟩
  refine ⟨v.advance, ?_, hend.kind, ?_⟩
  · rw [hlength]
    refine Nested.readExpr_returns (i := nested (m + 1)) ?_ hleft ?_
    · rw [hfirst.kind]
      rfl
    · rw [hn]
      exact Nested.operators_and (by omega) hand.kind hright (Nested.operators_eof _ _ _ hend.kind)
  · have hreferences := ((hinside.trans hbehind).trans hend).references
    rw [startState_references, References.empty_append, References.empty_append] at hreferences
    exact hreferences

/-- The subquery comes to what the text notes already. -/
theorem EndsInWhere.conjoined {s p q : String} {query : Query Expr} {r added : References}
    (h : EndsInWhere d s p r) (hcp : ClosedBefore d ')' p) (hq : ReadsQuery d q query added)
    (hcq : ClosedBefore d ')' q) : EndsInWhere d s (Parser.conjoined p q) (r.append added) := by
  obtain ⟨⟨select, e, before, noted, hs, hbare, hp, rfl⟩, hclosed⟩ := h
  exact ⟨⟨select, _, before, _, hs, hbare, hp.conjoined hq hcp hcq, References.append_assoc _ _ _⟩,
    hclosed⟩

end SqlWeave.Parser
