import SqlWeave.Proofs.Spelling.Select

/-! Queries: SELECTs one after the other with set operators between them, and by induction over all
that nests in them everything that a core query is made of. -/

namespace SqlWeave

open Token (Piece Lexes Quoting)
open SqlWeave.Parser (Nested Reads nested next)
open Render (Result Item)

variable {r : Renderer} {opening closing : Char} {text : String} {ks rest : List Piece}

/-! ## Set operators -/

/-- A set operator before the SELECT that it joins. -/
structure SetSpelled (q : Quoting) (operator : String) (ks : List Piece) : Prop where
  lexes : Lexes q (Text.upper operator) ks
  starts : ks ≠ [] ∧ clauseRank (next ks) = 7
  reads : ∀ rest, (next rest == .keyword .SELECT || next rest == .keyword .WITH) = true →
    Reads Parser.setOperator? (ks ++ rest) (some operator) rest

section SetOperators

variable {q : Quoting} {word : Keyword} {operator : String}

theorem SetSpelled.plain (hword : Parser.setWord? (.keyword word) = some operator)
    (hrank : clauseRank (.keyword word) = 7) (hupper : Text.upper operator = word.spelling) :
    SetSpelled q operator [.word word] where
  lexes := hupper ▸ .keyword word
  starts := ⟨by simp, hrank⟩
  reads := by
    intro rest hrest
    have hnot (mark : Keyword) (hmark : mark ≠ .SELECT ∧ mark ≠ .WITH) :
        (next rest == .keyword mark) = false := by
      refine beq_eq_false_iff_ne.mpr fun hnext => ?_
      simp [hnext, hmark] at hrest
    refine .look ?_
    simp only [List.singleton_append, Parser.next_cons, Parser.Piece.word_kind, hword]
    refine .step (.left (Parser.isAtKeyword_asks .ALL) (hnot .ALL (by decide)) ?_)
    exact .left (Parser.isAtKeyword_asks .DISTINCT) (hnot .DISTINCT (by decide)) (.pure _)

theorem SetSpelled.all (hword : Parser.setWord? (.keyword word) = some operator)
    (hrank : clauseRank (.keyword word) = 7)
    (hupper : Text.upper (operator ++ " all") = word.spelling ++ " " ++ "ALL") :
    SetSpelled q (operator ++ " all") ([.word word] ++ [.word .ALL]) where
  lexes := hupper ▸ .spaced (.keyword word) (.keyword .ALL)
  starts := ⟨by simp, hrank⟩
  reads := by
    intro rest _
    refine .look ?_
    simp only [List.cons_append, Parser.next_cons, Parser.Piece.word_kind, hword]
    exact .step (.taken (Parser.isAtKeyword_asks .ALL) rfl (.pure _))

theorem SetSpelled.distinct (hword : Parser.setWord? (.keyword word) = some operator)
    (hrank : clauseRank (.keyword word) = 7)
    (hupper : Text.upper (operator ++ " distinct") = word.spelling ++ " " ++ "DISTINCT") :
    SetSpelled q (operator ++ " distinct") ([.word word] ++ [.word .DISTINCT]) where
  lexes := hupper ▸ .spaced (.keyword word) (.keyword .DISTINCT)
  starts := ⟨by simp, hrank⟩
  reads := by
    intro rest _
    refine .look ?_
    simp only [List.cons_append, Parser.next_cons, Parser.Piece.word_kind, hword]
    refine .step (.left (Parser.isAtKeyword_asks .ALL) rfl ?_)
    exact .taken (Parser.isAtKeyword_asks .DISTINCT) rfl (.pure _)

theorem setOperator_spelled (h : operator ∈ setOperators) : ∃ ks, SetSpelled q operator ks := by
  have hthree {word : Keyword} {operator : String}
      (hword : Parser.setWord? (.keyword word) = some operator)
      (hrank : clauseRank (.keyword word) = 7) (hupper : Text.upper operator = word.spelling ∧
        Text.upper (operator ++ " all") = word.spelling ++ " " ++ "ALL" ∧
        Text.upper (operator ++ " distinct") = word.spelling ++ " " ++ "DISTINCT") :
      ∀ o ∈ [operator, operator ++ " all", operator ++ " distinct"], ∃ ks, SetSpelled q o ks := by
    simp only [List.forall_mem_cons]
    exact ⟨⟨_, .plain hword hrank hupper.1⟩, ⟨_, .all hword hrank hupper.2.1⟩,
      ⟨_, .distinct hword hrank hupper.2.2⟩, fun _ hnone => (List.not_mem_nil hnone).elim⟩
  have hsplit : setOperators = ["union", "union" ++ " all", "union" ++ " distinct"] ++
      ["intersect", "intersect" ++ " all", "intersect" ++ " distinct"] ++
      ["except", "except" ++ " all", "except" ++ " distinct"] := rfl
  rw [hsplit, List.mem_append, List.mem_append] at h
  rcases h with (h | h) | h
  · exact @hthree .UNION _ rfl rfl (by decide) operator h
  · exact @hthree .INTERSECT _ rfl rfl (by decide) operator h
  · exact @hthree .EXCEPT _ rfl rfl (by decide) operator h

end SetOperators

/-! ## Chains of SELECTs -/

/-- What comes after a SELECT: nothing, or an operator and a query. -/
def Parser.Nested.chainFrom (inner : Nested) (head : Select Expr) : Parser (Query Expr) := do
  match ← Parser.setOperator? with
  | none => return { head }
  | some operator =>
    let next ← inner.query
    return { head := { head with setOperator := some operator }, rest := next.head :: next.rest }

theorem Parser.Nested.selectChain_eq (inner : Nested) (withs : Option (List (Cte Expr))) :
    inner.selectChain withs = (do inner.chainFrom (← inner.selectCore withs)) := rfl

theorem ReadsAhead.append (h : ReadsAhead ks) (hsome : ks ≠ []) (more : List Piece) :
    ReadsAhead (ks ++ more) := by
  intro n hn hword rest
  rw [List.length_append] at hn
  rw [Parser.next_append hsome] at hword
  rw [List.append_assoc]
  exact h n (by omega) hword (more ++ rest)

/-- One SELECT, read before what comes after it. -/
structure Select.Spelled (r : Renderer) (s : Select Expr) (text : String)
    (ks : List Piece) : Prop where
  rendered : r.select (s.map r.item) = .ok text
  lexes : Lexes r.config.dialect.quoting text ks
  opens : (next ks == .keyword .SELECT || next ks == .keyword .WITH) = true
  ahead : ReadsAhead ks
  reads : ∀ n, ks.length ≤ n → ∀ rest, 6 < clauseRank (next rest) → ∀ y final,
    Reads ((nested n).chainFrom { s with setOperator := none }) rest y final →
    Reads (nested n).setChain (ks ++ rest) y final

theorem select_spelled (hr : r.Standard opening closing) {s : Select Expr}
    (hs : s.Plain r.config.dialect) (h : s.Holds (·.Spelled r)) :
    ∃ text ks, s.Spelled r text ks := by
  obtain ⟨tw, kw, hwith⟩ := with_spelled hr hs.withs fun ctes hctes c hc q hq =>
    (h.withs ctes hctes c hc).source q hq
  obtain ⟨text, ks, hrendered, hlexes, hreads⟩ :=
    selectCore_spelled hr hs h hwith.rendered hwith.lexes
  refine ⟨text, kw ++ .word .SELECT :: ks, hrendered, hlexes, ?_, fun n hn hword rest => ?_,
    fun n hn rest hrest y final hmore => ?_⟩
  · by_cases hnone : kw = []
    · subst hnone
      rfl
    · rw [Parser.next_append hnone, hwith.opens.resolve_left hnone]
      rfl
  · have hsome : kw ≠ [] := by
      rintro rfl
      cases hword
    rw [List.length_append] at hn
    obtain ⟨ctes, hreads⟩ := hwith.ahead hsome n (by omega) (.word .SELECT :: (ks ++ rest)) rfl
    refine ⟨ctes, .word .SELECT :: (ks ++ rest), rfl, ?_⟩
    rw [List.append_assoc]
    exact hreads
  · rw [List.length_append, List.length_cons] at hn
    rw [List.append_assoc, List.cons_append]
    refine hwith.reads n (by omega) _ rfl y final ?_
    rw [Nested.selectChain_eq]
    exact (hreads n (by omega) rest hrest).bind hmore

/-- What a query ends before. -/
def endsQuery (k : TokenKind) : Bool :=
  k == .symbol .rightParen || k == .symbol .semicolon || k == .eof

theorem endsQuery_rank {k : TokenKind} (h : endsQuery k = true) :
    clauseRank k = 8 ∧ Parser.setWord? k = none := by
  simp only [endsQuery, Bool.or_eq_true, beq_iff_eq] at h
  rcases h with (rfl | rfl) | rfl <;> exact ⟨rfl, rfl⟩

theorem query_succ_reads {n : Nat} {q : Query Expr} (h : Reads (nested n).setChain ks q rest) :
    Reads (nested (n + 1)).query ks q rest :=
  h.withVerb

/-- SELECTs with operators between them, by induction over those after the first. -/
theorem chain_spelled {s : Select Expr} {more : List (Select Expr)} (hlinked : Linked (s :: more))
    (h : ∀ s' ∈ s :: more, ∃ text ks, s'.Spelled r text ks) :
    ∃ head tail ks, r.select (s.map r.item) = .ok head ∧
      r.chain s.setOperator (more.map (Select.map r.item)) = .ok tail ∧
      (next ks == .keyword .SELECT || next ks == .keyword .WITH) = true ∧ ReadsAhead ks ∧
      Legible r.config.dialect.quoting (fun i => i.query) endsQuery { head := s, rest := more }
        (head ++ tail) ks := by
  induction more generalizing s with
  | nil =>
    obtain ⟨text, ks, hs⟩ := h s List.mem_cons_self
    have hnone : s.setOperator = none := hlinked
    refine ⟨text, "", ks, hs.rendered, rfl, hs.opens, hs.ahead, ?_, fun n hn rest hrest => ?_⟩
    · rw [String.append_empty]
      exact hs.lexes
    · obtain ⟨hrank, hword⟩ := endsQuery_rank hrest
      obtain ⟨n, rfl⟩ : ∃ m, n = m + 1 := ⟨n - 1, by omega⟩
      refine query_succ_reads (hs.reads n (by omega) rest (by omega) _ _ ?_)
      have hlast : Reads Parser.setOperator? rest none rest := by
        refine .look ?_
        rw [hword]
        exact .pure _
      refine hlast.bind ?_
      obtain ⟨withs, distinct, columns, tables, condition, groupBy, having, windows, orderBy, limit,
          setOperator, parens⟩ := s
      obtain rfl : setOperator = none := hnone
      exact .pure _
  | cons following more ih =>
    obtain ⟨⟨operator, hmem, hoperator⟩, hlinked⟩ := hlinked
    obtain ⟨text, ks, hs⟩ := h s List.mem_cons_self
    obtain ⟨head, tail, kq, hhead, htail, hopens, -, hlegible⟩ :=
      ih hlinked fun s' hs' => h s' (List.mem_cons_of_mem _ hs')
    obtain ⟨ko, hset⟩ := setOperator_spelled (q := r.config.dialect.quoting) hmem
    have hsome : ks ≠ [] := by
      rintro rfl
      cases hs.opens
    have hmore : kq ≠ [] := by
      rintro rfl
      cases hopens
    refine ⟨text, " " ++ Text.upper operator ++ " " ++ head ++ tail, ks ++ (ko ++ kq),
      hs.rendered, ?_, ?_, hs.ahead.append hsome _, ?_, fun n hn rest hrest => ?_⟩
    · rw [List.map_cons, Renderer.chain, hhead, show r.chain (following.map r.item).setOperator _ =
        _ from htail, hoperator]
      rfl
    · rw [Parser.next_append hsome]
      exact hs.opens
    · have hspaced := hs.lexes.spaced (hset.lexes.spaced hlegible.lexes)
      simpa only [String.append_assoc] using hspaced
    · obtain ⟨n, rfl⟩ : ∃ m, n = m + 1 := ⟨n - 1, by omega⟩
      have hpos := List.length_pos_iff.mpr hsome
      rw [List.length_append, List.length_append] at hn
      rw [List.append_assoc, List.append_assoc]
      have hrank : 6 < clauseRank (next (ko ++ (kq ++ rest))) := by
        rw [Parser.next_append hset.starts.1, hset.starts.2]
        decide
      refine query_succ_reads (hs.reads n (by omega) _ hrank _ _ ?_)
      refine (hset.reads _ (by rwa [Parser.next_append hmore])).bind
        ((hlegible.reads n (by omega) rest hrest).bind ?_)
      obtain ⟨withs, distinct, columns, tables, condition, groupBy, having, windows, orderBy, limit,
          setOperator, parens⟩ := s
      obtain rfl : setOperator = some operator := hoperator
      exact .pure _

theorem query_spelled {q : Query Expr} (hparens : q.head.parens = false)
    (hlinked : Linked (q.head :: q.rest))
    (h : ∀ s ∈ q.head :: q.rest, ∃ text ks, s.Spelled r text ks) :
    ∃ text ks, q.Spelled r text ks := by
  obtain ⟨head, tail, ks, hhead, htail, hopens, hahead, hlegible⟩ := chain_spelled hlinked h
  refine ⟨head ++ tail, ks, ?_, hparens, hopens, hahead, hlegible⟩
  unfold Renderer.query
  rw [show r.select (q.map r.item).head = _ from hhead,
    show r.chain (q.map r.item).head.setOperator (q.map r.item).rest = _ from htail,
        show (q.map r.item).parens = false from hparens]
  rfl

/-! ## Core queries -/

/-- Every core expression and every core query is spelled, by induction over what makes it one. -/
theorem Phrase.Core.spelled (hr : r.Standard opening closing) {p : Phrase}
    (h : Phrase.Core r.config.dialect p) :
    p.Spelled r := by
  induction h with
  | column c hc => exact SqlWeave.Spelled.column hr hc
  | number n hn => exact ⟨_, _, .number hn⟩
  | string value => exact ⟨_, _, .string value⟩
  | bool value => exact SqlWeave.Spelled.bool value
  | null => exact ⟨_, _, .null⟩
  | tuple items _ hlength ih => exact SqlWeave.Spelled.tuple hlength ih
  | call name args _ hname ih => exact SqlWeave.Spelled.call hname ih
  | case subject arms otherwise _ _ _ _ harms hsubject hwhen hthen hotherwise =>
    exact SqlWeave.Spelled.case harms hsubject hwhen hthen hotherwise
  | binary operator power left right _ _ hoperator hleads hyields htight hnot hleft hright =>
    exact SqlWeave.Spelled.binary hoperator hleft hright hleads hyields htight hnot
  | member operator left items _ _ hoperator hleads hyields hsome hleft hitems =>
    exact SqlWeave.Spelled.member hoperator hleft hitems hleads hyields hsome
  | memberOf operator left q _ _ hoperator hleads hyields hleft hq =>
    exact SqlWeave.Spelled.memberOf hoperator hleft hq hleads hyields
  | range operator left low high _ _ _ hoperator hleads hyields hlowTight hand hhighTight hleft hlow
      hhigh =>
    exact SqlWeave.Spelled.range hoperator hleft hlow hhigh hleads hyields hlowTight hand hhighTight
  | existence q _ hq =>
    obtain ⟨text, ks, hq⟩ := hq
    exact ⟨_, _, hq.existence⟩
  | subquery q _ hq =>
    obtain ⟨text, ks, hq⟩ := hq
    exact ⟨_, _, hq.subquery⟩
  | unary operator power operand _ hoperator htight hdash hoperand =>
    exact SqlWeave.Spelled.unary hoperator hoperand htight hdash
  | parenthesized e _ hbare he =>
    obtain ⟨text, ks, he⟩ := he
    exact ⟨_, _, he.parenthesized hr.registry hbare⟩
  | query q _ hselects hlinked hphrases =>
    refine query_spelled (hselects q.head List.mem_cons_self).parens hlinked fun s hs => ?_
    exact select_spelled hr (hselects s hs) (Select.holds_of_phrases (hphrases s hs))

end SqlWeave
