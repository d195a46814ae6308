import SqlWeave.Proofs.Spelling.Operation

/-! Clauses of a SELECT. Each starts with a word of its own, and these words come in a fixed order,
so a clause ends where a later one starts, and one that is missing is passed over. -/

namespace SqlWeave

open Token (Piece Lexes Quoting)
open SqlWeave.Parser (Nested Reads nested next)
open Render (Result Item commas inParens sqls fragments clause)
open Text (enclose)

variable {r : Renderer} {opening closing : Char} {text : String} {ks : List Piece}

/-! ## The order of clauses -/

/-- What the clauses after a select list start with, in their order, and what comes after a
query. -/
def clauseStarts : List (TokenKind × Nat) :=
  [(.keyword .FROM, 1), (.keyword .WHERE, 2), (.keyword .GROUP, 3), (.keyword .HAVING, 4),
    (.keyword .ORDER, 5), (.keyword .LIMIT, 6), (.keyword .OFFSET, 6), (.keyword .FETCH, 6),
    (.keyword .UNION, 7), (.keyword .INTERSECT, 7), (.keyword .EXCEPT, 7), (.symbol .rightParen, 8),
      (.symbol .semicolon, 8), (.eof, 8)]

/-- The place in the order of clauses; zero for what starts none. -/
def clauseRank (k : TokenKind) : Nat := ((clauseStarts.find? (·.1 == k)).map Prod.snd).getD 0

theorem mem_clauseStarts {k : TokenKind} {rank : Nat} (h : rank < clauseRank k) :
    (k, clauseRank k) ∈ clauseStarts := by
  unfold clauseRank at h ⊢
  cases hfind : clauseStarts.find? (·.1 == k) with
  | none => simp [hfind] at h
  | some start =>
    have hk : start.1 = k := by simpa using List.find?_some hfind
    have hmem := List.mem_of_find?_eq_some hfind
    rw [← hk]
    exact hmem

/-- A fact about everything that may come after a clause. -/
theorem clauseStart_all {P : TokenKind → Bool} {rank : Nat}
    (hall : ∀ start ∈ clauseStarts, rank < start.2 → P start.1 = true) {k : TokenKind}
    (h : rank < clauseRank k) : P k = true :=
  hall _ (mem_clauseStarts h) h

theorem clauseStart_none (mark : TokenKind → Bool) {rank : Nat}
    (hall : ∀ start ∈ clauseStarts, rank < start.2 → (!mark start.1) = true) {k : TokenKind}
    (h : rank < clauseRank k) : mark k = false := by
  have hmark : (!mark k) = true := @clauseStart_all (fun k => !mark k) rank hall k h
  simpa using hmark

theorem endsExpr_of_clauseRank {k : TokenKind} {rank : Nat} (h : rank < clauseRank k) :
    endsExpr k = true :=
  @clauseStart_all endsExpr 0 (by decide) k (by omega)

/-- A word that starts a clause of lower rank is not there. -/
theorem not_clauseStart {k start : TokenKind} (h : clauseRank start < clauseRank k) :
    (k == start) = false := by
  refine beq_eq_false_iff_ne.mpr ?_
  rintro rfl
  exact Nat.lt_irrefl _ h

/-- Whether one of these tokens or a later clause comes next. -/
def endsBefore (starts : List TokenKind) (rank : Nat) (k : TokenKind) : Bool :=
  starts.contains k || decide (rank < clauseRank k)

theorem endsBefore_all {starts : List TokenKind} {rank : Nat} {P : TokenKind → Bool}
    (hstarts : ∀ k ∈ starts, P k = true)
    (hall : ∀ start ∈ clauseStarts, rank < start.2 → P start.1 = true) {k : TokenKind}
    (h : endsBefore starts rank k = true) : P k = true := by
  simp only [endsBefore, Bool.or_eq_true, List.contains_iff_mem, decide_eq_true_eq] at h
  rcases h with hmem | hrank
  · exact hstarts k hmem
  · exact clauseStart_all hall hrank

/-- A clause, or nothing where it is missing. -/
structure ClauseSpelled {α : Type} (q : Quoting) (p : Nested → Parser α) (rank : Nat) (x : α)
    (text : String) (ks : List Piece) : Prop where
  legible : Legible q p (fun k => decide (rank < clauseRank k)) x text ks
  starts : ks = [] ∨ clauseRank (next ks) = rank

theorem ClauseSpelled.missing {α : Type} {q : Quoting} {p : Nested → Parser α} {rank : Nat} {x : α}
    (h : ∀ i rest, rank < clauseRank (next rest) → Reads (p i) rest x rest) :
    ClauseSpelled q p rank x "" [] where
  legible := ⟨.empty, fun _ _ rest hrest => h _ rest (of_decide_eq_true hrest)⟩
  starts := .inl rfl

/-- Where a clause comes next, or what comes after it, an earlier clause ends. -/
theorem ClauseSpelled.next_rank {α : Type} {q : Quoting} {p : Nested → Parser α} {rank : Nat}
    {x : α} {rest : List Piece} (h : ClauseSpelled q p rank x text ks) (earlier : Nat)
    (hrank : earlier < rank) (hrest : rank < clauseRank (next rest)) :
    earlier < clauseRank (next (ks ++ rest)) := by
  rcases h.starts with rfl | hstart
  · exact Nat.lt_trans hrank hrest
  · by_cases hks : ks = []
    · subst hks
      exact Nat.lt_trans hrank hrest
    · rwa [Parser.next_append hks, hstart]

theorem Legible.ne_empty {α : Type} {q : Quoting} {p : Nested → Parser α} {ends : TokenKind → Bool}
    {x : α} (h : Legible q p ends x text ks) (hks : ks ≠ []) : text.isEmpty = false := by
  rw [Bool.eq_false_iff]
  intro hempty
  rw [String.isEmpty_iff] at hempty
  subst hempty
  exact hks h.lexes.eq_nil

theorem clause_eq {keyword : String} (h : text.isEmpty = false) :
    clause keyword text = keyword ++ " " ++ text := by
  rw [clause, h]
  rfl

/-! ## WHERE, GROUP BY and HAVING -/

/-- The text of a clause that is one expression. -/
def conditionText (keyword : String) : Option Item → Result String
  | none => return ""
  | some i => return clause keyword (← i.sql)

/-- One expression after a word of its own. -/
theorem condition_spelled (word : Keyword) {condition : Option Expr}
    (h : ∀ e ∈ condition, ∃ text ks, Spelled r e text ks) :
    ∃ text ks, conditionText word.spelling (condition.map r.item) = .ok text ∧
      ClauseSpelled r.config.dialect.quoting
        (fun i => do if ← Parser.eatKeyword word then return some (← i.expr 0) else return none)
        (clauseRank (.keyword word)) condition text ks := by
  cases condition with
  | none =>
    refine ⟨"", [], rfl, .missing fun i rest hrest => ?_⟩
    exact .left (Parser.isAtKeyword_asks word) (not_clauseStart hrest) (.pure _)
  | some e =>
    obtain ⟨text, ks, he⟩ := h e rfl
    have hempty := he.legible.ne_empty (ne_nil_of_opens he.opens)
    refine ⟨word.spelling ++ " " ++ text, [.word word] ++ ks, ?_, ⟨?_, ?_⟩, .inr rfl⟩
    · show (do return clause word.spelling (← r.expr e)) = _
      rw [he.rendered]
      show Except.ok (clause word.spelling text) = _
      rw [clause_eq hempty]
    · exact Lexes.spaced (.keyword word) he.lexes
    · intro n hn rest hrest
      rw [List.singleton_append, List.length_cons] at hn
      have hends := endsExpr_of_clauseRank (of_decide_eq_true hrest)
      exact .taken (Parser.isAtKeyword_asks word) (beq_self_eq_true _)
        ((he.legible.reads n (by omega) rest hends).bind (.pure _))

def groupByText : Option (List Item) → Result String
  | none => return ""
  | some items => return clause "GROUP BY" (commas (← sqls items))

theorem groupBy_spelled {groupBy : Option (List Expr)} (hne : ∀ es ∈ groupBy, es ≠ [])
    (h : ∀ es ∈ groupBy, ∀ e ∈ es, ∃ text ks, Spelled r e text ks) :
    ∃ text ks, groupByText (groupBy.map (·.map r.item)) = .ok text ∧
      ClauseSpelled r.config.dialect.quoting Nested.groupBy? 3 groupBy text ks := by
  cases groupBy with
  | none =>
    refine ⟨"", [], rfl, .missing fun i rest hrest => ?_⟩
    exact .left (Parser.isAtKeyword_asks .GROUP) (not_clauseStart hrest) (.pure _)
  | some es =>
    obtain ⟨text, ks, hrendered, hopens, hlegible⟩ := Spelled.list (hne es rfl) (h es rfl)
    have hempty := hlegible.ne_empty (ne_nil_of_opens hopens)
    refine ⟨"GROUP" ++ " " ++ "BY" ++ " " ++ commas (es.map text), [.word .GROUP] ++ [.word .BY] ++
      ks, ?_, ⟨?_, ?_⟩,
      .inr rfl⟩
    · show (do return clause "GROUP BY" (commas (← sqls (es.map r.item)))) = _
      rw [Renderer.sqls_ok hrendered]
      show Except.ok (clause "GROUP BY" (commas (es.map text))) = _
      rw [clause_eq hempty]
      rfl
    · exact (Lexes.spaced (.keyword .GROUP) (.keyword .BY)).spaced hlegible.lexes
    · intro n hn rest hrest
      simp only [List.length_append, List.length_singleton] at hn
      have hrank := of_decide_eq_true hrest
      have hends : Legible.endsList endsExpr (next rest) = true :=
        clauseStart_all (by decide) hrank
      refine .taken (Parser.isAtKeyword_asks .GROUP) rfl ((Parser.expectKeyword_reads .BY).bind ?_)
      exact (hlegible.reads n (by omega) rest hends).bind (.pure _)

/-! ## ORDER BY -/

/-- What ends an item of ORDER BY. -/
def endsOrderItem : TokenKind → Bool := endsBefore [.symbol .comma] 5

theorem direction_spelled {direction : Option String}
    (h : direction = some "ASC" ∨ direction = some "DESC") :
    ∃ word : Keyword, (direction.map Text.upper).getD "ASC" = word.spelling ∧
      endsExpr (.keyword word) = true ∧
      ∀ rest, Reads Nested.direction? (.word word :: rest) direction rest := by
  rcases h with rfl | rfl
  · refine ⟨.ASC, by decide, rfl, fun rest => ?_⟩
    exact .taken (Parser.isAtKeyword_asks .ASC) rfl (.pure _)
  · refine ⟨.DESC, by decide, rfl, fun rest => ?_⟩
    exact .left (Parser.isAtKeyword_asks .ASC) rfl
      (.taken (Parser.isAtKeyword_asks .DESC) rfl (.pure _))

theorem nulls_given {position : String}
    (hlexes : Lexes r.config.dialect.quoting position [.plain position])
    (hword : ["first", "last"].any (TokenKind.identifier position).isWord = true)
    (hupper : Text.upper position = position)
    (hupper' : Text.upper ("NULLS " ++ position) = "NULLS " ++ position) :
    Lexes r.config.dialect.quoting (Render.upper? (some ("NULLS " ++ position)))
      [.word .NULLS, .plain position] ∧
      ∀ rest, Reads Nested.nulls? (.word .NULLS :: .plain position :: rest)
        (some ("NULLS " ++ position)) rest := by
  constructor
  · have hspaced : Lexes r.config.dialect.quoting ("NULLS" ++ " " ++ position) ([.word .NULLS] ++
        [.plain position]) :=
      .spaced (.keyword .NULLS) hlexes
    rw [show "NULLS" ++ " " = "NULLS " from rfl] at hspaced
    show Lexes _ (Text.upper ("NULLS " ++ position)) _
    rw [hupper']
    exact hspaced
  · intro rest
    refine .taken (Parser.isAtKeyword_asks .NULLS) rfl
      (.isTrue (Parser.isAtAnyWord_asks _) hword (.text (.step ?_)))
    show Reads (pure (some ("NULLS " ++ Text.upper position))) _ _ _
    rw [hupper]
    exact .pure _

theorem nulls_spelled {nulls : Option String}
    (h : nulls = none ∨ nulls = some "NULLS FIRST" ∨ nulls = some "NULLS LAST") :
    ∃ ks, Lexes r.config.dialect.quoting (Render.upper? nulls) ks ∧
      ∀ rest, endsOrderItem (next rest) = true → Reads Nested.nulls? (ks ++ rest) nulls rest := by
  rcases h with rfl | rfl | rfl
  · refine ⟨[], .empty, fun rest hrest => .left (Parser.isAtKeyword_asks .NULLS) ?_ (.pure _)⟩
    refine beq_eq_false_iff_ne.mpr fun hnulls => ?_
    rw [show next rest = _ from hnulls] at hrest
    exact absurd hrest (by decide)
  · obtain ⟨hlexes, hreads⟩ := @nulls_given r "FIRST" (.plain (by decide) (by decide)) (by decide)
      (by decide) (by decide)
    exact ⟨_, hlexes, fun rest _ => hreads rest⟩
  · obtain ⟨hlexes, hreads⟩ := @nulls_given r "LAST" (.plain (by decide) (by decide)) (by decide)
      (by decide) (by decide)
    exact ⟨_, hlexes, fun rest _ => hreads rest⟩

theorem orderItem_spelled {item : OrderItem Expr} (hitem : item.Plain)
    (h : ∃ text ks, Spelled r item.expr text ks) :
    ∃ text ks, Render.orderItem (item.map r.item) = .ok text ∧
      Legible r.config.dialect.quoting (fun i => i.orderItem) endsOrderItem item text ks ∧
        ks ≠ [] := by
  obtain ⟨text, ks, he⟩ := h
  obtain ⟨word, hdirection, hends, hword⟩ := direction_spelled hitem.direction
  obtain ⟨kn, hnulls, hreads⟩ := @nulls_spelled r _ hitem.nulls
  refine ⟨fragments [text, word.spelling, Render.upper? item.nulls],
    ks ++ ([.word word] ++ (kn ++ [])), ?_, ⟨?_, ?_⟩, by simp⟩
  · show (do
      return fragments [← r.expr item.expr, (item.direction.map Text.upper).getD "ASC", _]) = _
    rw [he.rendered, hdirection]
    rfl
  · exact he.lexes.fragment ((Lexes.keyword word).fragment (hnulls.fragment .noFragments))
  · intro n hn rest hrest
    rw [List.length_append] at hn
    rw [List.append_nil, List.append_assoc, List.singleton_append, List.cons_append]
    have hexpr := he.legible.reads n (by omega) (.word word :: (kn ++ rest)) hends
    exact hexpr.bind ((hword _).bind ((hreads rest hrest).bind (.pure _)))

theorem orderBy_spelled {orderBy : Option (List (OrderItem Expr))}
    (hitems : ∀ items ∈ orderBy, items ≠ [] ∧ ∀ i ∈ items, i.Plain)
    (h : ∀ items ∈ orderBy, ∀ i ∈ items, ∃ text ks, Spelled r i.expr text ks) :
    ∃ text ks, Render.orderBy (orderBy.map (·.map (·.map r.item))) = .ok text ∧
      ClauseSpelled r.config.dialect.quoting (fun i => i.orderBy?) 5 orderBy text ks := by
  cases orderBy with
  | none =>
    refine ⟨"", [], rfl, .missing fun i rest hrest => ?_⟩
    exact .left (Parser.isAtKeyword_asks .ORDER) (not_clauseStart hrest) (.pure _)
  | some items =>
    obtain ⟨hne, hplain⟩ := hitems items rfl
    obtain ⟨text, spelling, hspelled⟩ :=
      exists_spellings fun i hi => orderItem_spelled (hplain i hi) (h items rfl i hi)
    obtain ⟨x, xs, rfl⟩ := List.exists_cons_of_ne_nil hne
    have hlegible := Legible.commas (fun i hi => (hspelled i hi).2.1) (by decide)
    have hempty := hlegible.ne_empty (by simp [(hspelled x List.mem_cons_self).2.2])
    refine ⟨"ORDER" ++ " " ++ "BY" ++ " " ++ commas ((x :: xs).map text),
      [.word .ORDER] ++ [.word .BY] ++ (spelling x ++ xs.flatMap fun y => .comma :: spelling y), ?_,
        ⟨?_, ?_⟩, .inr rfl⟩
    · have hrendered : ((x :: xs).map (OrderItem.map r.item)).mapM Render.orderItem =
          .ok ((x :: xs).map text) := by
        rw [List.mapM_map]
        exact mapM_ok fun i hi => (hspelled i hi).1
      show (do return clause "ORDER BY" (commas
          (← ((x :: xs).map (OrderItem.map r.item)).mapM Render.orderItem))) = _
      rw [hrendered]
      show Except.ok (clause "ORDER BY" (commas ((x :: xs).map text))) = _
      rw [clause_eq hempty]
      rfl
    · exact (Lexes.spaced (.keyword .ORDER) (.keyword .BY)).spaced hlegible.lexes
    · intro n hn rest hrest
      simp only [List.length_append, List.length_singleton] at hn
      have hends : Legible.endsList endsOrderItem (next rest) = true :=
        clauseStart_all (by decide) (of_decide_eq_true hrest)
      refine .taken (Parser.isAtKeyword_asks .ORDER) rfl ((Parser.expectKeyword_reads .BY).bind ?_)
      exact (hlegible.reads n (by simp only [List.length_append]; omega) rest hends).bind (.pure _)

end SqlWeave
