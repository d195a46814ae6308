import SqlWeave.Proofs.Spelling.From
import SqlWeave.Proofs.Spelling.Limit

/-! A SELECT with all its clauses. -/

namespace SqlWeave

open Token (Piece Lexes Quoting isApart)
open SqlWeave.Parser (Nested Reads nested next)
open Render (Result Item commas inParens clause fragments onlyIf)
open Text (enclose)

variable {r : Renderer} {opening closing : Char} {text : String} {ks rest : List Piece}

/-! ## WITH -/

/-- The columns of a common table expression, right behind its name. -/
theorem cteColumns_spelled (hr : r.Standard opening closing) {columns : Option (List String)}
    (h : NameList columns) :
    ∃ text ks, (columns.map fun names => inParens (commas (r.idents names))).getD "" = text ∧
      Lexes r.config.dialect.quoting text ks ∧ isApart text.toList = true ∧
      ∀ rest, next rest = .keyword .AS →
        ∀ {β : Type} {f : Option (List String) → Parser β} {y : β} {final : List Piece},
        Reads (f columns) rest y final →
        Reads (do f (← if ← Parser.isAt .leftParen then pure (some (← Parser.parenthesizedNames))
          else pure none))
          (ks ++ rest) y final := by
  cases columns with
  | none =>
    refine ⟨"", [], rfl, .empty, rfl, fun rest hrest β f y final hmore => ?_⟩
    refine .isFalse (Parser.isAt_asks .leftParen) ?_ (.pureBind hmore)
    rw [List.nil_append, hrest]
    rfl
  | some names =>
    obtain ⟨hne, hnames⟩ := h names rfl
    obtain ⟨ks, hlexes, hreads⟩ := names_spelled hr hne hnames
    refine ⟨_, .opening :: ks, rfl, hlexes, ?_, fun rest _ β f y final hmore => ?_⟩
    · show isApart (inParens (commas (r.idents names))).toList = true
      rw [inParens, String.toList_append, String.toList_append]
      rfl
    · exact .isTrue (Parser.isAt_asks .leftParen) rfl ((hreads rest).bind (.pureBind hmore))

theorem cte_spelled (hr : r.Standard opening closing) {recursive : Bool} {c : Cte Expr}
    (hc : c.Plain recursive) (hbodies : ∀ q, c.body = .query q → ∃ text ks, q.Spelled r text ks) :
    ∃ text ks, r.cte (c.map r.item) = .ok text ∧ (ks ≠ [] ∧ next ks ≠ .keyword .RECURSIVE) ∧
      Legible r.config.dialect.quoting (fun i => i.cte recursive) (fun _ => true) c text ks := by
  obtain ⟨q, hbody⟩ := hc.body
  obtain ⟨text, kq, hq⟩ := hbodies q hbody
  obtain ⟨tc, kc, htc, hlexes, hapart, hcolumns⟩ := cteColumns_spelled hr hc.columns
  have hnamed := hc.named
  obtain rfl := hc.recursive
  obtain ⟨name, columns, body, recursive⟩ := c
  simp only at hbody hnamed htc hcolumns
  subst hbody
  have hident : r.ident name = enclose opening closing name :=
    Renderer.ident_eq hr.delimiters (by simpa [isName] using hnamed)
  refine ⟨enclose opening closing name ++ (tc ++ " " ++ "AS" ++ " " ++ inParens text),
    [.quoted opening closing name] ++ (kc ++ [.word .AS] ++ (.opening :: (kq ++ [.closing]))), ?_,
    ⟨by simp, (fun h => by cases h)⟩, ?_, ?_⟩
  · have hrendered : r.cte (Cte.map r.item ⟨name, columns, .query q, recursive⟩) =
        (do return r.ident name ++ tc ++ " AS " ++ (← Render.subquery (r.item (.query q)))) := by
      rw [← htc]
      cases columns <;> rfl
    rw [hrendered, hq.bracketed, hident]
    show Except.ok _ = _
    simp only [String.append_assoc]
    rfl
  · refine (Lexes.enclosed hr.delimiters name).append
      ((hlexes.spaced (.keyword .AS)).spaced hq.legible.lexes.inParens) ?_
    simp only [String.toList_append, List.append_assoc]
    exact Token.isApart_append hapart rfl
  · intro n hn rest _
    simp only [List.length_append, List.length_cons] at hn
    simp only [List.append_assoc, List.cons_append, List.nil_append]
    refine (Parser.identifier_reads rfl).bind ((Parser.addCte_reads name).bind ?_)
    refine hcolumns (.word .AS :: .opening :: (kq ++ .closing :: rest)) rfl ?_
    refine (Parser.expectKeyword_reads .AS).bind ((Parser.expect_reads .leftParen "(").bind ?_)
    exact (hq.parenthesizedQuery_reads (by omega) rest).bind (.pure _)

/-- A WITH clause, or nothing where it is missing, before the SELECT that it belongs to. -/
structure WithSpelled (r : Renderer) (withs : Option (List (Cte Expr))) (text : String)
    (ks : List Piece) : Prop where
  rendered : r.withClause (withs.map (·.map (Cte.map r.item))) = .ok text
  lexes : Lexes r.config.dialect.quoting text ks
  opens : ks = [] ∨ next ks = .keyword .WITH
  ahead : ks ≠ [] → ∀ n, ks.length < n → ∀ rest, next rest = .keyword .SELECT →
    ∃ ctes, Reads (nested n).withClause (ks ++ rest) ctes rest
  reads : ∀ n, ks.length < n → ∀ rest, next rest = .keyword .SELECT → ∀ y final,
    Reads ((nested n).selectChain withs) rest y final →
      Reads (nested n).setChain (ks ++ rest) y final

def withWords (recursive : Bool) : String := if recursive then "WITH RECURSIVE" else "WITH"

theorem withWords_spelled {q : Quoting} (recursive : Bool) : ∃ kr : List Piece,
    Lexes q (withWords recursive) (.word .WITH :: kr) ∧ ∀ rest, next rest ≠ .keyword .RECURSIVE →
      Reads (Parser.eatKeyword .RECURSIVE) (kr ++ rest) recursive rest := by
  cases recursive with
  | true =>
    refine ⟨[.word .RECURSIVE], ?_, fun rest _ => .takes (Parser.isAtKeyword_asks .RECURSIVE) rfl⟩
    have hlexes : Lexes q ("WITH" ++ " " ++ "RECURSIVE") ([.word .WITH] ++ [.word .RECURSIVE]) :=
      .spaced (.keyword .WITH) (.keyword .RECURSIVE)
    rw [show "WITH" ++ " " ++ "RECURSIVE" = withWords true from rfl] at hlexes
    exact hlexes
  | false =>
    refine ⟨[], Lexes.keyword .WITH, fun rest hrest => ?_⟩
    exact .stops (Parser.isAtKeyword_asks .RECURSIVE) (beq_eq_false_iff_ne.mpr hrest)

theorem with_spelled (hr : r.Standard opening closing) {withs : Option (List (Cte Expr))}
    (hplain : ∀ ctes ∈ withs, ctes ≠ [] ∧ ∃ recursive, ∀ c ∈ ctes, c.Plain recursive)
    (hq : ∀ ctes ∈ withs, ∀ c ∈ ctes, ∀ q, c.body = .query q → ∃ text ks, q.Spelled r text ks) :
    ∃ text ks, WithSpelled r withs text ks := by
  cases withs with
  | none =>
    refine ⟨"", [], rfl, .empty, .inl rfl, fun hsome => absurd rfl hsome,
      fun n _ rest hrest y final hmore => ?_⟩
    refine .isFalse (Parser.isAtKeyword_asks .WITH) ?_ (.pureBind hmore)
    rw [List.nil_append, hrest]
    rfl
  | some ctes =>
    obtain ⟨hne, recursive, hctes⟩ := hplain ctes rfl
    obtain ⟨text, spelling, hspelled⟩ :=
      exists_spellings fun c hc => cte_spelled hr (hctes c hc) (hq ctes rfl c hc)
    obtain ⟨x, xs, rfl⟩ := List.exists_cons_of_ne_nil hne
    obtain ⟨hsome, hword⟩ := (hspelled x List.mem_cons_self).2.1
    have hlegible := Legible.commas (fun c hc => (hspelled c hc).2.2) rfl
    have hempty := hlegible.ne_empty (by simp [hsome])
    have hrendered : ((x :: xs).map (Cte.map r.item)).mapM r.cte = .ok ((x :: xs).map text) := by
      rw [List.mapM_map]
      exact mapM_ok fun c hc => (hspelled c hc).1
    have hx : x.recursive = recursive := (hctes x List.mem_cons_self).recursive
    obtain ⟨kr, hwords, hrecursive⟩ := @withWords_spelled r.config.dialect.quoting recursive
    have hclause (n : Nat)
        (hn : (.word .WITH :: kr ++ (spelling x ++ xs.flatMap fun y =>
          .comma :: spelling y)).length < n) (rest : List Piece)
          (hrest : next rest = .keyword .SELECT) : Reads (nested n).withClause
        (.word .WITH :: kr ++ (spelling x ++ xs.flatMap fun y => .comma :: spelling y) ++ rest)
          (x :: xs) rest := by
      rw [List.length_append, List.length_cons] at hn
      have hctes' : Reads (Parser.commaSeparated ((nested n).cte recursive)) _ (x :: xs) rest :=
        hlegible.reads n (by omega) rest (by rw [hrest]; rfl)
      have hnext : next (spelling x ++ (xs.flatMap (fun y => .comma :: spelling y)) ++ rest) ≠
          .keyword .RECURSIVE := by
        rwa [List.append_assoc, Parser.next_append hsome]
      rw [List.cons_append, List.cons_append, List.append_assoc]
      exact (Parser.expectKeyword_reads .WITH).bind ((hrecursive _ hnext).bind hctes')
    refine ⟨withWords recursive ++ " " ++ commas ((x :: xs).map text),
      (.word .WITH :: kr) ++ (spelling x ++ xs.flatMap fun y => .comma :: spelling y), ?_,
      hwords.spaced hlegible.lexes, .inr rfl, fun _ n hn rest hrest =>
        ⟨_, hclause n hn rest hrest⟩, fun n hn rest hrest y final hmore => ?_⟩
    · show (do
        let ctes ← ((x :: xs).map (Cte.map r.item)).mapM r.cte
        return clause (withWords x.recursive) (commas ctes)) = _
      rw [hrendered, hx]
      show Except.ok (clause (withWords recursive) (commas ((x :: xs).map text))) = _
      rw [clause_eq hempty]
    · exact .isTrue (Parser.isAtKeyword_asks .WITH) rfl
        ((hclause n hn rest hrest).bind (.pureBind hmore))

/-! ## SELECT -/

/-- The texts of the clauses, one after the other. -/
theorem Renderer.select_eq {s : Select Item} (hwindows : s.windows = none) : r.select s = (do
    let groupBy ← groupByText s.groupBy
    let having ← conditionText "HAVING" s.having
    let withs ← r.withClause s.withs
    let list ← r.selectList s.columns s.tables
    let tables ← r.fromClause s.tables
    let condition ← conditionText "WHERE" s.condition
    let order ← Render.orderBy s.orderBy
    let limit ← r.limit s.limit
    return fragments [withs, "SELECT", onlyIf s.distinct "DISTINCT", list, tables, condition,
      groupBy, having, "", order, limit]) := by
  obtain ⟨withs, distinct, columns, tables, condition, groupBy, having, windows, orderBy, limit,
      setOperator, parens⟩ := s
  obtain rfl : windows = none := hwindows
  cases groupBy <;> cases having <;> cases condition <;>
    simp only [Renderer.select, groupByText, conditionText, Render.condition, bind_assoc, pure_bind]

theorem distinct_spelled (q : Quoting) (distinct : Bool) :
    ∃ ks, Lexes q (onlyIf distinct "DISTINCT") ks ∧
    ∀ rest, opensList (next rest) = true →
      Reads Nested.selectDistinct (ks ++ rest) distinct rest := by
  cases distinct with
  | true =>
    refine ⟨[.word .DISTINCT], .keyword .DISTINCT, fun rest _ => ?_⟩
    exact .taken (Parser.isAtKeyword_asks .DISTINCT) rfl (.pure _)
  | false =>
    refine ⟨[], .empty, fun rest hrest => ?_⟩
    have hnot (word : Keyword) (hword : opensList (.keyword word) = false) :
        (next rest == .keyword word) = false := by
      refine beq_eq_false_iff_ne.mpr fun hnext => ?_
      rw [hnext, hword] at hrest
      cases hrest
    refine .left (Parser.isAtKeyword_asks .DISTINCT) (hnot .DISTINCT rfl) ?_
    exact .bind (.stops (Parser.isAtKeyword_asks .ALL) (hnot .ALL rfl)) (.pure _)

theorem select_not_dual {tables : Option (List (Table Expr))}
    (h : ∀ ts ∈ tables, ∀ t ∈ ts, t.kind = none) :
    ((tables.map (·.map (Table.map r.item))).bind List.head?).any Table.isDual = false := by
  cases tables with
  | none => rfl
  | some ts =>
    cases ts with
    | nil => rfl
    | cons t ts =>
      have hkind := h _ rfl t List.mem_cons_self
      show ((Table.map r.item t).kind.any _) = false
      rw [show (Table.map r.item t).kind = none from hkind]
      rfl

/-- A fact about all that the clauses of a SELECT hold, clause by clause. -/
structure Select.Holds (P : Phrase → Prop) (s : Select Expr) : Prop where
  withs : ∀ ctes ∈ s.withs, ∀ c ∈ ctes, P (.ofSource c.body)
  columns : ∀ items, s.columns = .list items → ∀ c ∈ items, P (.expr c.expr)
  sources : ∀ ts ∈ s.tables, ∀ t ∈ ts, ∀ e ∈ t.expr, P (.ofSource e)
  joins : ∀ ts ∈ s.tables, ∀ t ∈ ts, ∀ e ∈ t.condition, P (.expr e)
  condition : ∀ e ∈ s.condition, P (.expr e)
  groupBy : ∀ es ∈ s.groupBy, ∀ e ∈ es, P (.expr e)
  having : ∀ e ∈ s.having, P (.expr e)
  orderBy : ∀ items ∈ s.orderBy, ∀ i ∈ items, P (.expr i.expr)
  limit : ∀ l ∈ s.limit, ∀ e ∈ l.count.toList ++ l.offset.toList, P (.expr e)

theorem Select.holds_of_phrases {P : Phrase → Prop} {s : Select Expr}
    (h : ∀ p ∈ s.phrases, P p) : s.Holds P := by
  simp only [Select.phrases, List.mem_append, or_imp, forall_and] at h
  obtain ⟨⟨⟨⟨⟨⟨⟨hwiths, hcolumns⟩, htables⟩, hcondition⟩, hgroupBy⟩, hhaving⟩, horderBy⟩, hlimit⟩ :=
    h
  refine ⟨?_, ?_, ?_, ?_, ?_, ?_, ?_, ?_, ?_⟩
  · intro ctes hctes c hc
    exact hwiths _ (List.mem_map.mpr ⟨c, by rw [show s.withs = _ from hctes]; exact hc, rfl⟩)
  · intro items hitems c hc
    rw [hitems] at hcolumns
    exact hcolumns _ (List.mem_map.mpr ⟨c, hc, rfl⟩)
  · intro ts hts t ht e he
    refine htables _ (List.mem_flatMap.mpr ⟨t, by rw [show s.tables = _ from hts]; exact ht, ?_⟩)
    exact List.mem_append.mpr (.inl (List.mem_map.mpr ⟨e, Option.mem_toList.mpr he, rfl⟩))
  · intro ts hts t ht e he
    refine htables _ (List.mem_flatMap.mpr ⟨t, by rw [show s.tables = _ from hts]; exact ht, ?_⟩)
    exact List.mem_append.mpr (.inr (List.mem_map.mpr ⟨e, Option.mem_toList.mpr he, rfl⟩))
  · intro e he
    exact hcondition _ (List.mem_map.mpr ⟨e, Option.mem_toList.mpr he, rfl⟩)
  · intro es hes e he
    exact hgroupBy _ (List.mem_map.mpr ⟨e, by rw [show s.groupBy = _ from hes]; exact he, rfl⟩)
  · intro e he
    exact hhaving _ (List.mem_map.mpr ⟨e, Option.mem_toList.mpr he, rfl⟩)
  · intro items hitems i hi
    exact horderBy _ (List.mem_map.mpr ⟨i, by rw [show s.orderBy = _ from hitems]; exact hi, rfl⟩)
  · intro l hl e he
    exact hlimit _ (List.mem_flatMap.mpr ⟨l, Option.mem_toList.mpr hl,
      List.mem_map.mpr ⟨e, he, rfl⟩⟩)

/-- An expression or a query that is spelled. -/
def Phrase.Spelled (r : Renderer) : Phrase → Prop
  | .expr e => ∃ text ks, SqlWeave.Spelled r e text ks
  | .query q => ∃ text ks, q.Spelled r text ks

theorem Phrase.Spelled.source {e : Expr} (h : (Phrase.ofSource e).Spelled r) (q : Query Expr)
    (hq : e = .query q) :
    ∃ text ks, q.Spelled r text ks := by
  subst hq
  exact h

/-- The clauses after WITH, up to an operator that joins the SELECT to the next or the end of the
query. -/
theorem selectCore_spelled (hr : r.Standard opening closing) {s : Select Expr}
    (hs : s.Plain r.config.dialect) (h : s.Holds (·.Spelled r)) {tw : String} {kw : List Piece}
    (hwith : r.withClause (s.withs.map (·.map (Cte.map r.item))) = .ok tw)
    (hlexes : Lexes r.config.dialect.quoting tw kw) :
    ∃ text ks, r.select (s.map r.item) = .ok text ∧
      Lexes r.config.dialect.quoting text (kw ++ .word .SELECT :: ks) ∧
      ∀ n, ks.length < n → ∀ rest, 6 < clauseRank (next rest) →
        Reads ((nested n).selectCore s.withs) (.word .SELECT :: (ks ++ rest))
          { s with setOperator := none } rest := by
  have hkinds : ∀ ts ∈ s.tables, ∀ t ∈ ts, t.kind = none := fun ts hts t ht => by
    obtain ⟨_, _, _, _, _, hplain⟩ := hs.tables ts hts
    exact (hplain t ht).kind
  obtain ⟨kd, hdistinct, hreadsDistinct⟩ := distinct_spelled r.config.dialect.quoting s.distinct
  obtain ⟨tl, kl, hlist, hopens, hlegible⟩ :=
    selectList_spelled hr (select_not_dual (r := r) hkinds) hs.columns h.columns
  obtain ⟨tt, kt, htables, hfrom⟩ := fromClause_spelled hr hs.tables
    (fun ts hts t ht q hq => (h.sources ts hts t ht _ hq).source q rfl) h.joins
  obtain ⟨tc, kc, hcondition, hwhere⟩ := condition_spelled .WHERE h.condition
  obtain ⟨tg, kg, hgroupBy, hgroup⟩ := groupBy_spelled hs.groupBy h.groupBy
  obtain ⟨th, kh, hhaving, hhave⟩ := condition_spelled .HAVING h.having
  obtain ⟨tr, ko, horderBy, horder⟩ := orderBy_spelled hs.orderBy h.orderBy
  obtain ⟨tm, km, hlimit, hrows⟩ := limitClause_spelled hs.limit h.limit
  refine ⟨fragments [tw, "SELECT", onlyIf s.distinct "DISTINCT", tl, tt, tc, tg, th, "", tr, tm],
    kd ++ (kl ++ (kt ++ (kc ++ (kg ++ (kh ++ (ko ++ km)))))), ?_, ?_, fun n hn rest hrest => ?_⟩
  · rw [Renderer.select_eq (by simp [Select.map, hs.windows])]
    simp only [Select.map]
    rw [hgroupBy, show conditionText "HAVING" _ = _ from hhaving, hwith, hlist, htables,
      show conditionText "WHERE" _ = _ from hcondition, horderBy, hlimit]
    rfl
  · have hwhole :=
      hlexes.fragment ((Lexes.keyword .SELECT).fragment (hdistinct.fragment (hlegible.lexes.fragment
      (hfrom.legible.lexes.fragment (hwhere.legible.lexes.fragment (hgroup.legible.lexes.fragment
      (hhave.legible.lexes.fragment (Lexes.empty.fragment (horder.legible.lexes.fragment
      (hrows.legible.lexes.fragment .noFragments))))))))))
    simp only [List.append_nil, List.nil_append, List.singleton_append] at hwhole
    exact hwhole
  · simp only [List.length_append] at hn
    simp only [List.append_assoc]
    -- each clause ends where a later one starts
    have hranks₅ := hrows.next_rank 5 (by decide) hrest
    have hranks₄ := horder.next_rank 4 (by decide) hranks₅
    have hranks₃ := hhave.next_rank 3 (by decide) hranks₄
    have hranks₂ := hgroup.next_rank 2 (by decide) hranks₃
    have hranks₁ := hwhere.next_rank 1 (by decide) hranks₂
    have hranks₀ := hfrom.next_rank 0 (by decide) hranks₁
    have hlist' :
        opensList (next (kl ++ (kt ++ (kc ++ (kg ++ (kh ++ (ko ++ (km ++ rest)))))))) = true := by
      rw [Parser.next_append]
      · exact hopens
      · rintro rfl
        cases hopens
    refine (Parser.expectKeyword_reads .SELECT).bind ((hreadsDistinct _ hlist').bind ?_)
    refine (hlegible.reads n (by omega) _ (decide_eq_true hranks₀)).bind ?_
    refine (hfrom.legible.reads n (by omega) _ (decide_eq_true hranks₁)).bind ?_
    refine (hwhere.legible.reads n (by omega) _ (decide_eq_true hranks₂)).bind ?_
    refine (hgroup.legible.reads n (by omega) _ (decide_eq_true hranks₃)).bind ?_
    refine (hhave.legible.reads n (by omega) _ (decide_eq_true hranks₄)).bind ?_
    refine .bind (x := none) (.left (Parser.isAtWord_asks "window")
      (clauseStart_none (·.isWord "window") (by decide) hranks₄) (.pure _)) ?_
    refine (horder.legible.reads n (by omega) _ (decide_eq_true hranks₅)).bind ?_
    refine (hrows.legible.reads n (by omega) _ (decide_eq_true hrest)).bind ?_
    obtain ⟨withs, distinct, columns, tables, condition, groupBy, having, windows, orderBy, limit,
        setOperator, parens⟩ := s
    obtain rfl : windows = none := hs.windows
    obtain rfl : parens = false := hs.parens
    exact .pure _

end SqlWeave
