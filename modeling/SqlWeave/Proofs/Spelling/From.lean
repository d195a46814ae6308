import SqlWeave.Proofs.Spelling.Table

/-! Joins and the FROM clause. An entry of a FROM list is read in one step; the list by
induction. -/

namespace SqlWeave

open Token (Piece Lexes Quoting isApart)
open SqlWeave.Parser (Nested Reads nested next)
open Render (Result Item commas inParens clause)

variable {r : Renderer} {opening closing : Char} {text : String} {ks rest : List Piece}
  {t : Table Expr}

/-! ## The words of a join -/

/-- The reserved words before JOIN. -/
def sideKeywords : List (List Keyword) :=
  [[], [.INNER], [.CROSS], [.LEFT], [.LEFT, .OUTER], [.RIGHT], [.RIGHT, .OUTER], [.FULL],
    [.FULL, .OUTER]]

theorem joinSide_reads {side : List Keyword} (h : side ∈ sideKeywords) :
    Reads Parser.joinSide (side.map .word ++ .word .JOIN :: rest) (side.map Keyword.spelling)
      (.word .JOIN :: rest) := by
  have hside {word : Keyword} {text : String} {ks : List Piece} (hinner : word ≠ .INNER)
      (hcross : word ≠ .CROSS) (hword : Parser.sideWord? (.keyword word) = some text)
      {words : List String} (hmore : Reads
        (do if ← Parser.eatKeyword .OUTER then return [text, "OUTER"] else return [text]) ks words
        (.word .JOIN :: rest)) : Reads Parser.joinSide (.word word :: ks) words
          (.word .JOIN :: rest) := by
    refine .left (Parser.isAtKeyword_asks .INNER) (by simpa using hinner) ?_
    refine .left (Parser.isAtKeyword_asks .CROSS) (by simpa using hcross) (.look ?_)
    simp only [Parser.next_cons, Parser.Piece.word_kind, hword]
    exact .step hmore
  have houter (text : String) : Reads
      (do if ← Parser.eatKeyword .OUTER then return [text, "OUTER"] else return [text])
      (.word .OUTER :: .word .JOIN :: rest) [text, "OUTER"] (.word .JOIN :: rest) :=
    .taken (Parser.isAtKeyword_asks .OUTER) rfl (.pure _)
  have hplain (text : String) : Reads
      (do if ← Parser.eatKeyword .OUTER then return [text, "OUTER"] else return [text])
      (.word .JOIN :: rest) [text] (.word .JOIN :: rest) :=
    .left (Parser.isAtKeyword_asks .OUTER) rfl (.pure _)
  simp only [sideKeywords, List.mem_cons, List.not_mem_nil, or_false] at h
  rcases h with rfl | rfl | rfl | rfl | rfl | rfl | rfl | rfl | rfl
  · refine .left (Parser.isAtKeyword_asks .INNER) rfl
      (.left (Parser.isAtKeyword_asks .CROSS) rfl (.look ?_))
    exact .pure _
  · exact .taken (Parser.isAtKeyword_asks .INNER) rfl (.pure _)
  · exact .left (Parser.isAtKeyword_asks .INNER) rfl
      (.taken (Parser.isAtKeyword_asks .CROSS) rfl (.pure _))
  · exact hside (by decide) (by decide) rfl (hplain _)
  · exact hside (by decide) (by decide) rfl (houter _)
  · exact hside (by decide) (by decide) rfl (hplain _)
  · exact hside (by decide) (by decide) rfl (houter _)
  · exact hside (by decide) (by decide) rfl (hplain _)
  · exact hside (by decide) (by decide) rfl (houter _)

theorem keywords_lexes {q : Quoting} (word : Keyword) (words : List Keyword) :
    Lexes q (" ".intercalate ((word :: words).map Keyword.spelling))
      ((word :: words).map .word) := by
  have hlexes : Lexes q (" ".intercalate ((word :: words).map Keyword.spelling))
      (((word :: words).map Keyword.spelling).map .ofWord) := by
    refine .words fun w hw => ?_
    rw [← List.map_cons, List.mem_map] at hw
    obtain ⟨k, -, rfl⟩ := hw
    exact (Token.wordKind_spelling k).1
  rw [List.map_map] at hlexes
  rwa [show Piece.ofWord ∘ Keyword.spelling =
    Piece.word from funext Piece.ofWord_spelling] at hlexes

structure JoinSpelled (q : Quoting) (words : String) (ks : List Piece) : Prop where
  lexes : Lexes q words ks
  upper : Text.upper words = words
  starts : next ks ∈ joinStarts
  reads : ∀ rest, Reads Parser.join? (ks ++ rest) (some words) rest

/-- The pieces of a side before JOIN. -/
def sidePieces (side : List Keyword) : List Piece := (side ++ [Keyword.JOIN]).map .word

theorem side_lexes {q : Quoting} (side : List Keyword) :
    Lexes q (" ".intercalate (side.map Keyword.spelling ++ ["JOIN"])) (sidePieces side) := by
  have hwords : (side ++ [Keyword.JOIN]).map Keyword.spelling = side.map Keyword.spelling ++
      ["JOIN"] := List.map_append
  rw [← hwords, sidePieces]
  cases side with
  | nil => exact keywords_lexes .JOIN []
  | cons word words =>
    rw [List.cons_append]
    exact keywords_lexes word (words ++ [Keyword.JOIN])

theorem side_starts : ∀ side ∈ sideKeywords, next (sidePieces side) ∈ joinStarts ∧
    (next (sidePieces side)).isWord "natural" = false := by
  decide

theorem joinWords_upper : ∀ words ∈ joinWords, Text.upper words = words := by decide +kernel

theorem side_reads {side : List Keyword} (h : side ∈ sideKeywords) (words : List String) :
    Reads (do
      let words := words ++ (← Parser.joinSide)
      if ← Parser.eatKeyword .JOIN then return some (" ".intercalate (words ++ ["JOIN"]))
      else if words.isEmpty then return none
      else Parser.unexpected "JOIN")
      (sidePieces side ++ rest) (some
        (" ".intercalate (words ++ side.map Keyword.spelling ++ ["JOIN"]))) rest := by
  rw [sidePieces, List.map_append, List.append_assoc]
  exact (joinSide_reads h).bind (.taken (Parser.isAtKeyword_asks .JOIN) rfl (.pure _))

theorem join_spelled {q : Quoting} {words : String} (h : words ∈ joinWords) :
    ∃ ks, JoinSpelled q words ks := by
  have hupper := joinWords_upper words h
  have hsides : joinSides = sideKeywords.map (·.map Keyword.spelling) := rfl
  simp only [joinWords, hsides, List.map_append, List.mem_append, List.mem_map] at h
  rcases h with ⟨_, ⟨side, hside, rfl⟩, rfl⟩ | ⟨_, ⟨_, ⟨side, hside, rfl⟩, rfl⟩, rfl⟩
  · obtain ⟨hstarts, hnatural⟩ := side_starts side hside
    refine ⟨sidePieces side, side_lexes side, hupper, hstarts, fun rest => ?_⟩
    have hnext : (next (sidePieces side ++ rest)).isWord "natural" = false := by
      rwa [Parser.next_append (by simp [sidePieces])]
    exact .left (Parser.isAtWord_asks "natural") hnext (.pureBind (side_reads hside []))
  · refine ⟨.plain "NATURAL" :: sidePieces side, ?_, hupper, .head _, fun rest => ?_⟩
    · have hnatural : Lexes q "NATURAL" [.plain "NATURAL"] := .plain (by decide) (by decide)
      have hspaced := hnatural.spaced (side_lexes (q := q) side)
      obtain ⟨w, ws, hcons⟩ :=
        List.exists_cons_of_ne_nil (l := side.map Keyword.spelling ++ ["JOIN"]) (by simp)
      rw [List.cons_append, hcons, String.intercalate_cons_cons, ← hcons]
      exact hspaced
    · refine .taken (Parser.isAtWord_asks "natural") (by decide) (.pureBind ?_)
      exact side_reads hside ["NATURAL"]

/-! ## Joined tables -/

/-- A table and its condition after the words of a join. -/
theorem joinedTable_spelled (hr : r.Standard opening closing) {join : String} (ht : t.Plain)
    (hj : t.Joined) (hjoin : t.join = some join)
    (hq : ∀ q, t.expr = some (.query q) → ∃ text ks, q.Spelled r text ks)
    (hcondition : ∀ e ∈ t.condition, ∃ text ks, Spelled r e text ks) :
    ∃ table condition ks, r.table (t.map r.item) = .ok table ∧
      r.joinCondition (t.map r.item) = .ok condition ∧
      ks ≠ [] ∧ Legible r.config.dialect.quoting (fun i => i.joinedTable join) endsTable t
        (table ++ condition) ks := by
  obtain ⟨table, kf, hrendered, hne, hfactor⟩ := factor_spelled hr ht hq
  have husing := hj.usingColumns
  have honly := hj.condition
  obtain ⟨db, schema, name, expr, aliasName, _, condition, usingColumns, addition, kind⟩ := t
  obtain rfl := hjoin
  cases condition with
  | some e =>
    obtain rfl : usingColumns = none := honly rfl
    obtain ⟨text, ke, he⟩ := hcondition e rfl
    refine ⟨table, " ON " ++ text, kf ++ ([.word .ON] ++ ke), hrendered, ?_, by simp [hne], ?_,
      fun n hn rest hrest => ?_⟩
    · show (do return " ON " ++ (← r.expr e)) = _
      rw [he.rendered]
      rfl
    · exact hfactor.lexes.append ((Lexes.keyword .ON).spaced he.lexes).blank
        (by rw [String.toList_append]; rfl)
    · simp only [List.length_append] at hn
      rw [List.append_assoc, List.append_assoc]
      have hexpr := he.legible.reads n (by omega) rest
        (endsBefore_all (by decide) (by decide) hrest)
      refine (hfactor.reads n (by omega) (.word .ON :: (ke ++ rest)) rfl).bind ?_
      exact .taken (Parser.isAtKeyword_asks .ON) rfl (hexpr.bind (.pure _))
  | none =>
    cases usingColumns with
    | some names =>
      obtain ⟨hsome, hnames⟩ := husing names rfl
      obtain ⟨kn, hlexes, hreads⟩ := names_spelled hr hsome hnames
      refine ⟨table, " USING " ++ inParens (commas (r.idents names)),
        kf ++ ([.word .USING] ++ (.opening :: kn)), hrendered, rfl, by
          simp [hne], ?_, fun n hn rest hrest => ?_⟩
      · exact hfactor.lexes.append ((Lexes.keyword .USING).spaced hlexes).blank
          (by rw [String.toList_append]; rfl)
      · simp only [List.length_append] at hn
        rw [List.append_assoc, List.append_assoc]
        refine (hfactor.reads n (by omega) (.word .USING :: .opening :: (kn ++ rest)) rfl).bind ?_
        refine .left (Parser.isAtKeyword_asks .ON) rfl ?_
        exact .taken (Parser.isAtKeyword_asks .USING) rfl ((hreads rest).bind (.pure _))
    | none =>
      refine ⟨table, "", kf, hrendered, rfl, hne, ?_, fun n hn rest hrest => ?_⟩
      · rw [String.append_empty]
        exact hfactor.lexes
      · have hon : (next rest != .keyword .ON) = true :=
          @endsBefore_all _ _ (· != .keyword .ON) (by decide) (by decide) _ hrest
        have husing : (next rest != .keyword .USING) = true :=
          @endsBefore_all _ _ (· != .keyword .USING) (by decide) (by decide) _ hrest
        refine (hfactor.reads n hn rest (endsFactor_of_endsTable hrest)).bind ?_
        refine .left (Parser.isAtKeyword_asks .ON) (by simpa using hon) ?_
        exact .left (Parser.isAtKeyword_asks .USING) (by simpa using husing) (.pure _)

/-- One more entry of a FROM list is read before the others. -/
structure LaterSpelled (r : Renderer) (t : Table Expr) (text : String)
    (ks : List Piece) : Prop where
  rendered : r.laterTable (t.map r.item) = .ok text
  lexes : Lexes r.config.dialect.quoting text ks
  apart : isApart text.toList = true
  starts : ks ≠ [] ∧ next ks ∈ laterStarts
  reads : ∀ n, ks.length < n → ∀ rest, endsTable (next rest) = true → ∀ m ts final,
    Reads ((nested n).moreTables m) rest ts final →
      Reads ((nested n).moreTables (m + 1)) (ks ++ rest) (t :: ts) final

theorem listed_factor (hl : t.Listed) : t.factor = t := by
  obtain ⟨db, schema, name, expr, aliasName, join, condition, usingColumns, addition, kind⟩ := t
  obtain ⟨rfl, rfl, rfl⟩ : join = none ∧ condition = none ∧ usingColumns = none :=
    ⟨hl.join, hl.condition, hl.usingColumns⟩
  rfl

theorem listed_spelled (hr : r.Standard opening closing) (ht : t.Plain) (hl : t.Listed)
    (hq : ∀ q, t.expr = some (.query q) → ∃ text ks, q.Spelled r text ks) :
    ∃ text ks, LaterSpelled r t text ks := by
  obtain ⟨table, kf, hrendered, -, hfactor⟩ := factor_spelled hr ht hq
  refine ⟨", " ++ table, .comma :: kf, ?_,
    hfactor.lexes.afterComma, by rw [String.toList_append]; rfl, ⟨by simp, .head _⟩, ?_⟩
  · have hjoin : (t.map r.item).join = none := hl.join
    unfold Renderer.laterTable
    rw [hrendered, hjoin]
    rfl
  · intro n hn rest hrest m ts final hmore
    rw [List.length_cons] at hn
    have htable := hfactor.reads n (by omega) rest (endsFactor_of_endsTable hrest)
    rw [listed_factor hl] at htable
    exact .taken (Parser.isAt_asks .comma) rfl (htable.bind (hmore.bind (.pure _)))

theorem joined_spelled (hr : r.Standard opening closing) (ht : t.Plain) (hj : t.Joined)
    (hq : ∀ q, t.expr = some (.query q) → ∃ text ks, q.Spelled r text ks)
    (hcondition : ∀ e ∈ t.condition, ∃ text ks, Spelled r e text ks) :
    ∃ text ks, LaterSpelled r t text ks := by
  obtain ⟨join, hwords, hjoin⟩ := hj.join
  obtain ⟨kj, hj'⟩ := join_spelled (q := r.config.dialect.quoting) hwords
  obtain ⟨table, condition, kt, hrendered, hcond, hne, htable⟩ :=
    joinedTable_spelled hr ht hj hjoin hq hcondition
  have hsome : kj ≠ [] := by
    rintro rfl
    exact absurd hj'.starts (by decide)
  refine ⟨" " ++ (join ++ " " ++ (table ++ condition)), kj ++ kt, ?_,
    (hj'.lexes.spaced htable.lexes).blank, by
      rw [String.toList_append]; rfl, ⟨by simp [hsome], ?_⟩, ?_⟩
  · have hjoin' : (t.map r.item).join = some join := hjoin
    unfold Renderer.laterTable
    rw [hrendered, hjoin', hcond]
    show Except.ok (" " ++ Text.upper join ++ " " ++ table ++ condition) = _
    rw [hj'.upper]
    simp only [String.append_assoc]
  · rw [Parser.next_append hsome]
    exact .tail _ hj'.starts
  · intro n hn rest hrest m ts final hmore
    rw [List.length_append] at hn
    have hcomma : (next (kj ++ (kt ++ rest)) == .symbol .comma) = false := by
      have hall : ∀ k ∈ joinStarts, (k == .symbol .comma) = false := by decide
      rw [Parser.next_append hsome]
      exact hall _ hj'.starts
    rw [List.append_assoc]
    refine .left (Parser.isAt_asks .comma) hcomma ((hj'.reads _).bind ?_)
    exact (htable.reads n (by omega) rest hrest).bind (hmore.bind (.pure _))

/-! ## The list of tables -/

theorem noJoin_reads (h : 1 < clauseRank (next rest)) : Reads Parser.join? rest none rest := by
  have hside : Parser.sideWord? (next rest) = none := by
    have hsome : (Parser.sideWord? (next rest)).isSome = false :=
      clauseStart_none (fun k => (Parser.sideWord? k).isSome) (by decide) h
    simpa using hsome
  have hsides : Reads Parser.joinSide rest [] rest := by
    refine .left (Parser.isAtKeyword_asks .INNER)
      (clauseStart_none (· == .keyword .INNER) (by decide) h) ?_
    refine .left (Parser.isAtKeyword_asks .CROSS)
      (clauseStart_none (· == .keyword .CROSS) (by decide) h) (.look ?_)
    rw [hside]
    exact .pure _
  refine .left (Parser.isAtWord_asks "natural")
    (clauseStart_none (·.isWord "natural") (by decide) h) (.pureBind (hsides.bind ?_))
  exact .left (Parser.isAtKeyword_asks .JOIN) (clauseStart_none (· == .keyword .JOIN) (by decide) h)
    (.pure _)

/-- The entries after the first one, by induction over them. -/
theorem moreTables_spelled {ts : List (Table Expr)}
    (h : ∀ t ∈ ts, ∃ text ks, LaterSpelled r t text ks) :
    ∃ texts ks, (ts.map (Table.map r.item)).mapM r.laterTable = .ok texts ∧
      Lexes r.config.dialect.quoting (String.join texts) ks ∧
        isApart (String.join texts).toList = true ∧
      ts.length ≤ ks.length ∧ ∀ rest, 1 < clauseRank (next rest) →
        endsTable (next (ks ++ rest)) = true ∧
        ∀ n, ks.length < n → ∀ m, ts.length < m →
          Reads ((nested n).moreTables m) (ks ++ rest) ts rest := by
  induction ts with
  | nil =>
    refine ⟨[], [], rfl, .empty, rfl, Nat.le_refl 0, fun rest hrest => ⟨?_, fun n _ m hm => ?_⟩⟩
    · exact Bool.or_eq_true_iff.mpr (.inr (decide_eq_true hrest))
    · obtain ⟨m, rfl⟩ : ∃ l, m = l + 1 := ⟨m - 1, by omega⟩
      exact .left (Parser.isAt_asks .comma)
        (clauseStart_none (· == .symbol .comma) (by decide) hrest)
        ((noJoin_reads hrest).bind (.pure _))
  | cons t ts ih =>
    obtain ⟨text, kt, ht⟩ := h t List.mem_cons_self
    obtain ⟨texts, ks, hrendered, hlexes, hapart, hlength, hreads⟩ :=
      ih fun t ht => h t (List.mem_cons_of_mem _ ht)
    refine ⟨text :: texts, kt ++ ks, ?_, ?_, ?_, ?_, fun rest hrest => ⟨?_, fun n hn m hm => ?_⟩⟩
    · rw [List.map_cons, List.mapM_cons, ht.rendered, hrendered]
      rfl
    · rw [String.join_cons]
      exact ht.lexes.append hlexes hapart
    · rw [String.join_cons, String.toList_append]
      exact Token.isApart_append ht.apart hapart
    · have hpos := List.length_pos_iff.mpr ht.starts.1
      rw [List.length_append, List.length_cons]
      omega
    · rw [List.append_assoc, Parser.next_append ht.starts.1]
      exact Bool.or_eq_true_iff.mpr (.inl (List.contains_iff_mem.mpr ht.starts.2))
    · obtain ⟨hends, hmore⟩ := hreads rest hrest
      obtain ⟨m, rfl⟩ : ∃ l, m = l + 1 := ⟨m - 1, by omega⟩
      rw [List.length_append] at hn
      rw [List.length_cons] at hm
      rw [List.append_assoc]
      exact ht.reads n (by omega) _ hends m ts rest (hmore n (by omega) m (by omega))

theorem fromClause_spelled (hr : r.Standard opening closing) {tables : Option (List (Table Expr))}
    (hplain : ∀ ts ∈ tables, ∃ first more, ts = first :: more ∧ first.Listed ∧
      (∀ t ∈ more, t.Listed ∨ t.Joined) ∧
      ∀ t ∈ ts, t.Plain)
    (hq : ∀ ts ∈ tables, ∀ t ∈ ts, ∀ q, t.expr = some (.query q) → ∃ text ks, q.Spelled r text ks)
    (hcondition : ∀ ts ∈ tables, ∀ t ∈ ts, ∀ e ∈ t.condition, ∃ text ks, Spelled r e text ks) :
    ∃ text ks, r.fromClause (tables.map (·.map (Table.map r.item))) = .ok text ∧
      ClauseSpelled r.config.dialect.quoting (fun i => i.tables?) 1 tables text ks := by
  cases tables with
  | none =>
    refine ⟨"", [], rfl, .missing fun i rest hrest => ?_⟩
    exact .left (Parser.isAtKeyword_asks .FROM) (not_clauseStart hrest) (.pure _)
  | some ts =>
    obtain ⟨first, more, rfl, hfirst, hmore, hplain⟩ := hplain ts rfl
    have hq := hq _ rfl
    have hcondition := hcondition _ rfl
    obtain ⟨table, kf, hrendered, hne, hfactor⟩ :=
      factor_spelled hr (hplain first List.mem_cons_self) (hq first List.mem_cons_self)
    obtain ⟨texts, ks, hrest, hlexes, hapart, hlength, hreads⟩ := moreTables_spelled fun t ht => by
      have hmem := List.mem_cons_of_mem first ht
      rcases hmore t ht with hlisted | hjoined
      · exact listed_spelled hr (hplain t hmem) hlisted (hq t hmem)
      · exact joined_spelled hr (hplain t hmem) hjoined (hq t hmem) (hcondition t hmem)
    have hall := hfactor.lexes.append hlexes hapart
    have hempty : (table ++ String.join texts).isEmpty = false := by
      rw [Bool.eq_false_iff]
      intro hempty
      rw [String.isEmpty_iff] at hempty
      rw [hempty] at hall
      exact hne (List.append_eq_nil_iff.mp hall.eq_nil).1
    refine ⟨"FROM" ++ " " ++ (table ++ String.join texts), [.word .FROM] ++ (kf ++ ks), ?_,
      ⟨?_, ?_⟩, .inr rfl⟩
    · show (do return clause "FROM" (← r.tables ((first :: more).map (Table.map r.item)))) = _
      rw [List.map_cons, Renderer.tables, hrendered, hrest]
      show Except.ok (clause "FROM" (table ++ String.join texts)) = _
      rw [clause_eq hempty]
    · exact (Lexes.keyword .FROM).spaced hall
    · intro n hn rest hrest
      simp only [List.length_append, List.length_singleton] at hn
      obtain ⟨hends, hmore⟩ := hreads rest (of_decide_eq_true hrest)
      have htable := hfactor.reads n (by omega) _ (endsFactor_of_endsTable hends)
      rw [listed_factor hfirst] at htable
      rw [List.append_assoc, List.append_assoc]
      refine .taken (Parser.isAtKeyword_asks .FROM) rfl (.bind (x := first :: more) ?_ (.pure _))
      refine htable.bind (.rounds ((hmore n (by omega) _ ?_).bind (.pure _)))
      rw [List.length_append]
      omega

end SqlWeave
