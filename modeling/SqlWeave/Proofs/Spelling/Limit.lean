import SqlWeave.Proofs.Spelling.Clause

/-! Row limits in the spellings of the dialects. -/

namespace SqlWeave

open Token (Piece Lexes Quoting)
open SqlWeave.Parser (Nested Reads nested next)
open Render (Result Item)

variable {r : Renderer} {count offset : Expr} {tc tf : String} {kc ko : List Piece}

/-! ## FETCH -/

/-- The words after the count of FETCH. -/
def fetchWords : List (List String) := ["ROWS", "ONLY"] :: fetchSuffixes

/-- What is kept of them. -/
def suffixOf (words : List String) : List String := if words = ["ROWS", "ONLY"] then [] else words

/-- Words that can follow the count of FETCH: the count ends before them. -/
structure AfterCount (words : List String) : Prop where
  spelled : ∀ w ∈ words, Token.isWord w = true
  nonempty : words ≠ []
  ends : endsExpr (next (words.map .ofWord)) = true

theorem fetchWords_afterCount {words : List String} (h : words ∈ fetchWords) :
    AfterCount words := by
  have hall : ∀ words ∈ fetchWords, (∀ w ∈ words, Token.isWord w = true) ∧ words ≠ [] ∧
      endsExpr (next (words.map .ofWord)) = true := by
    decide
  obtain ⟨hwords, hne, hends⟩ := hall words h
  exact ⟨hwords, hne, hends⟩

theorem withFetchSuffix_eq {words : List String} (h : words ∈ fetchWords) (l : Limit Expr) :
    l.withFetchSuffix words = { l with fetchSuffix := suffixOf words } := by
  have hall : ∀ words ∈ fetchWords,
      (if ((words.flatMap Text.words).map Text.asciiUpper).all Limit.isPlainWord then []
      else (words.flatMap Text.words).map Text.asciiUpper) = suffixOf words := by decide
  unfold Limit.withFetchSuffix
  simp only [hall words h]

theorem fetchWords_lexes {q : Quoting} {words : List String} (h : words ∈ fetchWords) :
    Lexes q (" ".intercalate words) (words.map .ofWord) := by
  have hwords := fetchWords_afterCount h
  obtain ⟨w, ws, rfl⟩ := List.exists_cons_of_ne_nil hwords.nonempty
  exact .words hwords.spelled

theorem expectWord_reads {words : List String} {word : String} {rest : List Piece}
    (h : words.any (Token.wordKind word).isWord = true) :
    Reads (Parser.expectWord words) (.ofWord word :: rest) () rest :=
  .taken (Parser.isAtAnyWord_asks words) h (.pure _)

/-- What the readers make of the words of a limit. -/
theorem limitWords_facts :
    (∀ w ∈ ["FIRST", "NEXT", "ROWS"], Token.isWord w = true) ∧
      (∀ w ∈ ["FIRST", "NEXT"], ["first", "next"].any (Token.wordKind w).isWord = true) ∧
      (endsExpr (Token.wordKind "ROWS") = true ∧
        ["rows", "row"].any (Token.wordKind "ROWS").isWord = true) ∧
      (["only"].any (Token.wordKind "ONLY").isWord = true ∧
        ["ties"].any (Token.wordKind "TIES").isWord = true) ∧
      ((Token.wordKind "ROWS").isWord "percent" = false ∧
        (Token.wordKind "PERCENT").isWord "percent" = true) ∧
      (Token.wordKind "ONLY" == .keyword .WITH) = false ∧
        (Token.wordKind "WITH" == .keyword .WITH) = true := by
  decide

theorem fetch_reads {words : List String} (h : words ∈ fetchWords) {first : String}
    (hfirst : first = "FIRST" ∨ first = "NEXT") {i : Nested} {rest : List Piece}
    (hcount : Reads (i.expr 0) (kc ++ (words.map .ofWord ++ rest)) count
      (words.map .ofWord ++ rest)) :
    Reads i.fetch (.ofWord first :: (kc ++ (words.map .ofWord ++ rest))) (count, words) rest := by
  obtain ⟨-, hfirsts, ⟨-, hrow⟩, ⟨honly, hties⟩, ⟨hrows, hpercent⟩, honlyEnds, hwith⟩ :=
    limitWords_facts
  have hfirst' : ["first", "next"].any (Token.wordKind first).isWord = true :=
    hfirsts first (by rcases hfirst with rfl | rfl <;> decide)
  have honly (rest : List Piece) :
      Reads (Parser.expectWord ["only"]) (.ofWord "ONLY" :: rest) () rest :=
    expectWord_reads honly
  have hties (rest : List Piece) :
      Reads (Parser.expectWord ["ties"]) (.ofWord "TIES" :: rest) () rest :=
    expectWord_reads hties
  have hrow (rest : List Piece) :
      Reads (Parser.expectWord ["rows", "row"]) (.ofWord "ROWS" :: rest) () rest :=
    expectWord_reads hrow
  refine (expectWord_reads hfirst').bind (hcount.bind ?_)
  simp only [fetchWords, fetchSuffixes, List.mem_cons, List.not_mem_nil, or_false] at h
  rcases h with rfl | rfl | rfl | rfl
  · refine .left (Parser.isAtWord_asks "percent") hrows (.pureBind ((hrow _).bind ?_))
    exact .left (Parser.isAtKeyword_asks .WITH) honlyEnds ((honly _).bind (.pure _))
  · refine .taken (Parser.isAtWord_asks "percent") hpercent (.pureBind ((hrow _).bind ?_))
    exact .left (Parser.isAtKeyword_asks .WITH) honlyEnds ((honly _).bind (.pure _))
  · refine .left (Parser.isAtWord_asks "percent") hrows (.pureBind ((hrow _).bind ?_))
    exact .taken (Parser.isAtKeyword_asks .WITH) hwith ((hties _).bind (.pure _))
  · refine .taken (Parser.isAtWord_asks "percent") hpercent (.pureBind ((hrow _).bind ?_))
    exact .taken (Parser.isAtKeyword_asks .WITH) hwith ((hties _).bind (.pure _))

/-! ## The spellings of a limit -/

/-- A limit after its first word. -/
theorem limit_spelled {word : Keyword} (hword : clauseRank (.keyword word) = 6) {l : Limit Expr}
    {text : String} {ks : List Piece}
    (hlexes : Lexes r.config.dialect.quoting text (.word word :: ks))
    (hreads : ∀ n, ks.length < n → ∀ rest, 6 < clauseRank (next rest) →
      Reads (nested n).limit? (.word word :: (ks ++ rest)) (some l) rest) :
    ClauseSpelled r.config.dialect.quoting (fun i => i.limit?) 6 (some l) text
      (.word word :: ks) where
  legible := by
    refine ⟨hlexes, fun n hn rest hrest => ?_⟩
    rw [List.length_cons] at hn
    exact hreads n (by omega) rest (of_decide_eq_true hrest)
  starts := .inr hword

theorem rows_isWord : Token.isWord "ROWS" = true := limitWords_facts.1 _ (by decide)

theorem next_isWord : Token.isWord "NEXT" = true := limitWords_facts.1 _ (by decide)

theorem rows_ends : endsExpr (Token.wordKind "ROWS") = true := limitWords_facts.2.2.1.1

theorem rows_taken : ["rows", "row"].any (Token.wordKind "ROWS").isWord = true :=
  limitWords_facts.2.2.1.2

theorem first_isWord : Token.isWord "FIRST" = true := limitWords_facts.1 _ (by decide)

theorem fetchCount_reads (hcount : Spelled r count tc kc) {words : List String}
    (h : words ∈ fetchWords) {n : Nat} (hn : kc.length < n) (rest : List Piece) :
    Reads ((nested n).expr 0) (kc ++ (words.map .ofWord ++ rest)) count
      (words.map .ofWord ++ rest) := by
  have hwords := fetchWords_afterCount h
  refine hcount.legible.reads n hn _ ?_
  rw [Parser.next_append (by simpa using hwords.nonempty)]
  exact hwords.ends

/-- `OFFSET m ROWS FETCH NEXT n …`. -/
theorem offsetFetch_spelled (hcount : Spelled r count tc kc) (hoffset : Spelled r offset tf ko)
    {words : List String} (h : words ∈ fetchWords) :
    ∃ ks, ClauseSpelled r.config.dialect.quoting (fun i => i.limit?) 6
      (some { count := some count, offset := some offset, fetchSuffix := suffixOf words })
      ("OFFSET " ++ tf ++ " ROWS FETCH NEXT " ++ tc ++ " " ++ " ".intercalate words) ks := by
  have hchain : Lexes r.config.dialect.quoting ("OFFSET" ++ " " ++ tf ++ " " ++ "ROWS" ++ " " ++
      "FETCH" ++ " " ++
      "NEXT" ++ " " ++ tc ++ " " ++ " ".intercalate words) _ :=
    ((((((Lexes.keyword .OFFSET).spaced hoffset.lexes).spaced (.word rows_isWord)).spaced
      (.keyword .FETCH)).spaced
      (.word next_isWord)).spaced hcount.lexes).spaced (fetchWords_lexes h)
  have hlexes : Lexes r.config.dialect.quoting
      ("OFFSET " ++ tf ++ " ROWS FETCH NEXT " ++ tc ++ " " ++ " ".intercalate words)
      (.word .OFFSET :: (ko ++ .ofWord "ROWS" :: .word .FETCH :: .ofWord "NEXT" ::
        (kc ++ words.map .ofWord))) := by
    rw [show "OFFSET " ++ tf ++ " ROWS FETCH NEXT " ++ tc ++ " " ++ " ".intercalate words =
      "OFFSET" ++ " " ++ tf ++
      " " ++ "ROWS" ++ " " ++ "FETCH" ++ " " ++ "NEXT" ++ " " ++ tc ++ " " ++
        " ".intercalate words by
        simp only [String.append_assoc]; rfl]
    simpa only [List.append_assoc, List.cons_append, List.nil_append] using hchain
  refine ⟨_, limit_spelled rfl hlexes fun n hn rest hrest => ?_⟩
  simp only [List.length_append, List.length_cons] at hn
  have hcount' := fetchCount_reads hcount h (n := n) (by omega) rest
  have hoffset' := hoffset.legible.reads n (by omega)
    (.ofWord "ROWS" :: .word .FETCH :: .ofWord "NEXT" :: (kc ++ (words.map .ofWord ++ rest)))
      rows_ends
  simp only [List.append_assoc, List.cons_append]
  refine .left (Parser.isAtKeyword_asks .LIMIT) rfl
    (.taken (Parser.isAtKeyword_asks .OFFSET) rfl ?_)
  refine .bind (x := { count := some count, offset := some offset, fetchSuffix := suffixOf words })
    ?_ (.pure _)
  refine hoffset'.bind (.bind (.takes (Parser.isAtAnyWord_asks _) rows_taken) ?_)
  refine .taken (Parser.isAtKeyword_asks .FETCH) rfl ((fetch_reads h (.inr rfl) hcount').bind ?_)
  show Reads (pure (Limit.withFetchSuffix _ words)) _ _ _
  rw [withFetchSuffix_eq h]
  exact .pure _

/-- `FETCH FIRST n …`. -/
theorem fetch_spelled (hcount : Spelled r count tc kc) {words : List String}
    (h : words ∈ fetchWords) :
    ∃ ks, ClauseSpelled r.config.dialect.quoting (fun i => i.limit?) 6
      (some { count := some count, fetchSuffix := suffixOf words })
      ("FETCH FIRST " ++ tc ++ " " ++ " ".intercalate words) ks := by
  have hchain : Lexes r.config.dialect.quoting ("FETCH" ++ " " ++ "FIRST" ++ " " ++ tc ++ " " ++
      " ".intercalate words) _ :=
    (((Lexes.keyword .FETCH).spaced (.word first_isWord)).spaced hcount.lexes).spaced
      (fetchWords_lexes h)
  have hlexes : Lexes r.config.dialect.quoting ("FETCH FIRST " ++ tc ++ " " ++
      " ".intercalate words)
      (.word .FETCH :: (.ofWord "FIRST" :: (kc ++ words.map .ofWord))) := by
    rw [show "FETCH FIRST " = "FETCH" ++ " " ++ "FIRST" ++ " " from rfl]
    simpa only [List.append_assoc, List.cons_append, List.nil_append] using hchain
  refine ⟨_, limit_spelled rfl hlexes fun n hn rest hrest => ?_⟩
  simp only [List.length_append, List.length_cons] at hn
  have hcount' := fetchCount_reads hcount h (n := n) (by omega) rest
  simp only [List.append_assoc, List.cons_append]
  refine .left (Parser.isAtKeyword_asks .LIMIT) rfl (.left (Parser.isAtKeyword_asks .OFFSET) rfl ?_)
  refine .taken (Parser.isAtKeyword_asks .FETCH) rfl ((fetch_reads h (.inl rfl) hcount').bind ?_)
  show Reads (pure (some (Limit.withFetchSuffix _ words))) _ _ _
  rw [withFetchSuffix_eq h]
  exact .pure _

/-- `LIMIT m, n`. -/
theorem limitComma_spelled (hcount : Spelled r count tc kc) (hoffset : Spelled r offset tf ko) :
    ∃ ks, ClauseSpelled r.config.dialect.quoting (fun i => i.limit?) 6
      (some { count := some count, offset := some offset, comma := true })
        ("LIMIT " ++ tf ++ ", " ++ tc) ks := by
  have hchain : Lexes r.config.dialect.quoting ("LIMIT" ++ " " ++ tf ++ (", " ++ tc)) _ :=
    ((Lexes.keyword .LIMIT).spaced hoffset.lexes).append hcount.lexes.afterComma
      (by rw [String.toList_append]; rfl)
  have hlexes : Lexes r.config.dialect.quoting ("LIMIT " ++ tf ++ ", " ++ tc)
      (.word .LIMIT :: (ko ++ .comma :: kc)) := by
    rw [String.append_assoc, show "LIMIT " = "LIMIT" ++ " " from rfl]
    simpa only [List.append_assoc, List.cons_append, List.nil_append] using hchain
  refine ⟨_, limit_spelled rfl hlexes fun n hn rest hrest => ?_⟩
  simp only [List.length_append, List.length_cons] at hn
  have hoffset' := hoffset.legible.reads n (by omega) (.comma :: (kc ++ rest)) rfl
  have hcount' := hcount.legible.reads n (by omega) rest (endsExpr_of_clauseRank hrest)
  rw [List.append_assoc, List.cons_append]
  refine .taken (Parser.isAtKeyword_asks .LIMIT) rfl
    (.bind (x := { count := some count, offset := some offset, comma := true }) ?_ (.pure _))
  exact hoffset'.bind (.taken (Parser.isAt_asks .comma) rfl (hcount'.bind (.pure _)))

/-- `LIMIT n OFFSET m`. -/
theorem limitOffset_spelled (hcount : Spelled r count tc kc) (hoffset : Spelled r offset tf ko) :
    ∃ ks, ClauseSpelled r.config.dialect.quoting (fun i => i.limit?) 6
      (some { count := some count, offset := some offset }) ("LIMIT " ++ tc ++ " OFFSET " ++ tf)
        ks := by
  have hchain :
      Lexes r.config.dialect.quoting ("LIMIT" ++ " " ++ tc ++ " " ++ "OFFSET" ++ " " ++ tf) _ :=
    (((Lexes.keyword .LIMIT).spaced hcount.lexes).spaced (.keyword .OFFSET)).spaced hoffset.lexes
  have hlexes : Lexes r.config.dialect.quoting ("LIMIT " ++ tc ++ " OFFSET " ++ tf)
      (.word .LIMIT :: (kc ++ .word .OFFSET :: ko)) := by
    rw [show "LIMIT " ++ tc ++ " OFFSET " ++ tf = "LIMIT" ++ " " ++ tc ++ " " ++ "OFFSET" ++
      " " ++ tf by
      simp only [String.append_assoc]; rfl]
    simpa only [List.append_assoc, List.cons_append, List.nil_append] using hchain
  refine ⟨_, limit_spelled rfl hlexes fun n hn rest hrest => ?_⟩
  simp only [List.length_append, List.length_cons] at hn
  have hcount' := hcount.legible.reads n (by omega) (.word .OFFSET :: (ko ++ rest)) rfl
  have hoffset' := hoffset.legible.reads n (by omega) rest (endsExpr_of_clauseRank hrest)
  rw [List.append_assoc, List.cons_append]
  refine .taken (Parser.isAtKeyword_asks .LIMIT) rfl
    (.bind (x := { count := some count, offset := some offset }) ?_ (.pure _))
  exact hcount'.bind (.left (Parser.isAt_asks .comma) rfl
    (.taken (Parser.isAtKeyword_asks .OFFSET) rfl (hoffset'.bind (.pure _))))

/-- `LIMIT n`. -/
theorem limitOnly_spelled (hcount : Spelled r count tc kc) :
    ∃ ks, ClauseSpelled r.config.dialect.quoting (fun i => i.limit?) 6
      (some { count := some count })
      ("LIMIT " ++ tc) ks := by
  have hlexes : Lexes r.config.dialect.quoting ("LIMIT " ++ tc) (.word .LIMIT :: kc) :=
    (Lexes.keyword .LIMIT).spaced hcount.lexes
  refine ⟨_, limit_spelled rfl hlexes fun n hn rest hrest => ?_⟩
  have hcount' := hcount.legible.reads n hn rest (endsExpr_of_clauseRank hrest)
  have hcomma : (next rest == .symbol .comma) = false :=
    clauseStart_none (· == .symbol .comma) (by decide) hrest
  refine .taken (Parser.isAtKeyword_asks .LIMIT) rfl
    (.bind (x := { count := some count }) ?_ (.pure _))
  exact hcount'.bind (.left (Parser.isAt_asks .comma) hcomma
    (.left (Parser.isAtKeyword_asks .OFFSET) (not_clauseStart hrest) (.pure _)))

/-- `OFFSET m`. -/
theorem offsetOnly_spelled (hoffset : Spelled r offset tf ko) :
    ∃ ks, ClauseSpelled r.config.dialect.quoting (fun i => i.limit?) 6
      (some { offset := some offset })
      ("OFFSET " ++ tf) ks := by
  have hlexes : Lexes r.config.dialect.quoting ("OFFSET " ++ tf) (.word .OFFSET :: ko) :=
    (Lexes.keyword .OFFSET).spaced hoffset.lexes
  refine ⟨_, limit_spelled rfl hlexes fun n hn rest hrest => ?_⟩
  have hoffset' := hoffset.legible.reads n hn rest (endsExpr_of_clauseRank hrest)
  have hrows : ["rows", "row"].any (next rest).isWord = false :=
    clauseStart_none (fun k => ["rows", "row"].any k.isWord) (by decide) hrest
  refine .left (Parser.isAtKeyword_asks .LIMIT) rfl
    (.taken (Parser.isAtKeyword_asks .OFFSET) rfl ?_)
  refine .bind (x := { offset := some offset }) ?_ (.pure _)
  exact hoffset'.bind (.bind (.stops (Parser.isAtAnyWord_asks _) hrows)
    (.left (Parser.isAtKeyword_asks .FETCH) (not_clauseStart hrest) (.pure _)))

/-- `OFFSET m ROWS`. -/
theorem offsetRows_spelled (hoffset : Spelled r offset tf ko) :
    ∃ ks, ClauseSpelled r.config.dialect.quoting (fun i => i.limit?) 6
      (some { offset := some offset })
      ("OFFSET " ++ tf ++ " ROWS") ks := by
  have hchain : Lexes r.config.dialect.quoting ("OFFSET" ++ " " ++ tf ++ " " ++ "ROWS") _ :=
    ((Lexes.keyword .OFFSET).spaced hoffset.lexes).spaced (.word rows_isWord)
  have hlexes : Lexes r.config.dialect.quoting ("OFFSET " ++ tf ++ " ROWS")
      (.word .OFFSET :: (ko ++ [.ofWord "ROWS"])) := by
    rw [show "OFFSET " ++ tf ++ " ROWS" = "OFFSET" ++ " " ++ tf ++ " " ++
      "ROWS" by simp only [String.append_assoc]; rfl]
    simpa only [List.append_assoc, List.cons_append, List.nil_append] using hchain
  refine ⟨_, limit_spelled rfl hlexes fun n hn rest hrest => ?_⟩
  simp only [List.length_append, List.length_cons] at hn
  have hoffset' := hoffset.legible.reads n (by omega) (.ofWord "ROWS" :: rest) rows_ends
  rw [List.append_assoc, List.singleton_append]
  refine .left (Parser.isAtKeyword_asks .LIMIT) rfl
    (.taken (Parser.isAtKeyword_asks .OFFSET) rfl ?_)
  refine .bind (x := { offset := some offset }) ?_ (.pure _)
  exact hoffset'.bind (.bind (.takes (Parser.isAtAnyWord_asks _) rows_taken)
    (.left (Parser.isAtKeyword_asks .FETCH) (not_clauseStart hrest) (.pure _)))

/-! ## Which of them a dialect uses -/

theorem limitText_fetch {l : Limit Item} (h : l.fetchSuffix ≠ []) (offset : Option String) :
    r.limitText l (some tc) offset = r.fetch tc offset (" ".intercalate l.fetchSuffix) := by
  obtain ⟨w, ws, hcons⟩ := List.exists_cons_of_ne_nil h
  unfold Renderer.limitText
  rw [hcons]

theorem fetchSuffixes_facts :
    ∀ suffix ∈ fetchSuffixes, suffix ∈ fetchWords ∧ suffixOf suffix = suffix ∧ suffix ≠ [] := by
  decide

/-- A count with no offset before it. -/
theorem countLimit_spelled {suffix : List String}
    (hl : (Limit.mk (some count) none false suffix).Plain r.config.dialect)
    (hcount : Spelled r count tc kc) :
    ∃ ks, ClauseSpelled r.config.dialect.quoting (fun i => i.limit?) 6
      (some (Limit.mk (some count) none false suffix))
      (r.limitText (Limit.map r.item (Limit.mk (some count) none false suffix)) (some tc) none)
        ks := by
  have hfetch (words : String) (h : r.config.dialect.requiresOffsetBeforeFetch = false) :
      r.fetch tc none words = "FETCH FIRST " ++ tc ++ " " ++ words := by
    simp only [Renderer.fetch, h, Bool.false_eq_true, if_false]
  have hrequires : r.config.dialect.requiresOffsetBeforeFetch = false := by
    rw [Bool.eq_false_iff]
    intro hrequires
    cases hl.offset hrequires rfl
  rcases hl.suffix with hsuffix | ⟨hsuffix, -⟩
  · obtain rfl : suffix = [] := hsuffix
    cases hstyle : r.config.dialect.limitStyle with
    | limitOffset =>
      have htext : r.limitText (Limit.map r.item (Limit.mk (some count) none false [])) (some tc)
          none = "LIMIT " ++ tc := by
        simp only [Renderer.limitText, hstyle, Limit.map]
      rw [htext]
      exact limitOnly_spelled hcount
    | fetchOffset =>
      have htext : r.limitText (Limit.map r.item (Limit.mk (some count) none false []))
          (some tc) none =
          r.fetch tc none "ROWS ONLY" := by
        simp only [Renderer.limitText, hstyle, Limit.map]
      rw [htext, hfetch _ hrequires]
      exact @fetch_spelled r count tc kc hcount ["ROWS", "ONLY"] (by decide)
  · obtain ⟨hwords, hkept, hne⟩ := fetchSuffixes_facts suffix hsuffix
    rw [limitText_fetch (by exact hne), hfetch _ hrequires]
    have hspelled := fetch_spelled hcount hwords
    rw [hkept] at hspelled
    exact hspelled

/-- A count and an offset. -/
theorem fullLimit_spelled {comma : Bool} {suffix : List String}
    (hl : (Limit.mk (some count) (some offset) comma suffix).Plain r.config.dialect)
    (hcount : Spelled r count tc kc) (hoffset : Spelled r offset tf ko) :
    ∃ ks, ClauseSpelled r.config.dialect.quoting (fun i => i.limit?) 6
      (some (Limit.mk (some count) (some offset) comma suffix))
      (r.limitText (Limit.map r.item (Limit.mk (some count) (some offset) comma suffix)) (some tc)
        (some tf)) ks := by
  rcases hl.suffix with hsuffix | ⟨hsuffix, -⟩
  · obtain rfl : suffix = [] := hsuffix
    cases hstyle : r.config.dialect.limitStyle with
    | limitOffset =>
      cases comma with
      | true =>
        have htext : r.limitText (Limit.map r.item (Limit.mk (some count) (some offset) true []))
            (some tc) (some tf) =
            "LIMIT " ++ tf ++ ", " ++ tc := by
          simp only [Renderer.limitText, hstyle, (hl.comma rfl).2.2.2, Limit.map, Bool.and_self,
            if_true]
        rw [htext]
        exact limitComma_spelled hcount hoffset
      | false =>
        have htext : r.limitText (Limit.map r.item (Limit.mk (some count) (some offset) false []))
            (some tc) (some tf) =
            "LIMIT " ++ tc ++ " OFFSET " ++ tf := by
          simp only [Renderer.limitText, hstyle, Limit.map, Bool.false_and, Bool.false_eq_true,
            if_false]
        rw [htext]
        exact limitOffset_spelled hcount hoffset
    | fetchOffset =>
      obtain rfl : comma = false := by
        rw [Bool.eq_false_iff]
        intro hcomma
        have hsupports := (hl.comma hcomma).2.2.2
        cases hd : r.config.dialect <;>
          simp [hd, Dialect.supportsLimitComma, Dialect.limitStyle] at hsupports hstyle
      have htext : r.limitText (Limit.map r.item (Limit.mk (some count) (some offset) false []))
          (some tc) (some tf) =
          "OFFSET " ++ tf ++ " ROWS FETCH NEXT " ++ tc ++ " " ++
            " ".intercalate ["ROWS", "ONLY"] := by
        simp only [Renderer.limitText, hstyle]
        rfl
      rw [htext]
      exact @offsetFetch_spelled r count offset tc tf kc ko hcount hoffset ["ROWS", "ONLY"]
        (by decide)
  · obtain ⟨hwords, hkept, hne⟩ := fetchSuffixes_facts suffix hsuffix
    obtain rfl : comma = false := by
      rw [Bool.eq_false_iff]
      intro hcomma
      exact hne (hl.comma hcomma).2.2.1
    rw [limitText_fetch (by exact hne)]
    have hspelled := offsetFetch_spelled hcount hoffset hwords
    rw [hkept] at hspelled
    exact hspelled

/-- An offset by itself. -/
theorem offsetLimit_spelled (hoffset : Spelled r offset tf ko) :
    ∃ ks, ClauseSpelled r.config.dialect.quoting (fun i => i.limit?) 6
      (some (Limit.mk none (some offset) false []))
      (r.limitText (Limit.map r.item (Limit.mk none (some offset) false [])) none (some tf))
        ks := by
  cases hstyle : r.config.dialect.limitStyle with
  | limitOffset =>
    have htext :
        r.limitText (Limit.map r.item (Limit.mk none (some offset) false [])) none (some tf) =
        "OFFSET " ++ tf := by
      simp only [Renderer.limitText, hstyle]
    rw [htext]
    exact offsetOnly_spelled hoffset
  | fetchOffset =>
    have htext :
        r.limitText (Limit.map r.item (Limit.mk none (some offset) false [])) none (some tf) =
        "OFFSET " ++ tf ++ " ROWS" := by
      simp only [Renderer.limitText, hstyle]
    rw [htext]
    exact offsetRows_spelled hoffset

theorem limitClause_spelled {limit : Option (Limit Expr)}
    (hplain : ∀ l ∈ limit, l.Plain r.config.dialect)
    (h : ∀ l ∈ limit, ∀ e ∈ l.count.toList ++ l.offset.toList, ∃ text ks, Spelled r e text ks) :
    ∃ text ks, r.limit (limit.map (·.map r.item)) = .ok text ∧
      ClauseSpelled r.config.dialect.quoting (fun i => i.limit?) 6 limit text ks := by
  cases limit with
  | none =>
    refine ⟨"", [], rfl, .missing fun i rest hrest => ?_⟩
    refine .left (Parser.isAtKeyword_asks .LIMIT) (not_clauseStart hrest) ?_
    refine .left (Parser.isAtKeyword_asks .OFFSET) (not_clauseStart hrest) ?_
    exact .left (Parser.isAtKeyword_asks .FETCH) (not_clauseStart hrest) (.pure _)
  | some l =>
    have hl := hplain l rfl
    have hexprs := h l rfl
    obtain ⟨count, offset, comma, suffix⟩ := l
    have hcomma (hmissing : ¬ (count.isSome ∧ offset.isSome)) : comma = false := by
      rw [Bool.eq_false_iff]
      exact fun hcomma => hmissing ⟨(hl.comma hcomma).1, (hl.comma hcomma).2.1⟩
    cases count with
    | none =>
      obtain rfl := hcomma (by simp)
      obtain rfl : suffix = [] := hl.suffix.resolve_right fun hsuffix => by cases hsuffix.2
      cases offset with
      | none => exact absurd hl.given (by simp)
      | some offset =>
        obtain ⟨tf, ko, hoffset⟩ := hexprs offset (by simp)
        obtain ⟨ks, hspelled⟩ := offsetLimit_spelled hoffset
        refine ⟨_, ks, ?_, hspelled⟩
        show (do
          let o ← (some offset).mapM r.expr
          return r.limitText (Limit.map r.item ⟨none, some offset, false, []⟩) none o) = _
        rw [Option.mapM_some, hoffset.rendered]
        rfl
    | some count =>
      obtain ⟨tc, kc, hcount⟩ := hexprs count (by simp)
      cases offset with
      | none =>
        obtain rfl := hcomma (by simp)
        obtain ⟨ks, hspelled⟩ := countLimit_spelled hl hcount
        refine ⟨_, ks, ?_, hspelled⟩
        show (do
          let c ← (some count).mapM r.expr
          return r.limitText (Limit.map r.item ⟨some count, none, false, suffix⟩) c none) = _
        rw [Option.mapM_some, hcount.rendered]
        rfl
      | some offset =>
        obtain ⟨tf, ko, hoffset⟩ := hexprs offset (by simp)
        obtain ⟨ks, hspelled⟩ := fullLimit_spelled hl hcount hoffset
        refine ⟨_, ks, ?_, hspelled⟩
        show (do
          let c ← (some count).mapM r.expr
          let o ← (some offset).mapM r.expr
          return r.limitText (Limit.map r.item ⟨some count, some offset, comma, suffix⟩) c o) = _
        rw [Option.mapM_some, Option.mapM_some, hcount.rendered, hoffset.rendered]
        rfl

end SqlWeave
