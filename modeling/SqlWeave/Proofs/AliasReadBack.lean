import SqlWeave.Proofs.ExprReadBack

/-! Aliases read back. The printer quotes an alias by its letters alone, and the reader takes a bare
word by the table of reserved words. The two disagree on the reserved words, which are all printed
bare. -/

namespace SqlWeave

open Token (Cuts Lexes Piece isApart tokenize tokensFrom)
open SqlWeave.Parser (Goes Reads Returns Stands Tape alias? size startState tokensOf)

/-- The word that the name is, if no name may be spelled like that without quotes. -/
def Keyword.reserved? (name : String) : Option Keyword :=
  (Keyword.lookup? name).filter fun word => !word.isUnreserved

namespace Token

/-- A bare word and what stands apart from it. -/
theorem tokensFrom_bare (q : Quoting) (pos : Nat) {name : String} (h : isWord name = true)
    {rest : List Char} (hrest : isApart rest = true) :
    tokensFrom q pos (name.toList ++ rest) =
      ⟨wordKind name, ⟨pos, pos + byteLength name.toList⟩⟩ :: tokensFrom q
        (pos + byteLength name.toList) rest :=
  (tokensFrom_bare_iff q pos name (endsWord_of_isApart hrest)).mpr h

end Token

/-! ## Reserved words are printed bare -/

theorem isAlpha_of_toUpper {c : Char} (h : c.toUpper.isUpper = true) : c.isAlpha = true := by
  by_cases hlower : c.isLower = true
  · exact Bool.or_eq_true_iff.mpr (.inr hlower)
  · have hsame : c.toUpper = c := by
      unfold Char.toUpper
      refine dif_neg fun hc => hlower ?_
      exact Bool.and_eq_true_iff.mpr ⟨decide_eq_true hc.1, decide_eq_true hc.2⟩
    rw [hsame] at h
    exact Bool.or_eq_true_iff.mpr (.inl h)

theorem Keyword.spelling_upper (k : Keyword) :
    k.spelling ≠ "" ∧ k.spelling.toList.all Char.isUpper = true := by
  have hall : ∀ k ∈ Keyword.all, k.spelling ≠ "" ∧ k.spelling.toList.all Char.isUpper = true := by
    decide +kernel
  exact hall k k.mem_all

theorem isPlainAlias_of_lookup? {name : String} {word : Keyword}
    (h : Keyword.lookup? name = some word) :
    Render.isPlainAlias name = true := by
  obtain ⟨hne, hupper⟩ := word.spelling_upper
  have hspelling : word.spelling = Text.asciiUpper name := by simpa using List.find?_some h
  have hletters : ∀ c ∈ name.toList, c.isAlpha = true := by
    intro c hc
    rw [hspelling, Text.asciiUpper, String.toList_ofList, List.all_map, List.all_eq_true] at hupper
    exact isAlpha_of_toUpper (hupper c hc)
  unfold Render.isPlainAlias
  cases hname : name.toList with
  | nil =>
    rw [hspelling, Text.asciiUpper, hname] at hne
    exact absurd rfl hne
  | cons c cs =>
    rw [hname] at hletters
    have hfirst : Render.isAsciiWordStart c = true := by
      rw [Render.isAsciiWordStart, hletters c List.mem_cons_self, Bool.true_or]
    have hrest : cs.all Render.isAsciiWordChar = true := List.all_eq_true.mpr fun d hd => by
      rw [Render.isAsciiWordChar, Char.isAlphanum, hletters d (List.mem_cons_of_mem c hd),
        Bool.true_or, Bool.true_or]
    exact Bool.and_eq_true_iff.mpr ⟨hfirst, hrest⟩

example : Render.isPlainAlias "select" = true := by decide +kernel

/-! ## Reading back -/

/-- A reader that gets over the pieces of a text stands at the first token of what comes behind. -/
theorem Parser.Reads.returns_behind {α : Type} {p : Parser α} {d : Dialect} {text rest : String}
    {ks : List Piece} {x : α} {Q : α → Parser.Spot → Prop}
    (hcuts : Cuts d.quoting rest.toList text.toList ks)
    (hgoes : Goes (Tape.of d (text ++ rest)) ⟨.start, tokensOf d (text ++ rest)⟩ p Q)
    (h : ∀ js, Reads p (ks ++ js) x js) :
    ∃ u, Returns p ⟨text ++ rest, d⟩ (startState d (text ++ rest)) x u ∧
      u.current :: u.rest = (tokenize d rest).map (Token.shift (size text)) := by
  obtain ⟨js, hrest, hstands⟩ := startState_stands_append hcuts
  obtain ⟨u, hu, hend⟩ := h js _ _ hstands
  have hends := hgoes _ (Parser.startState_at d (text ++ rest))
  rw [show p (Tape.of d (text ++ rest)).source (startState d (text ++ rest)) =
    .ok (x, u) from hu] at hends
  obtain ⟨c, hc, -, -⟩ := hends
  obtain ⟨before, hbefore⟩ := hc.split
  rw [Tape.of_tokens] at hbefore
  exact ⟨u, hu, at_rest hcuts hbefore (hend.rest_length.trans hrest.rest_length.symm)⟩

theorem alias?_rejects (src : Source) {s : ParserState} {word : Keyword}
    (has : s.current.kind = .keyword .AS) (hword : s.advance.current.kind = .keyword word)
    (hreserved : word.isUnreserved = false) :
    alias? src s = .error (ParseError.unexpected "identifier" s.advance.current) := by
  have htake : Returns (Parser.eatKeyword .AS) src s true s.advance :=
    Parser.takeIf_takes (Parser.isAtKeyword_asks .AS) (by rw [has]; rfl)
  have hidentifier : Parser.identifier src s.advance =
      .error (ParseError.unexpected "identifier" s.advance.current) := by
    unfold Parser.identifier
    rw [Parser.run_bind, show Parser.kind src s.advance = .ok (s.advance.current.kind, s.advance)
      from rfl, hword]
    simp only [hreserved, Bool.false_eq_true, if_false]
    rfl
  unfold alias?
  rw [Parser.run_bind, htake]
  simp only [if_true]
  rw [Parser.run_bind, show Parser.kind src s.advance = .ok (s.advance.current.kind, s.advance)
    from rfl, hword]
  simp only
  rw [Parser.run_bind, hidentifier]

/-- The alias behind AS is read from the text it is printed as, up to the first token behind it,
unless it is a reserved word: that one is met as a keyword where a name has to stand. -/
theorem alias_reads_back {d : Dialect} (hd : d.identifierQuote ≠ .bare) (mode : RenderMode)
    {name : String} (hname : name ≠ "*") {rest : String} (hrest : isApart rest.toList = true) :
    let text := "AS " ++ ({ config := ⟨d, mode⟩ } : Renderer).aliasText name
    (Keyword.reserved? name = none → ∃ u,
      Returns alias? ⟨text ++ rest, d⟩ (startState d (text ++ rest)) (some name) u ∧
        u.current :: u.rest = (tokenize d rest).map (Token.shift (size text))) ∧
    ∀ word, Keyword.reserved? name = some word →
      alias? ⟨text ++ rest, d⟩ (startState d (text ++ rest)) =
        .error (ParseError.unexpected "identifier" ⟨.keyword word, ⟨3, size text⟩⟩) := by
  intro text
  constructor
  · intro hfree
    obtain ⟨opening, closing, hr⟩ := Renderer.standard_of_delimited hd mode
    have halias : IsAlias name := ⟨by simpa [isName] using hname, fun word hword => by
      simpa [Keyword.reserved?, Option.mem_def.mp hword] using hfree⟩
    obtain ⟨k, hlexes, hk⟩ := aliasText_spelled hr halias
    have hcuts : Cuts d.quoting rest.toList text.toList [.word .AS, k] := by
      have hspaced := (Lexes.keyword (q := d.quoting) .AS).spaced hlexes
      exact hspaced _ hrest
    exact Reads.returns_behind hcuts (Parser.alias?_keeps _ _ _ trivial (.here _)) fun js =>
      aliasAfterWord_reads hk
  · intro word hword
    obtain ⟨hlookup, hreserved⟩ := Option.filter_eq_some_iff.mp hword
    have hplain := isPlainAlias_of_lookup? hlookup
    have htext : text = "AS " ++ name := by simp only [text, Renderer.aliasText, if_pos hplain]
    have hkind : Token.wordKind name = .keyword word := by rw [Token.wordKind, hlookup]
    have htokens : tokenize d (text ++ rest) =
        ⟨.keyword .AS, ⟨0, 2⟩⟩ :: ⟨.keyword word, ⟨3, size text⟩⟩ ::
        tokensFrom d.quoting (size text) rest.toList := by
      have hsize : size text = 3 + Token.byteLength name.toList := by
        rw [htext, Parser.size_append]
        rfl
      have hchars : (text ++ rest).toList = "AS".toList ++ ' ' :: (name.toList ++ rest.toList) := by
        simp [htext]
      have has := Token.tokensFrom_bare d.quoting 0 (show Token.isWord "AS" = true by decide)
        (show isApart (' ' :: (name.toList ++ rest.toList)) = true from rfl)
      have hname := Token.tokensFrom_bare d.quoting 3 (isWord_of_isPlainAlias hplain) hrest
      rw [tokenize, hchars, has, Token.tokensFrom_blank _ _ (by decide), hsize]
      rw [hkind] at hname
      exact congrArg (List.cons _) hname
    have hstart := (Parser.startState_tokens d (text ++ rest)).trans htokens
    injection hstart with hcurrent hnext
    have hadvance :
        (startState d (text ++ rest)).advance.current = ⟨.keyword word, ⟨3, size text⟩⟩ := by
      rw [ParserState.advance, hnext]
    have hrejects := alias?_rejects ⟨text ++ rest, d⟩ (by rw [hcurrent])
      (congrArg Token.kind hadvance)
      (by simpa using hreserved)
    rwa [hadvance] at hrejects

theorem alias_reads_back_quoted : ∃ u,
    Returns alias? ⟨"AS `first name`, '", .mySql⟩ (startState .mySql "AS `first name`, '")
      (some "first name") u ∧
      u.current :: u.rest =
        [⟨.symbol .comma, ⟨15, 16⟩⟩, ⟨.fault .unterminatedString, ⟨17, 18⟩⟩, ⟨.eof, ⟨18, 18⟩⟩] := by
  have hback := @alias_reads_back .mySql (by decide) .strict "first name" (by decide) ", '" rfl
  obtain ⟨u, hu, hrest⟩ := hback.1 (by decide)
  have htokens : tokenize .mySql ", '" =
      [⟨.symbol .comma, ⟨0, 1⟩⟩, ⟨.fault .unterminatedString, ⟨2, 3⟩⟩, ⟨.eof, ⟨3, 3⟩⟩] := by
    decide +kernel
  rw [htokens] at hrest
  exact ⟨u, hu, hrest⟩

/-- The text that is printed for a reserved word is not read as an alias. -/
theorem reserved_alias_unread :
    ({ config := ⟨.mySql, .strict⟩ } : Renderer).aliasText "select" = "select" ∧
    ∀ name u, ¬ Returns alias? ⟨"AS select", .mySql⟩ (startState .mySql "AS select") name u := by
  have hwords : (startState .mySql "AS select").current.kind = .keyword .AS ∧
      (startState .mySql "AS select").advance.current.kind = .keyword .SELECT := by decide +kernel
  refine ⟨rfl, fun name u hu => ?_⟩
  have hrejects := alias?_rejects ⟨"AS select", .mySql⟩ hwords.1 hwords.2 rfl
  cases hrejects.symm.trans hu

end SqlWeave
