import SqlWeave.Proofs.Acceptance
import SqlWeave.Proofs.RoundTrip

/-! Expressions read back from inside a longer text. At every binding power a core expression is
read from its text as it is, and the reader then stands where the text behind it begins. -/

namespace SqlWeave

open Token (Cuts Piece Quoting isApart pieces tokenize tokensFrom)
open SqlWeave.Parser (Returns Stands Tape endOf next readersFor size startState)

/-! ## Pieces of a text that goes on -/

/-- The pieces of a text are those of its tokens and of its end. -/
theorem pieces_finish (d : Dialect) (text : String) :
    ∃ ks, pieces d.quoting text.toList = ks ++ [.finish] := by
  have hend : Token.piece text (Parser.endOf text) = .finish := by
    rw [Token.piece, Parser.endOf, Parser.slice_size]
    rfl
  refine ⟨(Parser.tokensOf d text).map (Token.piece text), ?_⟩
  rw [← startState_pieces, Parser.startState_tokens, (Parser.tokenize_split d text).1,
    List.map_append, List.map_singleton, hend]

/-- The pieces of the rest of a text, where the reader of the rest and that of the whole text
stand. -/
theorem startState_stands_append {d : Dialect} {text rest : String} {ks : List Piece}
    (h : Cuts d.quoting rest.toList text.toList ks) :
    ∃ js, Stands ⟨rest, d⟩ (startState d rest) js ∧
      Stands ⟨text ++ rest, d⟩ (startState d (text ++ rest)) (ks ++ js) := by
  obtain ⟨js, hjs⟩ := pieces_finish d rest
  refine ⟨js, (startState_pieces d rest).trans hjs, ?_⟩
  have hpieces := h.pieces_eq
  rw [← String.toList_append, hjs, ← List.append_assoc] at hpieces
  exact (startState_pieces d (text ++ rest)).trans hpieces

/-- A reader that got over the text to as many tokens as the rest has stands at the first of
them. -/
theorem at_rest {d : Dialect} {text rest : String} {ks : List Piece} {before : List Token}
    {u : ParserState} (h : Cuts d.quoting rest.toList text.toList ks)
    (hsuffix : tokenize d (text ++ rest) = before ++ u.current :: u.rest)
    (hlength : u.rest.length = (startState d rest).rest.length) :
    u.current :: u.rest = (tokenize d rest).map (Token.shift (size text)) := by
  obtain ⟨ts, hts⟩ := h.tokens 0
  rw [← String.toList_append, Token.tokensFrom_shift] at hts
  have hsplit : tokenize d (text ++ rest) = ts ++ (tokenize d rest).map (Token.shift (size text)) :=
    hts
  have hsame :
      (u.current :: u.rest).length = ((tokenize d rest).map (Token.shift (size text))).length := by
    rw [List.length_map, ← Parser.startState_tokens d rest, List.length_cons, List.length_cons,
      hlength]
  exact (List.append_inj' (hsuffix.symm.trans hsplit) hsame).2

/-! ## Reading back -/

/-- The expression is read by a reader that asks for operators of this power: its own bind that
tightly, and its operands leave those alone that do not. -/
structure Expr.Fits (e : Expr) (least : Nat) : Prop where
  leads : e.leads least = true
  yields : ∀ power < least, e.yields power = true

theorem Expr.Fits.leaves {e : Expr} {least : Nat} (h : e.Fits least) {k : TokenKind}
    (hends : endsOperand k = true)
    (hweak : ∀ power, Operator.power? k = some power → power < least) :
    e.leaves k = true ∧ (Operator.power? k).all (· < least) = true := by
  rw [Expr.leaves, hends, Bool.true_and]
  cases hpower : Operator.power? k with
  | none => exact ⟨rfl, rfl⟩
  | some power => exact ⟨h.yields power (hweak power hpower), decide_eq_true (hweak power hpower)⟩

/-- A spelled expression is read from its text up to the token behind it, if its operands and the
reader leave that alone. -/
theorem Spelled.returns_before {r : Renderer} {e : Expr} {text : String} {ks : List Piece}
    (h : Spelled r e text ks) {least : Nat} (hleads : e.leads least = true) {rest : String}
    (hapart : isApart rest.toList = true) {t : Token} {ts : List Token}
    (htokens : tokenize r.config.dialect rest = t :: ts) (hleaves : e.leaves t.kind = true)
    (hweak : (Operator.power? t.kind).all (· < least) = true) :
    ∃ u, Returns ((readersFor (startState r.config.dialect (text ++ rest))).expr least)
      ⟨text ++ rest, r.config.dialect⟩
        (startState r.config.dialect (text ++ rest)) e u ∧
      u.current :: u.rest = (t :: ts).map (Token.shift (size text)) := by
  have hcuts : Cuts r.config.dialect.quoting rest.toList text.toList ks := h.lexes _ hapart
  obtain ⟨js, hrest, hstands⟩ := startState_stands_append hcuts
  have hnext : next js = t.kind := by
    rw [← hrest.kind, (List.cons.inj ((Parser.startState_tokens _ rest).trans htokens)).1]
  rw [← hnext] at hleaves hweak
  have hdeep : ks.length < (startState r.config.dialect (text ++ rest)).rest.length + 1 := by
    rw [hstands.rest_length, List.length_append]
    omega
  obtain ⟨u, hu, hend⟩ := h.continues.reads hdeep hleads hleaves hweak _ _ hstands
  -- the tokens that are left are the last ones of the text
  have hgoes := Parser.expr_ends r.config.dialect (text ++ rest) least
  rw [readersFor, hu] at hgoes
  obtain ⟨c, hc, -, -⟩ := hgoes
  obtain ⟨before, hbefore⟩ := hc.split
  rw [Tape.of_tokens] at hbefore
  refine ⟨u, hu, ?_⟩
  rw [← htokens]
  exact at_rest hcuts hbefore (hend.rest_length.trans hrest.rest_length.symm)

/-- A core expression is read from its text up to the token behind it, if that is no part of an
operand and no operator that binds as tightly as is asked. -/
theorem core_expr_reads_back {d : Dialect} (hd : d.identifierQuote ≠ .bare) (mode : RenderMode)
    {e : Expr} (he : Phrase.Core d (.expr e)) {least : Nat} (hfits : e.Fits least) {rest : String}
    (hapart : isApart rest.toList = true) {t : Token} {ts : List Token}
    (htokens : tokenize d rest = t :: ts) (hends : endsOperand t.kind = true)
    (hweak : ∀ power, Operator.power? t.kind = some power → power < least) :
    ∃ text u, ({ config := ⟨d, mode⟩ } : Renderer).expr e = .ok text ∧
      Returns ((readersFor (startState d (text ++ rest))).expr least) ⟨text ++ rest, d⟩
        (startState d (text ++ rest)) e u ∧
      u.current :: u.rest = (t :: ts).map (Token.shift (size text)) := by
  obtain ⟨opening, closing, hr⟩ := Renderer.standard_of_delimited hd mode
  obtain ⟨text, ks, hspelled⟩ : Phrase.Spelled { config := ⟨d, mode⟩ } (.expr e) := he.spelled hr
  obtain ⟨hleaves, hweak'⟩ := hfits.leaves hends hweak
  obtain ⟨u, hu, hrest⟩ := hspelled.returns_before hfits.leads hapart htokens hleaves hweak'
  exact ⟨text, u, hspelled.rendered, hu, hrest⟩

/-- Where nothing comes behind it, the whole text is read. -/
theorem parseExpr_core {d : Dialect} (hd : d.identifierQuote ≠ .bare) (mode : RenderMode) {e : Expr}
    (he : Phrase.Core d (.expr e)) {least : Nat} (hleads : e.leads least = true) :
    ∃ text refs, ({ config := ⟨d, mode⟩ } : Renderer).expr e = .ok text ∧
      Parser.parseExpr d text least = .ok (e, refs) := by
  obtain ⟨opening, closing, hr⟩ := Renderer.standard_of_delimited hd mode
  obtain ⟨text, ks, hspelled⟩ : Phrase.Spelled { config := ⟨d, mode⟩ } (.expr e) := he.spelled hr
  have htokens : tokenize d "" = [⟨.eof, ⟨0, 0⟩⟩] := Token.tokensFrom_nil _ 0
  obtain ⟨u, hu, -⟩ := hspelled.returns_before hleads rfl htokens rfl rfl
  rw [String.append_empty] at hu
  exact ⟨text, u.references, hspelled.rendered, Parser.parseExpr_eq_ok.mpr ⟨u, hu, rfl⟩⟩

/-- A range whose AND is not the one behind it. -/
def outsideRange : Expr := (Expr.column "a`b").binary "NOT BETWEEN"
  (.list [.number (.int 1), .unary "-" (.string "it's")])

def outsideRangeText : String := "`a``b` NOT BETWEEN 1 AND -'it''s'"

theorem outsideRange_core (d : Dialect) : Phrase.Core d (.expr outsideRange) := by
  have hcolumn : Phrase.Core d (.expr (.column "a`b")) := .ofName (by decide)
  have hminus : Phrase.Core d (.expr (.unary "-" (.string "it's"))) :=
    .unary "-" Operator.signPower _ (.string _) (by decide) rfl (by decide)
  exact .range "NOT BETWEEN" _ _ _ hcolumn (.number 1 (by decide)) hminus (by decide)
    rfl rfl rfl rfl rfl

theorem outsideRange_fits : outsideRange.Fits 4 :=
  ⟨rfl, fun power hpower => by
    have hall : ∀ power < 4, outsideRange.yields power = true := by decide
    exact hall power hpower⟩

/-- What comes behind is not read, so that it may be faulty. -/
theorem core_expr_reads_back_range :
    ∃ u, ({ config := ⟨.mySql, .strict⟩ } : Renderer).expr outsideRange = .ok outsideRangeText ∧
      Returns ((readersFor (startState .mySql (outsideRangeText ++ " AND 'c"))).expr 4)
        ⟨outsideRangeText ++ " AND 'c", .mySql⟩ (startState .mySql (outsideRangeText ++ " AND 'c"))
          outsideRange u ∧
      u.current :: u.rest =
        [⟨.keyword .AND, ⟨34, 37⟩⟩, ⟨.fault .unterminatedString, ⟨38, 40⟩⟩, ⟨.eof, ⟨40, 40⟩⟩] := by
  have htokens : tokenize .mySql " AND 'c" =
      [⟨.keyword .AND, ⟨1, 4⟩⟩, ⟨.fault .unterminatedString, ⟨5, 7⟩⟩, ⟨.eof, ⟨7, 7⟩⟩] := by
    decide +kernel
  obtain ⟨text, u, htext, hu, hrest⟩ :=
    core_expr_reads_back (by decide) .strict (outsideRange_core .mySql)
    outsideRange_fits (by decide) htokens (by decide) (by rintro power ⟨⟩; decide)
  cases htext.symm.trans (show _ = Except.ok outsideRangeText from rfl)
  exact ⟨u, htext, hu, hrest.trans rfl⟩

end SqlWeave
