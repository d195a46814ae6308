import SqlWeave.Proofs.Spelling.Clause
import SqlWeave.Proofs.Token.Words

/-! Names with an alias, and select lists. -/

namespace SqlWeave

open Token (Piece Lexes Quoting)
open SqlWeave.Parser (Nested Reads nested next)
open Render (Result Item commas)
open Text (enclose)

variable {r : Renderer} {opening closing : Char} {text : String} {ks rest : List Piece}

/-! ## Aliases -/

/-- Whether no alias starts with a token. -/
def endsAliased : TokenKind → Bool
  | .keyword .AS | .quotedIdentifier _ | .doubleQuoted _ => false
  | .identifier name => !Parser.isImplicitAlias name
  | _ => true

theorem noAlias_reads (h : endsAliased (next rest) = true) :
    Reads Parser.alias? rest none rest := by
  refine .left (Parser.isAtKeyword_asks .AS) (beq_eq_false_iff_ne.mpr fun hword => ?_) (.look ?_)
  · rw [show next rest = _ from hword] at h
    cases h
  · split
    · rename_i hname
      rw [hname] at h
      simp only [endsAliased, Bool.not_eq_true'] at h
      simp only [h, Bool.false_eq_true, if_false]
      exact .pure _
    · rename_i hname
      rw [hname] at h
      cases h
    · rename_i hname
      rw [hname] at h
      cases h
    · exact .pure _

theorem aliasAfterWord_reads {k : Piece} {name : String} (h : Parser.name? k = some name) :
    Reads Parser.alias? (.word .AS :: k :: rest) (some name) rest := by
  refine .taken (Parser.isAtKeyword_asks .AS) rfl (.look ?_)
  rw [Parser.next_cons]
  have hname : Reads (do return some (← Parser.identifier)) (k :: rest) (some name) rest :=
    (Parser.identifier_reads h).map
  unfold Parser.name? at h
  split
  · rename_i hk
    simp only [hk] at h
    cases h
  · rename_i hk
    simp only [hk] at h
    cases h
  · exact hname

theorem isWord_of_isPlainAlias {name : String} (h : Render.isPlainAlias name = true) :
    Token.isWord name = true := by
  unfold Render.isPlainAlias at h
  unfold Token.isWord
  cases hname : name.toList with
  | nil => simp [hname] at h
  | cons c cs =>
    simp only [hname, Bool.and_eq_true, List.all_eq_true, Render.isAsciiWordStart,
      Render.isAsciiWordChar, Char.isAlphanum, Bool.or_eq_true] at h
    simp only [Bool.and_eq_true, List.all_eq_true, Token.isNameStart, Token.isNameChar,
      Text.isAlphanumeric, Bool.or_eq_true]
    refine ⟨h.1.imp_left isAlphabetic_of_isAlpha, fun d hd => .inl ?_⟩
    rcases h.2 d hd with (halpha | hdigit) | hunderscore
    · exact .inl (.inl (isAlphabetic_of_isAlpha halpha))
    · exact .inl (.inr (isNumeric_of_isDigit hdigit))
    · exact .inr hunderscore

/-- A word that may be an alias is read as one. -/
theorem name?_ofWord {name : String} (h : IsAlias name) :
    Parser.name? (.ofWord name) = some name := by
  unfold Parser.name? Piece.ofWord Token.wordKind
  cases hlookup : Keyword.lookup? name with
  | none => rfl
  | some word =>
    have hunreserved := h.unreserved word hlookup
    simp only [hunreserved, if_true]

theorem aliasText_spelled (hr : r.Standard opening closing) {name : String} (h : IsAlias name) :
    ∃ k, Lexes r.config.dialect.quoting (r.aliasText name) [k] ∧ Parser.name? k = some name := by
  unfold Renderer.aliasText
  split
  · rename_i hplain
    exact ⟨.ofWord name, .word (isWord_of_isPlainAlias hplain), name?_ofWord h⟩
  · rw [Renderer.ident_eq hr.delimiters (by simpa [isName] using h.named)]
    exact ⟨.quoted opening closing name, .enclosed hr.delimiters name, rfl⟩

/-! ## Select lists -/

/-- What ends an entry of a select list. -/
def endsColumn : TokenKind → Bool := endsBefore [.symbol .comma] 0

/-- An entry of a select list with its alias. -/
def Renderer.aliased (r : Renderer) (sql : String) : Option String → String
  | some name => sql ++ " AS " ++ r.aliasText name
  | none => sql

/-- Where the tables are real ones, every entry is written as its expression is. -/
theorem Renderer.column_false (c : Column Item) :
    r.column false c = (do return r.aliased (← c.expr.sql) c.aliasName) := by
  unfold Renderer.column
  cases c.aliasName with
  | none => cases c.expr.1.node <;> rfl
  | some name => cases c.expr.1.node <;> rfl

/-- An entry of a select list is read back from what it is rendered to. -/
structure ColumnSpelled (r : Renderer) (c : Column Expr) (text : String)
    (ks : List Piece) : Prop where
  rendered : r.column false (c.map r.item) = .ok text
  opens : opensExpr (next ks) = true
  legible : Legible r.config.dialect.quoting (fun i => i.column) endsColumn c text ks

theorem column_spelled (hr : r.Standard opening closing) {c : Column Expr}
    (halias : ∀ name ∈ c.aliasName, IsAlias name) (h : ∃ text ks, Spelled r c.expr text ks) :
    ∃ text ks, ColumnSpelled r c text ks := by
  obtain ⟨text, ks, he⟩ := h
  obtain ⟨e, aliasName⟩ := c
  have hrendered :
      r.column false (Column.map r.item ⟨e, aliasName⟩) = .ok (r.aliased text aliasName) := by
    rw [Renderer.column_false]
    show (do return r.aliased (← r.expr e) aliasName) = _
    rw [he.rendered]
    rfl
  have hne := ne_nil_of_opens he.opens
  cases aliasName with
  | none =>
    refine ⟨text, ks, hrendered, he.opens, he.lexes, fun n hn rest hrest => ?_⟩
    have hexpr := he.legible.reads n hn rest (endsBefore_all (by decide) (by decide) hrest)
    exact hexpr.bind ((noAlias_reads (endsBefore_all (by decide) (by decide) hrest)).bind (.pure _))
  | some name =>
    obtain ⟨k, hlexes, hname⟩ := aliasText_spelled hr (halias name rfl)
    refine ⟨text ++ " AS " ++ r.aliasText name, ks ++ [.word .AS] ++ [k], hrendered, ?_, ?_,
      fun n hn rest hrest => ?_⟩
    · rw [List.append_assoc, Parser.next_append hne]
      exact he.opens
    · rw [show text ++ " AS " ++ r.aliasText name = text ++ " " ++ "AS" ++ " " ++
        r.aliasText name by
        simp only [String.append_assoc]; rfl]
      exact (he.lexes.spaced (.keyword .AS)).spaced hlexes
    · simp only [List.length_append] at hn
      simp only [List.append_assoc, List.cons_append, List.nil_append]
      have hexpr := he.legible.reads n (by omega) (.word .AS :: k :: rest) rfl
      exact hexpr.bind ((aliasAfterWord_reads hname).bind (.pure _))

/-- Whether a select list can start with a token. -/
def opensList (k : TokenKind) : Bool := k == .symbol .star || opensExpr k

theorem selectList_spelled (hr : r.Standard opening closing) {cs : Columns Expr}
    {tables : Option (List (Table Item))}
    (hdual : (tables.bind List.head?).any Table.isDual = false)
    (hcs : ∀ items, cs = .list items → items ≠ [] ∧ ∀ c ∈ items, ∀ name ∈ c.aliasName, IsAlias name)
    (h : ∀ items, cs = .list items → ∀ c ∈ items, ∃ text ks, Spelled r c.expr text ks) :
    ∃ text ks, r.selectList (cs.map r.item) tables = .ok text ∧ opensList (next ks) = true ∧
      Legible r.config.dialect.quoting (fun i => i.columns) (fun k => decide (0 < clauseRank k))
        cs text ks := by
  cases cs with
  | all =>
    refine ⟨"*", [.star], rfl, rfl, .sign (by decide), fun n _ rest hrest => ?_⟩
    have hcomma : (next rest == .symbol .comma) = false :=
      clauseStart_none (· == .symbol .comma) (by decide) (of_decide_eq_true hrest)
    refine .taken (Parser.isAt_asks .star) rfl ((Parser.addColumn_reads _ _).bind ?_)
    exact .left (Parser.isAt_asks .comma) hcomma (.pure _)
  | list items =>
    obtain ⟨hne, halias⟩ := hcs items rfl
    obtain ⟨text, spelling, hspelled⟩ :=
      exists_spellings fun c hc => column_spelled hr (halias c hc) (h items rfl c hc)
    obtain ⟨x, xs, rfl⟩ := List.exists_cons_of_ne_nil hne
    have hlegible := Legible.commas (fun c hc => (hspelled c hc).legible) rfl
    have hopens := (hspelled x List.mem_cons_self).opens
    have hnext (more : List Piece) : opensExpr (next (spelling x ++ more)) = true := by
      rw [Parser.next_append (ne_nil_of_opens hopens)]
      exact hopens
    refine ⟨commas ((x :: xs).map text), _, ?_, ?_, hlegible.lexes, fun n hn rest hrest => ?_⟩
    · have hrendered : ((x :: xs).map (Column.map r.item)).mapM (r.column false) =
          .ok ((x :: xs).map text) := by
        rw [List.mapM_map]
        exact mapM_ok fun c hc => (hspelled c hc).rendered
      show (do return commas (← ((x :: xs).map (Column.map r.item)).mapM
        (r.column ((tables.bind List.head?).any Table.isDual)))) = _
      rw [hdual, hrendered]
      rfl
    · exact Bool.or_eq_true_iff.mpr (.inr (hnext _))
    · have hends : Legible.endsList endsColumn (next rest) = true :=
        clauseStart_all (by decide) (of_decide_eq_true hrest)
      refine .left (Parser.isAt_asks .star) ?_ ((hlegible.reads n hn rest hends).bind (.pure _))
      rw [List.append_assoc]
      refine beq_eq_false_iff_ne.mpr fun hstar => ?_
      have hfirst := hnext ((xs.flatMap fun y => .comma :: spelling y) ++ rest)
      rw [show next _ = _ from hstar] at hfirst
      cases hfirst

end SqlWeave
