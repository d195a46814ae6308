import SqlWeave.Proofs.Spelling.SelectList

/-! Tables, joins and FROM. -/

namespace SqlWeave

open Token (Piece Lexes Quoting isApart)
open SqlWeave.Parser (Nested Reads nested next namedTable)
open Render (Result Item commas inParens clause)
open Text (enclose)

variable {r : Renderer} {opening closing : Char} {text : String} {ks rest : List Piece}
  {t : Table Expr}

/-! ## Names -/

/-- Names in parentheses. -/
theorem names_spelled (hr : r.Standard opening closing) {names : List String} (hne : names ≠ [])
    (h : ∀ name ∈ names, isName name = true) :
    ∃ ks, Lexes r.config.dialect.quoting (inParens (commas (r.idents names))) (.opening :: ks) ∧
      ∀ rest, Reads Parser.parenthesizedNames (.opening :: (ks ++ rest)) names rest := by
  have hidents : r.idents names = names.map (enclose opening closing) :=
    Renderer.idents_eq hr.delimiters fun name hname => by simpa [isName] using h name hname
  obtain ⟨x, xs, rfl⟩ := List.exists_cons_of_ne_nil hne
  obtain ⟨ks, hlegible⟩ : ∃ ks, Legible r.config.dialect.quoting (fun _ =>
      Parser.commaSeparated Parser.identifier)
      (Legible.endsList fun _ => true) (x :: xs)
        (commas ((x :: xs).map (enclose opening closing))) ks :=
    ⟨_, @Legible.commas _ r.config.dialect.quoting (fun _ => Parser.identifier) (fun _ => true) x xs
      (enclose opening closing) (fun name => [.quoted opening closing name])
      (fun name _ => ⟨.enclosed hr.delimiters name, fun _ _ _ _ => Parser.identifier_reads rfl⟩)
        rfl⟩
  refine ⟨ks ++ [.closing], ?_, fun rest => ?_⟩
  · rw [hidents]
    exact hlegible.lexes.inParens
  · rw [List.append_assoc]
    refine (Parser.expect_reads .leftParen "(").bind ?_
    refine (hlegible.reads _ (Nat.lt_succ_self _) _ rfl).bind ?_
    exact (Parser.expect_reads .rightParen ")").bind (.pure _)

theorem dottedName_reads (first : String) (names : List String) (hdot : next rest ≠ .symbol .dot) :
    Reads Parser.dottedName (.quoted opening closing first ::
      (pathPieces opening closing names ++ rest))
      (first :: names) rest :=
  @Parser.separated_reads _ _ (Parser.isAt .dot) _ Parser.identifier .dot
    (fun name => [.quoted opening closing name])
    first names (Parser.isAt_asks .dot) rfl (beq_eq_false_iff_ne.mpr hdot) fun _ _ _ _ =>
      Parser.identifier_reads rfl

theorem tableOf_reads (parts : List String) :
    Reads (Parser.tableOf parts) ks (namedTable parts) ks :=
  fun _ _ hs => ⟨_, Parser.returns_tableOf parts, hs⟩

theorem namedTable_plain (hname : t.table.isSome) (h : Qualified t.db t.schema t.table) :
    namedTable t.nameParts = { db := t.db, schema := t.schema, table := t.table } := by
  obtain ⟨db, schema, table, expr, aliasName, join, condition, usingColumns, addition, kind⟩ := t
  obtain ⟨-, hdb, -⟩ := h
  cases table with
  | none => cases hname
  | some table =>
    cases db with
    | none =>
      cases schema with
      | none => rfl
      | some schema => cases hdb rfl
    | some db =>
      cases schema with
      | none => rfl
      | some schema => rfl

/-! ## One table -/

/-- What a join starts with. -/
def joinStarts : List TokenKind :=
  [.identifier "NATURAL", .keyword .INNER, .keyword .CROSS, .keyword .LEFT, .keyword .RIGHT,
    .keyword .FULL, .keyword .JOIN]

/-- What the entries of a FROM list after the first one start with. -/
def laterStarts : List TokenKind := .symbol .comma :: joinStarts

/-- What ends an entry of a FROM list. -/
def endsTable : TokenKind → Bool := endsBefore laterStarts 1

/-- What ends a table before its condition. -/
def endsFactor : TokenKind → Bool := endsBefore (.keyword .ON :: .keyword .USING :: laterStarts) 1

theorem endsFactor_all {P : TokenKind → Bool}
    (hstarts : ∀ k ∈ .keyword .ON :: .keyword .USING :: laterStarts, P k = true)
    (hall : ∀ start ∈ clauseStarts, 1 < start.2 → P start.1 = true) {k : TokenKind}
    (h : endsFactor k = true) :
    P k = true :=
  endsBefore_all hstarts hall h

theorem endsFactor_of_endsTable {k : TokenKind} (h : endsTable k = true) : endsFactor k = true :=
  endsBefore_all (by decide) (by decide) h

theorem aliasSuffix_spelled (hr : r.Standard opening closing) {aliasName : Option String}
    (h : ∀ name ∈ aliasName, isName name = true) :
    ∃ ks, Lexes r.config.dialect.quoting (r.aliasSuffix aliasName) ks ∧
      isApart (r.aliasSuffix aliasName).toList = true ∧ ∀ rest, endsFactor (next rest) = true →
        next (ks ++ rest) ≠ .symbol .dot ∧ next (ks ++ rest) ≠ .symbol .leftParen ∧
        Reads Parser.alias? (ks ++ rest) aliasName rest := by
  cases aliasName with
  | none =>
    refine ⟨[], .empty, rfl, fun rest hrest =>
      ⟨?_, ?_, noAlias_reads (endsFactor_all (by decide) (by decide) hrest)⟩⟩
    · have hdot : (next rest != .symbol .dot) = true :=
        @endsFactor_all (· != .symbol .dot) (by decide) (by decide) _ hrest
      simpa using hdot
    · have hparen : (next rest != .symbol .leftParen) = true :=
        @endsFactor_all (· != .symbol .leftParen) (by decide) (by decide) _ hrest
      simpa using hparen
  | some name =>
    have hquoted := Lexes.enclosed hr.delimiters name
    have hident := @Renderer.ident_eq r opening closing hr.delimiters name
      (by simpa [isName] using h name rfl)
    rw [show r.aliasSuffix (some name) = _ ++ r.ident name from rfl, hident]
    split
    · refine ⟨[.word .AS] ++ [.quoted opening closing name], ?_, by rw [String.toList_append]; rfl,
        fun rest _ => ?_⟩
      · have hspaced := ((Lexes.keyword .AS).spaced hquoted).blank
        rw [String.append_assoc, ← String.append_assoc] at hspaced
        exact hspaced
      · exact ⟨(fun h => by cases h), (fun h => by cases h), aliasAfterWord_reads rfl⟩
    · refine ⟨[.quoted opening closing name], hquoted.blank, by rw [String.toList_append]; rfl,
        fun rest _ => ?_⟩
      refine ⟨(fun h => by cases h), (fun h => by cases h), ?_⟩
      exact .left (Parser.isAtKeyword_asks .AS) rfl (.look (.step (.pure _)))

/-- A table by itself, without what joins it to others. -/
def Table.factor (t : Table Expr) : Table Expr :=
  { t with join := none, condition := none, usingColumns := none }

/-- A table by itself is read back from what it is rendered to. -/
structure FactorSpelled (r : Renderer) (t : Table Expr) (text : String)
    (ks : List Piece) : Prop where
  rendered : r.table (t.map r.item) = .ok text
  nonempty : ks ≠ []
  legible : Legible r.config.dialect.quoting (fun i => i.tableFactor) endsFactor t.factor text ks

theorem namedFactor_spelled (hr : r.Standard opening closing) (ht : t.Plain) (hexpr : t.expr = none)
    (hname : t.table.isSome) (hqualified : Qualified t.db t.schema t.table) :
    ∃ text ks, FactorSpelled r t text ks := by
  obtain ⟨first, names, hparts⟩ := List.exists_cons_of_ne_nil (l := t.nameParts) (by
    obtain ⟨name, hname⟩ := Option.isSome_iff_exists.mp hname
    simp [Table.nameParts, hname])
  have hdotted : r.dottedName t.nameParts =
      ".".intercalate ((first :: names).map (enclose opening closing)) := by
    unfold Renderer.dottedName
    rw [Renderer.idents_eq hr.delimiters
      fun name hname => by simpa [isName] using hqualified.named name hname, hparts]
  obtain ⟨ka, hlexes, hapart, halias⟩ := aliasSuffix_spelled hr ht.aliasName
  have hrendered := @Renderer.table_named r (t.map r.item) ht.kind (by simp [Table.map, hexpr])
  refine ⟨_, (.quoted opening closing first :: pathPieces opening closing names) ++ ka,
    hrendered, by simp, ?_, ?_⟩
  · show Lexes _ (r.dottedName t.nameParts ++ r.aliasSuffix t.aliasName) _
    rw [hdotted]
    exact (Lexes.dotted hr.delimiters first names).append hlexes hapart
  · intro n _ rest hrest
    obtain ⟨hdot, hparen, hreads⟩ := halias rest hrest
    rw [List.append_assoc]
    refine .left (Parser.isAt_asks .leftParen) rfl (.left (Parser.isAtWord_asks "dual") rfl ?_)
    refine (dottedName_reads first names hdot).bind
      (.isFalse (Parser.isAt_asks .leftParen) (beq_eq_false_iff_ne.mpr hparen) ?_)
    refine (tableOf_reads (first :: names)).bind (hreads.bind ?_)
    rw [← hparts, namedTable_plain hname hqualified]
    obtain ⟨db, schema, table, expr, aliasName, join, condition, usingColumns, addition, kind⟩ := t
    obtain ⟨table, rfl⟩ := Option.isSome_iff_exists.mp hname
    obtain rfl : expr = none := hexpr
    obtain rfl : kind = none := ht.kind
    obtain rfl : addition = false := ht.addition
    cases aliasName with
    | none => exact .pureBind (.pure _)
    | some name => exact (Parser.addAlias_reads _ _).bind (.pure _)

/-- A query in the parentheses that its place asks for. -/
theorem Query.Spelled.bracketed {q : Query Expr} (h : q.Spelled r text ks) :
    Render.subquery (r.item (.query q)) = .ok (inParens text) := by
  have hrendered : r.expr (.query q) = .ok text := (r.expr_mk _).trans h.rendered
  show (if q.parens then r.expr (.query q) else do return inParens (← r.expr (.query q))) = _
  rw [h.parens, hrendered]
  rfl

theorem derivedFactor_spelled (hr : r.Standard opening closing) (ht : t.Plain) (hdb : t.db = none)
    (hschema : t.schema = none) (hname : t.table = none) {q : Query Expr}
    (hexpr : t.expr = some (.query q)) (hq : ∃ text ks, q.Spelled r text ks) :
    ∃ text ks, FactorSpelled r t text ks := by
  obtain ⟨text, ks, hq⟩ := hq
  obtain ⟨ka, hlexes, hapart, halias⟩ := aliasSuffix_spelled hr ht.aliasName
  have hrendered := @Renderer.table_derived r (t.map r.item) (r.item (.query q)) q ht.kind
    (by simp only [Table.map, hexpr]; rfl) rfl
  rw [hq.bracketed] at hrendered
  refine ⟨inParens text ++ r.aliasSuffix t.aliasName, (.opening :: (ks ++ [.closing])) ++ ka,
    hrendered, by simp, hq.legible.lexes.inParens.append hlexes hapart, ?_⟩
  intro n hn rest hrest
  obtain ⟨-, -, hreads⟩ := halias rest hrest
  simp only [List.length_append, List.length_cons] at hn
  simp only [List.cons_append, List.append_assoc, List.nil_append]
  refine .taken (Parser.isAt_asks .leftParen) rfl ?_
  refine (hq.parenthesizedQuery_reads (by omega) _).bind (hreads.bind ?_)
  obtain ⟨db, schema, table, expr, aliasName, join, condition, usingColumns, addition, kind⟩ := t
  obtain ⟨rfl, rfl, rfl, rfl⟩ : db = none ∧ schema = none ∧ table = none ∧ expr = some (.query q) :=
    ⟨hdb, hschema, hname, hexpr⟩
  obtain rfl : kind = none := ht.kind
  obtain rfl : addition = false := ht.addition
  exact .pure _

theorem factor_spelled (hr : r.Standard opening closing) (ht : t.Plain)
    (h : ∀ q, t.expr = some (.query q) → ∃ text ks, q.Spelled r text ks) :
    ∃ text ks, FactorSpelled r t text ks := by
  rcases ht.source with ⟨hexpr, hname, hqualified⟩ | ⟨hdb, hschema, hname, q, hexpr⟩
  · exact namedFactor_spelled hr ht hexpr hname hqualified
  · exact derivedFactor_spelled hr ht hdb hschema hname hexpr (h q hexpr)

end SqlWeave
