import SqlWeave.Proofs.Digits
import SqlWeave.Proofs.NamedTable
import SqlWeave.Proofs.Spelling.Operator

/-! Operands: names, literals, calls and what stands in parentheses. -/

namespace SqlWeave

open Token (Piece Lexes Quoting)
open SqlWeave.Parser (Nested Reads nested next)
open Render (Result Item commas sqls inParens)
open Text (enclose)

/-- A renderer that follows the standard rules and delimits names. -/
structure Renderer.Standard (r : Renderer) (opening closing : Char) : Prop where
  registry : r.registry = .standard
  delimiters : r.config.dialect.identifierQuote.delimiters = some (opening, closing)

/-- The expression is written as the text, and read from its pieces. -/
structure Spelled (r : Renderer) (e : Expr) (text : String) (ks : List Piece) : Prop where
  rendered : r.expr e = .ok text
  lexes : Lexes r.config.dialect.quoting text ks
  opens : opensExpr (next ks) = true
  /-- What a sign in front of the text could be confused by. -/
  first : ∃ c cs, text.toList = c :: cs ∧ c ≠ '=' ∧ (c = '-' → e.leading? = some "-")
  negates : next ks = .keyword .NOT → e.leading? = some "NOT"
  continues : Continues e ks

/-- Where a WITH clause comes first, it can be read ahead of the SELECT behind it. -/
def ReadsAhead (ks : List Piece) : Prop :=
  ∀ n, ks.length < n → next ks = .keyword .WITH → ∀ rest, ∃ withs more,
    next more = .keyword .SELECT ∧ Reads (nested n).withClause (ks ++ rest) withs more

/-- The query is written as the text, and read from its pieces where nothing more of it can
follow. -/
structure Query.Spelled (r : Renderer) (q : Query Expr) (text : String)
    (ks : List Piece) : Prop where
  rendered : r.query (q.map r.item) = .ok text
  parens : q.parens = false
  opens : (next ks == .keyword .SELECT || next ks == .keyword .WITH) = true
  ahead : ReadsAhead ks
  legible : Legible r.config.dialect.quoting (fun i => i.query)
    (fun k => k == .symbol .rightParen || k == .symbol .semicolon || k == .eof) q text ks

variable {r : Renderer} {e : Expr} {text : String} {ks : List Piece}

theorem ne_nil_of_opens (h : opensExpr (next ks) = true) : ks ≠ [] := by
  rintro rfl
  cases h

theorem Spelled.legible (h : Spelled r e text ks) :
    Legible r.config.dialect.quoting (fun i => i.expr 0) endsExpr e text ks :=
  h.continues.legible h.lexes

/-! ## Rendering nodes -/

namespace Renderer

theorem expr_mk (r : Renderer) (n : Node Expr) : r.expr (.mk n) = r.node (n.map r.item) := by
  unfold expr rendered
  rw [Expr.fold_mk]
  rfl

theorem members_mk (r : Renderer) (n : Node Expr) :
    (r.rendered (.mk n)).members = members (n.map r.item) := by
  unfold rendered
  rw [Expr.fold_mk]
  rfl

theorem node_column (hr : r.registry = .standard) (c : ColumnRef Item) :
    r.node (.column c) = Render.standardColumnRef r.config c := by
  cases r
  cases hr
  rfl

theorem sqls_ok {es : List Expr} {text : Expr → String} (h : ∀ e ∈ es, r.expr e = .ok (text e)) :
    sqls (es.map r.item) = .ok (es.map text) := by
  unfold sqls
  rw [List.mapM_map]
  exact mapM_ok h

/-- A list stands for its members between the parentheses of a call. -/
theorem callArgs_ok {es : List Expr} {text : Expr → String}
    (h : ∀ e ∈ es, r.expr e = .ok (text e)) :
    Render.callArgs (r.item (.list es)) = .ok (commas (es.map text)) := by
  have hmembers : (r.item (.list es)).2.members = .ok (es.map text) := by
    refine (r.members_mk _).trans ?_
    exact sqls_ok h
  unfold Render.callArgs
  show (do return commas (← (r.item (.list es)).2.members)) = _
  rw [hmembers]
  rfl

end Renderer

/-! ## Literals -/

theorem opensExpr_not_leading {k : TokenKind} (h : Operator.leading? k = none) {i : Nested}
    {rest : List Piece} (hk : next ks = k) (hp : Reads i.readPrimary ks e rest) :
    Reads i.readOperand ks e rest := by
  refine .look ?_
  rw [hk, h]
  exact hp

/-- An operand of one piece. -/
theorem Spelled.literal {k : Piece} {n : Node Expr} (hrendered : r.expr (.mk n) = .ok text)
    (hlexes : Lexes r.config.dialect.quoting text [k]) (hopens : opensExpr k.kind = true)
    (hleading : Operator.leading? k.kind = none)
    (hfirst : ∃ c cs, text.toList = c :: cs ∧ c ≠ '=' ∧ c ≠ '-')
    (hreads : ∀ (i : Nested) rest, Reads i.readPrimary (k :: rest) (.mk n) rest) :
    Spelled r (.mk n) text [k] where
  rendered := hrendered
  lexes := hlexes
  opens := hopens
  first := by
    obtain ⟨c, cs, hcs, heq, hdash⟩ := hfirst
    exact ⟨c, cs, hcs, heq, fun h => absurd h hdash⟩
  negates := fun h => by
    rw [show k.kind = _ from h] at hleading
    cases hleading
  continues := .operand fun n _ rest _ =>
    opensExpr_not_leading hleading rfl (hreads (nested n) rest)

theorem Spelled.string (value : String) : Spelled r (.string value) (Render.quoteString value)
    [⟨.string value, enclose '\'' '\'' value⟩] := by
  refine .literal (r.expr_mk _) (.string value) rfl rfl
    ⟨'\'', _, by rw [Render.quoteString, enclose, String.toList_ofList], by decide, by decide⟩ ?_
  exact fun i rest => .look (.step (.pure _))

theorem Spelled.null : Spelled r .null "NULL" [.word .NULL] :=
  .literal (r.expr_mk _) (.keyword .NULL) rfl rfl ⟨'N', _, rfl, by decide, by decide⟩
    fun _ _ => .look (.step (.pure _))

theorem Spelled.bool (value : Bool) :
    ∃ text ks, Spelled r (.bool value) text ks := by
  cases value with
  | true =>
    exact ⟨"TRUE", _, .literal (r.expr_mk _) (.keyword .TRUE) rfl rfl
      ⟨'T', _, rfl, by decide, by decide⟩
      fun _ _ => .look (.step (.pure _))⟩
  | false =>
    exact ⟨"FALSE", _, .literal (r.expr_mk _) (.keyword .FALSE) rfl rfl
      ⟨'F', _, rfl, by decide, by decide⟩
      fun _ _ => .look (.step (.pure _))⟩

section Numbers

open Decimal (isDigits isDigits_toString word64?_toString)

/-- Digits are read back as the literal that they stand for, if that is written with these
digits. -/
theorem Spelled.digits {n : Node Expr} (hdigits : isDigits text.toList = true)
    (hliteral : Parser.numberLiteral text = .mk n) (hrendered : r.expr (.mk n) = .ok text) :
    Spelled r (.mk n) text [⟨.number text, text⟩] := by
  refine .literal hrendered (.digits hdigits) rfl rfl ?_ ?_
  · cases htext : text.toList with
    | nil =>
      rw [htext] at hdigits
      cases hdigits
    | cons c cs =>
      have hc : c.isDigit = true := by
        rw [htext] at hdigits
        simp only [isDigits, List.all_cons, Bool.and_eq_true] at hdigits
        exact hdigits.2.1
      refine ⟨c, cs, rfl, ?_, ?_⟩
      · rintro rfl
        cases hc
      · rintro rfl
        cases hc
  · intro i rest
    refine .look (.step ?_)
    rw [hliteral]
    exact .pure _

theorem Spelled.number {n : Nat} (h : n < Nat.pow 2 64) :
    Spelled r (.number (.int n)) (toString n) [⟨.number (toString n), toString n⟩] := by
  have hliteral : Parser.numberLiteral (toString n) = .number (.int n) := by
    unfold Parser.numberLiteral
    rw [word64?_toString h]
  exact .digits (isDigits_toString n) hliteral (r.expr_mk _)

end Numbers

/-! ## Columns -/

section Columns

variable {opening closing : Char}

/-- Points and names, as a path has them behind its first name. -/
def pathPieces (opening closing : Char) (names : List String) : List Piece :=
  names.flatMap fun name => [.dot, .quoted opening closing name]

theorem pathTail_reads {names : List String} {rest : List Piece} (hdot : next rest ≠ .symbol .dot)
    {n : Nat} (hn : names.length < n) :
    Reads (Parser.pathTail n) (pathPieces opening closing names ++ rest) (names, false) rest := by
  induction names generalizing n with
  | nil =>
    obtain ⟨n, rfl⟩ : ∃ m, n = m + 1 := ⟨n - 1, by omega⟩
    exact .left (Parser.isAt_asks .dot) (beq_eq_false_iff_ne.mpr hdot) (.pure _)
  | cons name names ih =>
    obtain ⟨n, rfl⟩ : ∃ m, n = m + 1 := ⟨n - 1, by omega⟩
    rw [List.length_cons] at hn
    refine .taken (Parser.isAt_asks .dot) rfl (.left (Parser.isAt_asks .star) rfl ?_)
    exact (Parser.identifier_reads rfl).bind ((ih (by omega)).bind (.pure _))

/-- The column that a path names. -/
def namedColumn (parts : List String) : Expr :=
  let outer := parts.dropLast.reverse
  .mk (.column {
    db := (Parser.qualify outer.tail).1
    schema := (Parser.qualify outer.tail).2
    table := outer.head?
    column := .ofText (parts.getLast?.getD "*") })

theorem columnOf_reads (parts : List String) :
    Reads (Parser.columnOf parts.dropLast parts.getLast?) ks (namedColumn parts) ks := by
  unfold Parser.columnOf namedColumn
  cases parts.dropLast.reverse with
  | nil => exact (Parser.addColumn_reads _ _).bind (.pure _)
  | cons table outer => exact (Parser.addColumn_reads _ _).bind (.pure _)

theorem nameExpr_reads {i : Nested} (name : String) (names : List String) {rest : List Piece}
    (hdot : next rest ≠ .symbol .dot) (hparen : next rest ≠ .symbol .leftParen) :
    Reads i.nameExpr (.quoted opening closing name :: (pathPieces opening closing names ++ rest))
      (namedColumn (name :: names)) rest := by
  have hlength : names.length < (pathPieces opening closing names ++ rest).length + 1 := by
    have hle : names.length ≤ (pathPieces opening closing names).length :=
      Parser.length_le_flatMap .dot (fun name => [.quoted opening closing name]) names
    rw [List.length_append]
    omega
  refine .look ((Parser.identifier_reads rfl).bind ?_)
  refine .rounds ((pathTail_reads hdot hlength).bind ?_)
  refine .test (Parser.isAt_asks .leftParen) ?_
  rw [beq_eq_false_iff_ne.mpr hparen, Bool.and_false]
  exact columnOf_reads _

theorem namedColumn_plain {c : ColumnRef Expr} (hc : c.Plain) {name : String}
    (hname : c.column = .name name) (hstar : isName name = true) :
    namedColumn (c.qualifiers ++ [name]) = .mk (.column c) := by
  obtain ⟨db, schema, table, column, collate, parens⟩ := c
  obtain ⟨⟨htable, hdb, -⟩, -, hcollate, hparens⟩ := hc
  simp only at hname hcollate hparens htable hdb
  subst hname hcollate hparens
  have hcolumn : (ColumnName.ofText name : ColumnName Expr) = .name name := by
    rw [ColumnName.ofText, if_neg (by simpa [isName] using hstar)]
  unfold namedColumn ColumnRef.qualifiers
  cases table with
  | none =>
    cases db with
    | some db => cases htable rfl
    | none =>
      cases schema with
      | some schema => cases hdb rfl
      | none => simp [hcolumn, Parser.qualify]
  | some table =>
    cases db with
    | none =>
      cases schema with
      | some schema => cases hdb rfl
      | none => simp [hcolumn, Parser.qualify]
    | some db =>
      cases schema with
      | none => simp [hcolumn, Parser.qualify]
      | some schema => simp [hcolumn, Parser.qualify]

theorem delimiter_sign {d : Dialect} (hd : d.identifierQuote.delimiters = some (opening, closing)) :
    opening ≠ '=' ∧ opening ≠ '-' := by
  cases hquote : d.identifierQuote with
  | bare => simp [hquote, IdentifierQuote.delimiters] at hd
  | backtick | doubleQuote | bracket =>
    simp only [hquote, IdentifierQuote.delimiters, Option.some.injEq, Prod.mk.injEq] at hd
    rw [← hd.1]
    decide

theorem Spelled.column (hr : r.Standard opening closing) {c : ColumnRef Expr} (hc : c.Plain) :
    ∃ text ks, Spelled r (.mk (.column c)) text ks := by
  obtain ⟨name, hname, hstar⟩ := hc.named
  obtain ⟨first, names, hparts⟩ :=
    List.exists_cons_of_ne_nil (l := c.qualifiers ++ [name]) (by simp)
  have hcolumn : .mk (.column c) = namedColumn (first :: names) := by
    rw [← hparts, namedColumn_plain hc hname hstar]
  have hnames : ∀ n ∈ first :: names, isName n = true := by
    rw [← hparts]
    intro n hn
    rcases List.mem_append.mp hn with hn | hn
    · exact hc.qualified.named n hn
    · rw [List.mem_singleton.mp hn]
      exact hstar
  have hquoted : (first :: names).map r.config.dialect.quoteIdentifier =
      (first :: names).map (enclose opening closing) :=
    Renderer.idents_eq hr.delimiters fun n hn => by simpa [isName] using hnames n hn
  refine ⟨".".intercalate ((first :: names).map (enclose opening closing)), _, ?_,
    .dotted hr.delimiters first names, rfl, ?_, ?_, ?_⟩
  · have hqualifiers : (c.map r.item).qualifiers = c.qualifiers := rfl
    have hrendered : Render.standardColumnRef r.config (c.map r.item) =
        .ok (".".intercalate ((c.qualifiers ++ [name]).map r.config.dialect.quoteIdentifier)) := by
      unfold Render.standardColumnRef
      simp only [ColumnRef.map, hname, hc.collate, hc.parens, ColumnName.map, Render.columnName,
        List.map_append, List.map_cons, List.map_nil]
      show Except.ok (".".intercalate _ ++ "") = _
      rw [String.append_empty]
      rfl
    rw [r.expr_mk]
    exact ((Renderer.node_column hr.registry _).trans hrendered).trans (by rw [hparts, hquoted])
  · obtain ⟨cs, hcs⟩ := Token.dotted_first opening closing first names
    obtain ⟨heq, hdash⟩ := delimiter_sign hr.delimiters
    exact ⟨opening, cs, hcs, heq, fun h => absurd h hdash⟩
  · exact fun h => by cases h
  · refine .operand fun n _ rest hrest => ?_
    simp only [Expr.leaves, endsOperand, Bool.and_eq_true, Bool.not_eq_true', Bool.or_eq_false_iff,
      beq_eq_false_iff_ne] at hrest
    refine opensExpr_not_leading rfl rfl (.look ?_)
    rw [hcolumn]
    exact nameExpr_reads first names hrest.1.1.1.2 hrest.1.1.2

end Columns

/-! ## What stands in parentheses -/

/-- Expressions with commas between them. -/
theorem Spelled.list {es : List Expr} (hne : es ≠ [])
    (h : ∀ e ∈ es, ∃ text ks, Spelled r e text ks) :
    ∃ (text : Expr → String) (ks : List Piece), (∀ e ∈ es, r.expr e = .ok (text e)) ∧
      opensExpr (next ks) = true ∧
      Legible r.config.dialect.quoting Nested.exprs (Legible.endsList endsExpr) es
        (commas (es.map text)) ks := by
  obtain ⟨text, spelling, hspelled⟩ := exists_spellings h
  obtain ⟨x, xs, rfl⟩ := List.exists_cons_of_ne_nil hne
  have hopens := (hspelled x List.mem_cons_self).opens
  refine ⟨text, _, fun e he => (hspelled e he).rendered, ?_,
    .commas (fun e he => (hspelled e he).legible) rfl⟩
  rwa [Parser.next_append (ne_nil_of_opens hopens)]

theorem opensExpr_not_query {k : TokenKind} (h : opensExpr k = true) :
    (k == .keyword .SELECT || k == .keyword .WITH) = false := by
  cases k with
  | keyword word => cases word <;> first | rfl | cases h
  | _ => rfl

/-- One expression in parentheses, or several. -/
theorem parenthesizedExpr_reads {x : Expr} {xs : List Expr} {text : Expr → String}
    {spelling : Expr → List Piece} (h : ∀ y ∈ x :: xs, Spelled r y (text y) (spelling y)) {n : Nat}
    (hn : (spelling x ++ xs.flatMap fun y => .comma :: spelling y).length < n) (rest : List Piece) :
    Reads (nested n).parenthesizedExpr ((spelling x ++ xs.flatMap fun y => .comma :: spelling y) ++
      .closing :: rest)
      (if xs.isEmpty then x.parenthesized else .tuple (x :: xs)) rest := by
  have hx := h x List.mem_cons_self
  rw [List.length_append] at hn
  have hitem (y : Expr) (hy : y ∈ x :: xs) (more : List Piece)
      (hmore : next more = Piece.comma.kind ∨ next more = next (.closing :: rest)) :
      Reads ((nested n).expr 0) (spelling y ++ more) y more := by
    refine (h y hy).legible.reads n ?_ more ?_
    · rcases List.mem_cons.mp hy with rfl | hmem
      · omega
      · have hsub : (spelling y).length < (xs.flatMap fun y => Piece.comma :: spelling y).length :=
          Parser.length_lt_flatMap hmem
        omega
    · rcases hmore with hmore | hmore
      · rw [hmore]
        rfl
      · rw [hmore]
        rfl
  have hmore : Reads (Parser.many (Parser.eat .comma) ((nested n).expr 0))
      (xs.flatMap (fun y => .comma :: spelling y) ++ .closing :: rest) xs (.closing :: rest) :=
    Parser.many_reads (Parser.isAt_asks .comma) rfl rfl fun y hy =>
      hitem y (List.mem_cons_of_mem _ hy)
  have hfirst := hitem x List.mem_cons_self (xs.flatMap (fun y => .comma :: spelling y) ++
    .closing :: rest) (by
    cases xs with
    | nil => exact .inr rfl
    | cons y ys => exact .inl rfl)
  rw [List.append_assoc]
  refine .isFalse Parser.isAtQuery_asks ?_
    (hfirst.bind (hmore.bind ((Parser.expect_reads .rightParen ")").bind ?_)))
  · rw [Parser.next_append (ne_nil_of_opens hx.opens)]
    exact opensExpr_not_query hx.opens
  · split
    · exact .pure _
    · exact .pure _

/-- An operand that is read after an opening parenthesis. -/
theorem Spelled.enclosed (hrendered : r.expr e = .ok (inParens text))
    (hlexes : Lexes r.config.dialect.quoting text ks)
    (hreads : ∀ n, ks.length < n →
    ∀ rest, Reads (nested n).parenthesizedExpr (ks ++ .closing :: rest) e rest) :
    Spelled r e (inParens text) (.opening :: (ks ++ [.closing])) where
  rendered := hrendered
  lexes := hlexes.inParens
  opens := rfl
  first := ⟨'(', (text ++ ")").toList, by simp [inParens], by decide, fun h => by cases h⟩
  negates := fun h => by cases h
  continues := .operand fun n hn rest _ => by
    rw [List.length_cons] at hn
    refine opensExpr_not_leading rfl rfl (.look (.step ?_))
    rw [List.append_eq, List.append_assoc]
    rw [List.length_append] at hn
    exact hreads n (by omega) rest

theorem tuple_rendered {items : List Expr} {text : Expr → String}
    (h : ∀ e ∈ items, r.expr e = .ok (text e)) :
    r.expr (.tuple items) = .ok (inParens (commas (items.map text))) := by
  rw [Expr.tuple, r.expr_mk]
  show (do return Text.parenthesize true ((none.getD ", ").intercalate
      (← sqls (items.map r.item)))) = _
  rw [Renderer.sqls_ok h]
  rfl

theorem Spelled.tuple {items : List Expr} (hlength : 2 ≤ items.length)
    (h : ∀ e ∈ items, ∃ text ks, Spelled r e text ks) :
    ∃ text ks, Spelled r (.tuple items) text ks := by
  obtain ⟨text, spelling, hspelled⟩ := exists_spellings h
  obtain ⟨x, y, xs, rfl⟩ : ∃ x y xs, items = x :: y :: xs := by
    cases items with
    | nil => simp at hlength
    | cons x xs =>
      cases xs with
      | nil => simp at hlength
      | cons y xs => exact ⟨x, y, xs, rfl⟩
  refine ⟨_, _, .enclosed (tuple_rendered fun e he => (hspelled e he).rendered)
    (.commas fun e he => (hspelled e he).lexes) fun n hn rest => ?_⟩
  exact parenthesizedExpr_reads hspelled hn rest

/-- Parentheses around a result that had none. -/
theorem parenthesize_ok {result : Result String} {f : String → String}
    (h : (do return Text.parenthesize false (f (← result))) = Except.ok text) :
    (do return Text.parenthesize true (f (← result))) = Except.ok (inParens text) := by
  cases result with
  | error => cases h
  | ok inner =>
    cases h
    rfl

theorem expr_parenthesized (hr : r.registry = .standard) (h : r.expr e = .ok text)
    (hbare : e.isBare = true) :
    r.expr e.parenthesized = .ok (inParens text) := by
  obtain ⟨n⟩ := e
  rw [r.expr_mk] at h
  cases n with
  | column c =>
    obtain ⟨db, schema, table, column, collate, parens⟩ := c
    obtain rfl : parens = false := by simpa [Expr.isBare, Expr.node] using hbare
    have hcolumn : Render.standardColumnRef r.config
        (ColumnRef.map r.item ⟨db, schema, table, column, collate, false⟩) =
        .ok text := (Renderer.node_column hr _).symm.trans h
    refine (r.expr_mk _).trans ((Renderer.node_column hr
      (ColumnRef.map r.item ⟨db, schema, table, column, collate, true⟩)).trans ?_)
    exact parenthesize_ok hcolumn
  | binary operator left right parens =>
    obtain rfl : parens = false := by simpa [Expr.isBare, Expr.node] using hbare
    exact (r.expr_mk _).trans (@parenthesize_ok text _ id h)
  | unary operator operand parens =>
    obtain rfl : parens = false := by simpa [Expr.isBare, Expr.node] using hbare
    exact (r.expr_mk _).trans (@parenthesize_ok text _ id h)
  | call name args w suffix parens =>
    obtain rfl : parens = false := by simpa [Expr.isBare, Expr.node] using hbare
    exact (r.expr_mk _).trans (@parenthesize_ok text _ id h)
  | case subject arms parens =>
    obtain rfl : parens = false := by simpa [Expr.isBare, Expr.node] using hbare
    exact (r.expr_mk _).trans (@parenthesize_ok text _ id h)
  | number value parens =>
    obtain rfl : parens = false := by simpa [Expr.isBare, Expr.node] using hbare
    cases h
    exact r.expr_mk _
  | text kind value parens =>
    obtain rfl : parens = false := by simpa [Expr.isBare, Expr.node] using hbare
    cases h
    exact r.expr_mk _
  | bool value parens =>
    obtain rfl : parens = false := by simpa [Expr.isBare, Expr.node] using hbare
    cases h
    exact r.expr_mk _
  | _ => cases hbare

theorem Spelled.parenthesized (hr : r.registry = .standard) (h : Spelled r e text ks)
    (hbare : e.isBare = true) :
    Spelled r e.parenthesized (inParens text) (.opening :: (ks ++ [.closing])) := by
  refine .enclosed (expr_parenthesized hr h.rendered hbare) h.lexes fun n hn rest => ?_
  have hreads := @parenthesizedExpr_reads r e [] (fun _ => text) (fun _ => ks) (by simpa using h) n
    (by simpa using hn) rest
  simpa using hreads

/-! ## Subqueries -/

namespace Query.Spelled

variable {q : Query Expr}

theorem parenthesizedQuery_reads (h : q.Spelled r text ks) {n : Nat} (hn : ks.length < n)
    (rest : List Piece) :
    Reads (nested n).parenthesizedQuery (ks ++ .closing :: rest) q rest :=
  (h.legible.reads n hn _ rfl).bind ((Parser.expect_reads .rightParen ")").bind (.pure _))

theorem query_parenthesized (h : q.Spelled r text ks) :
    r.query (q.parenthesized.map r.item) = .ok (inParens text) := by
  have hrendered := h.rendered
  unfold Renderer.query at hrendered ⊢
  rw [show (q.map r.item).parens = false from h.parens] at hrendered
  show (do
    let head ← r.select (q.head.map r.item)
    let rest ← r.chain q.head.setOperator (q.rest.map (Select.map r.item))
    return Text.parenthesize true (head ++ rest)) = _
  cases hhead : r.select (q.head.map r.item) with
  | error err =>
    rw [show r.select (q.map r.item).head = _ from hhead] at hrendered
    cases hrendered
  | ok head =>
    rw [show r.select (q.map r.item).head = _ from hhead] at hrendered
    exact parenthesize_ok hrendered

theorem opens_append (h : q.Spelled r text ks) (rest : List Piece) :
    (next (ks ++ rest) == .keyword .SELECT || next (ks ++ rest) == .keyword .WITH) = true := by
  rw [Parser.next_append]
  · exact h.opens
  · rintro rfl
    cases h.opens

theorem subquery (h : q.Spelled r text ks) :
    SqlWeave.Spelled r (.query q.parenthesized) (inParens text)
      (.opening :: (ks ++ [.closing])) := by
  refine .enclosed ((r.expr_mk _).trans h.query_parenthesized) h.legible.lexes fun n hn rest => ?_
  exact .isTrue Parser.isAtQuery_asks (h.opens_append _)
    ((h.parenthesizedQuery_reads hn rest).bind (.pure _))

end Query.Spelled

end SqlWeave
