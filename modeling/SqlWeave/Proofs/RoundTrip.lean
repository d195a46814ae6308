import SqlWeave.Proofs.Parser.ConditionText
import SqlWeave.Proofs.Spelling.Query
import SqlWeave.Proofs.TableList
import SqlWeave.Render.Statement

/-! Reading undoes writing: a script of core queries is read from its text as the same script, so
that writing what was read changes nothing any more. -/

namespace SqlWeave

open Token (Piece Lexes Quoting)
open SqlWeave.Parser (Nested Reads Stands nested next Returns parseScript startState readersFor)
open Render (Result Item)

variable {r : Renderer} {opening closing : Char} {text : String} {ks rest : List Piece}

/-! ## Statements -/

/-- A query as a statement. A WITH clause is read ahead to see that no other statement follows
it. -/
theorem Query.Spelled.statement_reads {q : Query Expr} (h : q.Spelled r text ks) {n : Nat}
    (hn : ks.length < n) (hrest : endsQuery (next rest) = true) :
    Reads (nested n).statement (ks ++ rest) (.select q) rest := by
  have hsome : ks ≠ [] := by
    rintro rfl
    cases h.opens
  intro src s hs
  have hkind : s.current.kind = next ks := by rw [hs.kind, Parser.next_append hsome]
  have hquery := h.legible.reads n hn rest hrest src
  have hopens := h.opens
  simp only [Bool.or_eq_true, beq_iff_eq] at hopens
  rcases hopens with hselect | hwith
  · obtain ⟨t, ht, hstands⟩ := hquery s hs
    exact ⟨t, Nested.statement_select_iff.mpr (.inl ⟨hkind.trans hselect, ht⟩), hstands⟩
  · obtain ⟨withs, more, hmore, hahead⟩ := h.ahead n hn hwith rest
    obtain ⟨u, hu, hstands⟩ := hahead src s hs
    have hback : Stands src { u with previous := s.previous, current := s.current, rest := s.rest }
        (ks ++ rest) := hs
    obtain ⟨t, ht, hstands'⟩ := hquery _ hback
    have hstatement := Nested.withStatement_select_iff.mpr
      ⟨withs, u, hu, hstands.kind.trans hmore, ht⟩
    exact ⟨t, Nested.statement_select_iff.mpr (.inr ⟨hkind.trans hwith, hstatement⟩), hstands'⟩

theorem semicolons_reads (marks : List Unit) (h : next rest ≠ .symbol .semicolon) :
    Reads Parser.semicolons (marks.flatMap (fun _ => [.semicolon]) ++ rest) () rest :=
  (@Parser.many_reads Unit rest (Parser.isAt .semicolon) _ (pure ()) .semicolon (fun _ => []) marks
    (Parser.isAt_asks .semicolon) rfl (beq_eq_false_iff_ne.mpr h) fun _ _ _ _ =>
      .pure ()).bind (.pure _)

section Statements

variable {q : Query Expr} {qs : List (Query Expr)} {text : Query Expr → String}
  {spelling : Query Expr → List Piece}
  {n m : Nat}

/-- Whether a statement ends before a token. -/
def endsStatement (k : TokenKind) : Bool := k == .symbol .semicolon || k == .eof

/-- A query and the statements after it. -/
theorem nextStatement_reads (marks : List Unit) {text : String} (h : q.Spelled r text ks)
    (hn : ks.length < n) (hend : endsStatement (next rest) = true) {ss : List (Statement Expr)}
    (hss : Reads ((nested n).statements m) rest ss []) :
    Reads ((nested n).statements (m + 1)) (marks.flatMap (fun _ => [.semicolon]) ++ (ks ++ rest))
      (.select q :: ss) [] := by
  have hopens := h.opens_append rest
  have hsemicolon : next (ks ++ rest) ≠ .symbol .semicolon := by
    intro hnext
    rw [hnext] at hopens
    cases hopens
  have heof : next (ks ++ rest) ≠ .eof := by
    intro hnext
    rw [hnext] at hopens
    cases hopens
  have hends : endsQuery (next rest) = true := by
    rw [endsQuery, Bool.or_assoc, show (_ || _) = true from hend, Bool.or_true]
  refine (semicolons_reads marks hsemicolon).bind (.look ?_)
  rw [if_neg (by simpa using heof)]
  exact (h.statement_reads hn hends).bind
    (.isTrue Nested.isAtStatementEnd_asks hend (hss.bind (.pure _)))

/-- The statements after the first one, by induction over them. -/
theorem moreStatements_reads (h : ∀ q ∈ qs, q.Spelled r (text q) (spelling q))
    (hn : ∀ q ∈ qs, (spelling q).length < n) (hm : qs.length < m) :
    Reads ((nested n).statements m) (qs.flatMap fun q => .semicolon :: spelling q)
      (qs.map .select) [] ∧
      endsStatement (next (qs.flatMap fun q => .semicolon :: spelling q)) = true := by
  induction qs generalizing m with
  | nil =>
    obtain ⟨m, rfl⟩ : ∃ k, m = k + 1 := ⟨m - 1, by omega⟩
    exact ⟨(semicolons_reads [] (by simp)).bind (.look (.pure _)), rfl⟩
  | cons q qs ih =>
    obtain ⟨m, rfl⟩ : ∃ k, m = k + 1 := ⟨m - 1, by omega⟩
    obtain ⟨hmore, hend⟩ := ih (fun q' hq' => h q' (List.mem_cons_of_mem _ hq'))
      (fun q' hq' => hn q' (List.mem_cons_of_mem _ hq')) (m := m) (by simpa using hm)
    exact ⟨nextStatement_reads [()] (h q List.mem_cons_self) (hn q List.mem_cons_self) hend hmore,
      rfl⟩

/-- The reader of a text starts before all of its pieces. -/
theorem startState_pieces (d : Dialect) (text : String) :
    ((startState d text).current :: (startState d text).rest).map (Token.piece text) =
      Token.pieces d.quoting text.toList := by
  rw [Parser.startState_tokens, Token.pieces, String.ofList_toList]
  rfl

theorem startState_stands {d : Dialect} {text : String} (h : Lexes d.quoting text ks) :
    Stands ⟨text, d⟩ (startState d text) ks := (startState_pieces d text).trans h.finished

/-- Spelled queries with semicolons between them are read as a script. -/
theorem parseScript_spelled (h : ∀ q' ∈ q :: qs, q'.Spelled r (text q') (spelling q')) :
    ∃ refs, parseScript r.config.dialect (" ; ".intercalate ((q :: qs).map text)) =
      .ok (.ofStatements ((q :: qs).map .select), refs) := by
  have hlexes : Lexes r.config.dialect.quoting (" ; ".intercalate ((q :: qs).map text))
      (spelling q ++ qs.flatMap fun q => .semicolon :: spelling q) :=
    .separated Lexes.afterSemicolon (fun b => by rw [String.toList_append]; rfl) fun q' hq' =>
      (h q' hq').legible.lexes
  have hstands := startState_stands hlexes
  have hlength := hstands.rest_length
  have hrounds := Parser.length_le_flatMap .semicolon spelling qs
  have hpos : 0 < (spelling q).length := by
    refine List.length_pos_iff.mpr fun hnil => ?_
    have hopens := (h q List.mem_cons_self).opens
    rw [hnil] at hopens
    cases hopens
  rw [List.length_append] at hlength
  obtain ⟨m, hm⟩ :
      ∃ m, (startState r.config.dialect (" ; ".intercalate ((q :: qs).map text))).rest.length =
        m + 1 :=
    ⟨(spelling q).length + (qs.flatMap fun q => .semicolon :: spelling q).length - 1, by omega⟩
  obtain ⟨hmore, hend⟩ := moreStatements_reads (n := m + 2) (m := m + 1)
    (fun q' hq' => h q' (List.mem_cons_of_mem _ hq'))
    (fun q' hq' => by
      have hsub :
          (spelling q').length < (qs.flatMap fun q => Piece.semicolon :: spelling q).length :=
        Parser.length_lt_flatMap hq'
      omega) (by omega)
  have hall := nextStatement_reads [] (h q List.mem_cons_self) (by omega) hend hmore
  obtain ⟨t, ht, -⟩ := hall _ _ hstands
  refine ⟨t.references, Parser.parseScript_eq_ok.mpr
    ⟨t, Parser.script_returns.mpr ⟨_, ?_, by simp, rfl⟩, rfl⟩⟩
  rw [readersFor, hm]
  exact ht

end Statements

/-! ## Core queries -/

/-- A dialect that delimits names has both delimiters. -/
theorem Renderer.standard_of_delimited {d : Dialect} (hd : d.identifierQuote ≠ .bare)
    (mode : RenderMode) :
    ∃ opening closing, Renderer.Standard { config := ⟨d, mode⟩ } opening closing := by
  have hsome : ∃ opening closing, d.identifierQuote.delimiters = some (opening, closing) := by
    cases hquote : d.identifierQuote with
    | bare => exact absurd hquote hd
    | backtick | doubleQuote | bracket => exact ⟨_, _, rfl⟩
  obtain ⟨opening, closing, hdelimiters⟩ := hsome
  exact ⟨opening, closing, rfl, hdelimiters⟩

/-- Core queries are written, and read again as they are. -/
theorem script_core {d : Dialect} (hd : d.identifierQuote ≠ .bare) (mode : RenderMode)
    {qs : List (Query Expr)} (hne : qs ≠ []) (hqs : ∀ q ∈ qs, q.Core d) :
    ∃ text refs,
      ({ config := ⟨d, mode⟩ } : Renderer).script (.ofStatements (qs.map .select)) = .ok text ∧
      parseScript d text = .ok (.ofStatements (qs.map .select), refs) := by
  obtain ⟨opening, closing, hr⟩ := Renderer.standard_of_delimited hd mode
  obtain ⟨text, spelling, hspelled⟩ :=
    exists_spellings (P := fun q text ks => Query.Spelled { config := ⟨d, mode⟩ } q text ks)
    fun q hq => Phrase.Core.spelled hr (hqs q hq)
  obtain ⟨q, qs, rfl⟩ := List.exists_cons_of_ne_nil hne
  obtain ⟨refs, hparse⟩ := parseScript_spelled hspelled
  refine ⟨_, refs, ?_, hparse⟩
  have htexts : ((q :: qs).map Statement.select).mapM
      ({ config := ⟨d, mode⟩ } : Renderer).statement =
      .ok ((q :: qs).map text) := by
    rw [List.mapM_map]
    exact mapM_ok fun q' hq' => (hspelled q' hq').rendered
  unfold Renderer.script
  rw [Script.statements_ofStatements, htexts]
  rfl

/-! ## A query whose names hold their own delimiters -/

/-- A column of a table that is known by an alias, and the same column compared with a string. -/
def quotedSelect : Select Expr where
  distinct := true
  columns := .list [{ expr := .qualifiedColumn "t" "a b", aliasName := some "n" }]
  tables := some [{ table := some "x`y", aliasName := some "t" }]
  condition := some ((Expr.qualifiedColumn "t" "a b").binary "=" (.string "it's"))
  setOperator := some "union all"

def negativeSelect : Select Expr where
  columns := .list [{ expr := .unary "-" (.number (.int 1)) }]

def quotedUnion : Query Expr := { head := quotedSelect, rest := [negativeSelect] }

def quotedUnionText : String :=
  "SELECT DISTINCT `t`.`a b` AS n FROM `x``y` AS `t` WHERE `t`.`a b` = 'it''s' UNION ALL SELECT -1"

theorem quotedSelect_plain : quotedSelect.Plain .mySql := by
  have halias : IsAlias "n" := ⟨by decide, by decide⟩
  have htable : ({ table := some "x`y", aliasName := some "t" } : Table Expr).Plain :=
    ⟨.inl ⟨rfl, rfl, by simp, by simp, by decide⟩, by decide, rfl, rfl⟩
  refine ⟨by simp [quotedSelect], ?_, ?_, by simp [quotedSelect],
    rfl, by simp [quotedSelect], by simp [quotedSelect], rfl⟩
  · rintro items ⟨⟩
    simpa using halias
  · rintro ts ⟨⟩
    exact ⟨_, [], rfl, ⟨rfl, rfl, rfl⟩, by simp, by simpa using htable⟩

theorem negativeSelect_plain : negativeSelect.Plain .mySql := by
  refine ⟨by simp [negativeSelect], ?_, by simp [negativeSelect], by simp [negativeSelect],
    rfl, by simp [negativeSelect], by simp [negativeSelect], rfl⟩
  rintro items ⟨⟩
  simp

theorem quotedUnion_core : quotedUnion.Core .mySql := by
  have hcolumn : Phrase.Core .mySql (.expr (.qualifiedColumn "t" "a b")) :=
    .column _ ⟨⟨by simp [ColumnRef.ofText], by simp [ColumnRef.ofText], by decide⟩,
      ⟨"a b", rfl, by decide⟩, rfl, rfl⟩
  have hcondition :
      Phrase.Core .mySql (.expr ((Expr.qualifiedColumn "t" "a b").binary "=" (.string "it's"))) :=
    .binary "=" 5 _ _ hcolumn (.string _) (by decide) rfl rfl rfl (by decide)
  have hminus : Phrase.Core .mySql (.expr (.unary "-" (.number (.int 1)))) :=
    .unary "-" Operator.signPower _ (.number 1 (by decide)) (by decide) rfl (by decide)
  refine .query _ (List.forall_mem_cons.mpr ⟨?_, List.forall_mem_singleton.mpr ?_⟩)
    (List.forall_mem_cons.mpr ⟨quotedSelect_plain,
      List.forall_mem_singleton.mpr negativeSelect_plain⟩)
    ⟨⟨"union all", by decide, rfl⟩, rfl⟩
  · simp [quotedUnion, quotedSelect, Select.phrases, hcolumn, hcondition]
  · simp [negativeSelect, Select.phrases, hminus]

/-! ## Reading back -/

/-- A core query is read from its text as it is, whatever its names and strings hold. -/
theorem core_query_reads_back {d : Dialect} (hd : d.identifierQuote ≠ .bare) (mode : RenderMode)
    {q : Query Expr} (hq : q.Core d) :
    ∃ text refs, ({ config := ⟨d, mode⟩ } : Renderer).statement (.select q) = .ok text ∧
      parseScript d text = .ok (.single (.select q), refs) := by
  obtain ⟨text, refs, htext, hparse⟩ :=
    script_core hd mode (List.cons_ne_nil q []) (by simpa using hq)
  refine ⟨text, refs, ?_, hparse⟩
  have hscript : ({ config := ⟨d, mode⟩ } : Renderer).script (.single (.select q)) =
      ({ config := ⟨d, mode⟩ } : Renderer).statement (.select q) := by
    unfold Renderer.script
    show (do return " ; ".intercalate (← [Statement.select q].mapM _)) = _
    rw [List.mapM_cons, List.mapM_nil]
    cases ({ config := ⟨d, mode⟩ } : Renderer).statement (.select q) <;> rfl
  exact hscript ▸ htext

/-- The delimiters inside names and strings are doubled in the text and single again in the tree. -/
theorem core_query_reads_back_quoted :
    ∃ refs,
      ({ config := ⟨.mySql, .strict⟩ } : Renderer).statement (.select quotedUnion) =
        .ok quotedUnionText ∧
      parseScript .mySql quotedUnionText = .ok (.single (.select quotedUnion), refs) := by
  obtain ⟨text, refs, htext, hparse⟩ :=
    core_query_reads_back (d := .mySql) (by decide) .strict quotedUnion_core
  obtain ⟨written, hwritten, rfl⟩ := ok_of_toOption id (v := quotedUnionText)
    (x := ({ config := ⟨.mySql, .strict⟩ } : Renderer).statement (.select quotedUnion))
      (by decide +kernel)
  cases htext.symm.trans hwritten
  exact ⟨refs, htext, hparse⟩

/-- A text that is not accepted, from the computed outcome. -/
theorem parseScript_ne_ok {d : Dialect} {text : String}
    (h : (parseScript d text).toOption.isNone = true) (script : Script Expr) (refs : References) :
    parseScript d text ≠ .ok (script, refs) := by
  intro hok
  rw [hok] at h
  cases h

/-- A table named `*` keeps its name bare, and no table is read there. -/
theorem star_table_unread :
    ({ config := ⟨.mySql, .strict⟩ } : Renderer).statement
      (.select { head := { tables := some [.named "*"] } }) =
        .ok "SELECT * FROM *" ∧
      ∀ script refs, parseScript .mySql "SELECT * FROM *" ≠ .ok (script, refs) := by
  constructor
  · obtain ⟨written, hwritten, rfl⟩ := ok_of_toOption id (v := "SELECT * FROM *")
      (x := ({ config := ⟨.mySql, .strict⟩ } : Renderer).statement
        (.select { head := { tables := some [.named "*"] } }))
      (by decide +kernel)
    exact hwritten
  · exact parseScript_ne_ok (by decide +kernel)

/-! ## Writing again -/

/-- The queries of statements that are all queries of a kind. -/
theorem exists_queries {P : Query Expr → Prop} {ss : List (Statement Expr)}
    (h : ∀ s ∈ ss, ∃ q, s = .select q ∧ P q) :
    ∃ qs : List (Query Expr), ss = qs.map .select ∧ ∀ q ∈ qs, P q := by
  induction ss with
  | nil => exact ⟨[], rfl, by simp⟩
  | cons s ss ih =>
    obtain ⟨q, rfl, hq⟩ := h s List.mem_cons_self
    obtain ⟨qs, rfl, hqs⟩ := ih fun s' hs' => h s' (List.mem_cons_of_mem _ hs')
    exact ⟨q :: qs, rfl, List.forall_mem_cons.mpr ⟨hq, hqs⟩⟩

/-- The text of an accepted script of core queries is accepted as the same script, so it is written
as the same text again. -/
theorem core_rendering_stable {d : Dialect} (hd : d.identifierQuote ≠ .bare) (mode : RenderMode)
    {text : String} {script : Script Expr} {refs : References}
    (h : parseScript d text = .ok (script, refs))
    (hcore : ∀ s ∈ script.statements, ∃ q, s = .select q ∧ q.Core d) :
    ∃ written again, ({ config := ⟨d, mode⟩ } : Renderer).script script = .ok written ∧
      parseScript d written = .ok (script, again) := by
  obtain ⟨t, ht, -⟩ := Parser.parseScript_eq_ok.mp h
  obtain ⟨ss, -, hne, rfl⟩ := Parser.script_returns.mp ht
  rw [Script.statements_ofStatements] at hcore
  obtain ⟨qs, rfl, hqs⟩ := exists_queries hcore
  exact script_core hd mode (by simpa using hne) hqs

theorem core_rendering_stable_quoted :
    ∃ refs written again, parseScript .mySql quotedUnionText =
      .ok (.single (.select quotedUnion), refs) ∧
      ({ config := ⟨.mySql, .strict⟩ } : Renderer).script (.single (.select quotedUnion)) =
        .ok written ∧
      parseScript .mySql written = .ok (.single (.select quotedUnion), again) := by
  obtain ⟨text, refs, htext, hparse⟩ :=
    script_core (d := .mySql) (by decide) .strict (List.cons_ne_nil quotedUnion [])
    (by simpa using quotedUnion_core)
  obtain ⟨written, hwritten, rfl⟩ := ok_of_toOption id (v := quotedUnionText)
    (x := ({ config := ⟨.mySql, .strict⟩ } : Renderer).script (.single (.select quotedUnion)))
      (by decide +kernel)
  cases htext.symm.trans hwritten
  obtain ⟨written, again, hscript, hagain⟩ := core_rendering_stable (by decide) .strict hparse
    (by simpa [Script.statements, Script.ofStatements] using quotedUnion_core)
  exact ⟨refs, written, again, hparse, hscript, hagain⟩

/-! ## Names that look like clauses -/

/-- A query of everything in a table. -/
def wholeTable (name : String) : Query Expr := { head := { tables := some [.named name] } }

theorem wholeTable_core {d : Dialect} {name : String} (h : isName name = true) :
    (wholeTable name).Core d := by
  have hqualified : Qualified none none (some name) := ⟨by simp, by simp, by simpa using h⟩
  have htable : (Table.named name : Table Expr).Plain :=
    ⟨.inl ⟨rfl, rfl, hqualified⟩, by simp [Table.named], rfl, rfl⟩
  refine .query _ ?_ (List.forall_mem_singleton.mpr ?_) rfl
  · simp [wholeTable, Select.phrases, Table.named]
  · refine ⟨by simp [wholeTable], by simp [wholeTable], ?_, by simp [wholeTable], rfl,
      by simp [wholeTable], by simp [wholeTable], rfl⟩
    rintro ts ⟨⟩
    exact ⟨_, [], rfl, ⟨rfl, rfl, rfl⟩, by simp, by simpa using htable⟩

/-- A table with a comma in its name, under an alias that would end the statement, beside a query
whose name would do so too. -/
def hostileSelect : Select Expr where
  withs := some [{ name := "a; b", body := .query (wholeTable "x, y") }]
  columns := .list [{ expr := .qualifiedColumn ";" "1 FROM t" }]
  tables := some [{ table := some "secret, y", aliasName := some ";" }, .named "a; b"]

theorem hostileSelect_core : Query.Core .mySql { head := hostileSelect } := by
  have hbody : Phrase.Core .mySql (.ofSource (.query (wholeTable "x, y"))) :=
    wholeTable_core (by decide)
  have hcolumn : Phrase.Core .mySql (.expr (.qualifiedColumn ";" "1 FROM t")) :=
    .column _ ⟨⟨by simp [ColumnRef.ofText], by simp [ColumnRef.ofText], by decide⟩,
      ⟨"1 FROM t", rfl, by decide⟩, rfl, rfl⟩
  have hsecret : ({ table := some "secret, y", aliasName := some ";" } : Table Expr).Plain :=
    ⟨.inl ⟨rfl, rfl, by simp, by simp, by decide⟩, by decide, rfl, rfl⟩
  have hquery : (Table.named "a; b" : Table Expr).Plain :=
    ⟨.inl ⟨rfl, rfl, by simp [Table.named], by simp [Table.named], by decide⟩, by
      simp [Table.named],
      rfl, rfl⟩
  refine .query _ (List.forall_mem_singleton.mpr ?_) (List.forall_mem_singleton.mpr ?_) rfl
  · simp [hostileSelect, Select.phrases, Table.named, hcolumn, hbody]
  · refine ⟨?_, ?_, ?_, by simp [hostileSelect], rfl, by simp [hostileSelect],
      by simp [hostileSelect], rfl⟩
    · rintro ctes ⟨⟩
      exact ⟨by simp, false, List.forall_mem_singleton.mpr ⟨by decide, by simp [NameList],
        ⟨_, rfl⟩, rfl⟩⟩
    · rintro items ⟨⟩
      simp
    · rintro ts ⟨⟩
      exact ⟨_, _, rfl, ⟨rfl, rfl, rfl⟩, List.forall_mem_singleton.mpr (.inl ⟨rfl, rfl, rfl⟩),
        List.forall_mem_cons.mpr ⟨hsecret, List.forall_mem_singleton.mpr hquery⟩⟩

def hostileScript : Script Expr :=
  .ofStatements [.select { head := hostileSelect }, .select (wholeTable "-- x")]

def hostileText : String :=
  "WITH `a; b` AS (SELECT * FROM `x, y`) SELECT `;`.`1 FROM t` FROM `secret, y` AS `;`, `a; b`" ++
    " ; SELECT * FROM `-- x`"

theorem hostileScript_core :
    ∀ s ∈ hostileScript.statements, ∃ q, s = .select q ∧ q.Core .mySql := by
  rw [hostileScript, Script.statements_ofStatements]
  exact List.forall_mem_cons.mpr ⟨⟨_, rfl, hostileSelect_core⟩,
    List.forall_mem_singleton.mpr ⟨_, rfl, wholeTable_core (by decide)⟩⟩

/-! ## What was checked -/

/-- The tables that were checked are those of the text that is written: an accepted script of core
queries is written as a text that is accepted too, with as many statements and with the same tables,
whatever the names in delimiters hold. -/
theorem core_rendering_confined {d : Dialect} (hd : d.identifierQuote ≠ .bare) (mode : RenderMode)
    {text : String} {script : Script Expr} {refs : References}
    (h : parseScript d text = .ok (script, refs))
    (hcore : ∀ s ∈ script.statements, ∃ q, s = .select q ∧ q.Core d) :
    ∃ written, ({ config := ⟨d, mode⟩ } : Renderer).script script = .ok written ∧
      (∃ again, parseScript d written = .ok (script, again)) ∧
      ∀ script' refs', parseScript d written = .ok (script', refs') →
        script'.statements.length = script.statements.length ∧
          ∀ e, e ∈ refs'.tableList ↔ e ∈ refs.tableList := by
  obtain ⟨written, again, hwritten, hagain⟩ := core_rendering_stable hd mode h hcore
  refine ⟨written, hwritten, ⟨again, hagain⟩, fun script' refs' h' => ?_⟩
  obtain ⟨rfl, rfl⟩ := Prod.mk.inj (Except.ok.inj (hagain.symm.trans h'))
  refine ⟨rfl, mem_tableList_congr h h' fun s hs => ?_⟩
  obtain ⟨q, rfl, -⟩ := hcore s hs
  rfl

/-- Two statements and three tables come back as two statements and the same three tables. -/
theorem core_rendering_confined_hostile :
    ∃ refs written again,
      parseScript .mySql hostileText = .ok (hostileScript, refs) ∧
      ({ config := ⟨.mySql, .strict⟩ } : Renderer).script hostileScript = .ok written ∧
      parseScript .mySql written = .ok (hostileScript, again) ∧
      refs.tableList = ["select::null::x, y", "select::null::secret, y", "select::null::-- x"] ∧
      ∀ e, e ∈ again.tableList ↔ e ∈ refs.tableList := by
  obtain ⟨written, refs, hwritten, hparse⟩ := script_core (d := .mySql) (by decide) .strict
    (List.cons_ne_nil { head := hostileSelect } [wholeTable "-- x"])
    (List.forall_mem_cons.mpr
      ⟨hostileSelect_core, List.forall_mem_singleton.mpr (wholeTable_core (by decide))⟩)
  obtain ⟨_, htext, rfl⟩ := ok_of_toOption id (v := hostileText)
    (x := ({ config := ⟨.mySql, .strict⟩ } : Renderer).script hostileScript) (by decide +kernel)
  cases hwritten.symm.trans htext
  obtain ⟨_, refs', hparse', hlist⟩ := parseScript_of_toOption .mySql hostileText
    (fun _ refs => refs.tableList)
    (v := ["select::null::x, y", "select::null::secret, y", "select::null::-- x"])
    (by decide +kernel)
  cases hparse.symm.trans hparse'
  obtain ⟨written, hscript, ⟨again, hagain⟩, hsame⟩ :=
    core_rendering_confined (by decide) .strict hparse hostileScript_core
  exact ⟨refs, written, again, hparse, hscript, hagain, hlist, (hsame _ _ hagain).2⟩

/-- The name of a table function is written bare, so that a quoted name with a comma in it becomes a
table of its own. -/
theorem quoted_call_adds_table :
    let r : Renderer := { config := { dialect := .mySql } }
    ∃ script refs text script' refs',
      parseScript .mySql "SELECT * FROM `secret, x`(1)" = .ok (script, refs) ∧
        r.script script = .ok text ∧
      parseScript .mySql text = .ok (script', refs') ∧
      refs.tableList = [] ∧ refs'.tableList = ["select::null::secret"] := by
  intro r
  obtain ⟨script, refs, h, hf⟩ := parseScript_of_toOption .mySql "SELECT * FROM `secret, x`(1)"
    (fun script refs => (refs.tableList, (r.script script).toOption))
    (v := ([], some "SELECT * FROM secret, x(1)")) (by decide +kernel)
  obtain ⟨script', refs', h', hlist'⟩ := parseScript_of_toOption .mySql "SELECT * FROM secret, x(1)"
    (fun _ refs => refs.tableList) (v := ["select::null::secret"]) (by decide +kernel)
  obtain ⟨hlist, hwritten⟩ := Prod.mk.inj hf
  obtain ⟨text, htext, rfl⟩ := ok_of_toOption id (x := r.script script)
    (v := "SELECT * FROM secret, x(1)") (by simpa using hwritten)
  exact ⟨script, refs, _, script', refs', h, htext, h', hlist, hlist'⟩

/-- A sign before a sign is written tight, and two minus signs start a comment. -/
theorem double_minus_unread :
    ∃ script refs, parseScript .mySql "SELECT - -1" = .ok (script, refs) ∧
      ({ config := ⟨.mySql, .strict⟩ } : Renderer).script script = .ok "SELECT --1" ∧
      ∀ script' refs', parseScript .mySql "SELECT --1" ≠ .ok (script', refs') := by
  obtain ⟨script, refs, h, hf⟩ := parseScript_of_toOption .mySql "SELECT - -1"
    (fun script _ => (({ config := ⟨.mySql, .strict⟩ } : Renderer).script script).toOption)
      (v := some "SELECT --1")
    (by decide +kernel)
  obtain ⟨written, hwritten, rfl⟩ := ok_of_toOption id
    (x := ({ config := ⟨.mySql, .strict⟩ } : Renderer).script script) (v := "SELECT --1")
      (by simpa using hf)
  exact ⟨script, refs, h, hwritten, parseScript_ne_ok (by decide +kernel)⟩

end SqlWeave
