import SqlWeave.Proofs.Render.Agreement
import SqlWeave.Proofs.Render.Clauses

/-! The texts of columns, of tables and of queries. Against DUAL an unqualified column is written as
it is, without its parentheses; everything else keeps them. -/

namespace SqlWeave

open HasSlots (slots)
open Token (Opens Plain PlainOpens Stands isStop isWhole)
open Render

variable {r : Renderer} {opening closing : Char} {d : Dialect} {ms : List Mark}

/-! ## Nodes -/

section Nodes

variable {n : Node Expr} {x : Result String}

/-- A node with its parentheses around what else is written of it. -/
theorem Showing.of_node
    (hnode : r.node (n.map r.item) = do return Text.parenthesize n.isParenthesized (← x))
    (h : Succeeds (fun text => ∃ ks, Stands r.config.dialect.quoting text ks ∧
      Around r.config.dialect (n.layout r.config.dialect) ks ∧ n.Named r.config.dialect ks)
        x) : Showing r (.mk n) := by
  unfold Showing
  rw [r.expr_mk, hnode]
  refine h.bind fun text ⟨ks, hks, haround, hnamed⟩ =>
    .pure ⟨n.wrap ks, ?_, ks, haround, hnamed, rfl⟩
  unfold Node.wrap Text.parenthesize
  split
  · exact (Opens.inParens hks).stands
  · exact hks

theorem Showing.of_prints
    (hnode : r.node (n.map r.item) = do return Text.parenthesize n.isParenthesized (← x))
    (hnamed : ∀ ks, n.Named r.config.dialect ks)
    (h : Prints r.config.dialect x (n.layout r.config.dialect)) :
    Showing r (.mk n) :=
  .of_node hnode (h.mono fun _ ⟨ks, hks, haround⟩ => ⟨ks, hks, haround, hnamed ks⟩)

/-- A node that is never in parentheses of its own. -/
theorem Showing.of_bare (hparens : n.isParenthesized = false)
    (hnamed : ∀ ks, n.Named r.config.dialect ks)
    (h : Prints r.config.dialect (r.node (n.map r.item)) (n.layout r.config.dialect)) :
    Showing r (.mk n) := by
  refine .of_prints (x := r.node (n.map r.item)) ?_ hnamed h
  rw [hparens]
  exact (bind_pure _).symm

end Nodes

/-! ## Columns -/

section Columns

variable {c : ColumnRef Expr}

/-- The text of a name, with a star for all columns. -/
theorem ColumnRef.name_text (hname : ∀ e, c.column ≠ .computed e) :
    ∃ text, c.column.text? = some text ∧
    (∀ r : Renderer, columnName r.config.dialect (c.column.map r.item) =
      .ok (r.config.dialect.quoteIdentifier text)) ∧
    (∀ d : Dialect, c.column.Shown d [Token.nameKind text]) ∧
    ∀ (d : Dialect) ks, ks ++ [.eof] = Token.kinds d.quoting text.toList → c.column.Shown d ks := by
  cases hcase : c.column with
  | star =>
    refine ⟨"*", rfl, fun r => rfl, fun d => rfl, fun d ks hks => ?_⟩
    have hstar := Token.kinds_star d.quoting []
    rw [List.append_nil, Token.kinds_nil] at hstar
    exact List.append_cancel_right (hks.trans hstar)
  | name text =>
    refine ⟨text, rfl, fun r => rfl, fun d => ?_, fun d ks hks => .inr hks⟩
    unfold Token.nameKind
    split
    · rename_i hstar
      have hkinds := Token.kinds_star d.quoting []
      rw [List.append_nil, Token.kinds_nil] at hkinds
      exact .inr (hstar ▸ hkinds.symm)
    · exact .inl rfl
  | computed e => exact absurd hcase (hname e)

theorem ColumnRef.layout_nil (hname : ∀ e, c.column ≠ .computed e) (d : Dialect) :
    (Node.column c).layout d = [] := by
  cases hcase : c.column with
  | computed e => exact absurd hcase (hname e)
  | _ => simp [Node.layout, Node.slots, hcase, ColumnName.slots, Slot.expr?, Layout.parts]

/-- What is written of a column without a collation. -/
theorem standardColumnRef_text {config : RenderConfig} {c : ColumnRef Item} {name : String}
    (hname : columnName config.dialect c.column = .ok (config.dialect.quoteIdentifier name))
    (hcollate : c.collate = none) :
    standardColumnRef config c = .ok (Text.parenthesize c.parens
      (".".intercalate ((c.qualifiers ++ [name]).map config.dialect.quoteIdentifier))) := by
  unfold standardColumnRef
  rw [hname, hcollate, List.map_append]
  exact congrArg (fun text => Except.ok (Text.parenthesize c.parens text)) (String.append_empty ..)

/-- A column is written with each of its qualifiers between delimiters. -/
theorem columnRef_showing (hr : r.Standard opening closing) (hc : c.Shaped) :
    Showing r (.mk (.column c)) := by
  obtain ⟨name, -, hname, hshown, -⟩ := c.name_text hc.name
  have hnode : r.node ((Node.column c).map r.item) = do
      let text ← pure
          (".".intercalate ((c.qualifiers ++ [name]).map r.config.dialect.quoteIdentifier))
      return Text.parenthesize c.parens text := by
    rw [Node.map, Renderer.node_column hr.registry]
    exact standardColumnRef_text (c := c.map r.item) (hname r) hc.collate
  refine .of_node hnode (.pure ⟨_, .dotted hr.delimiters c.qualifiers name, ?_, _, hshown _, rfl⟩)
  rw [c.layout_nil hc.name]
  refine .plain fun k hk => ?_
  rcases List.mem_append.mp hk with hk | hk
  · obtain ⟨qualifier, -, hk⟩ := List.mem_flatMap.mp hk
    rcases List.mem_pair.mp hk with rfl | rfl
    · exact Token.isParenthesis_nameKind qualifier
    · rfl
  · rw [List.mem_singleton.mp hk]
    exact Token.isParenthesis_nameKind name

/-- What is written without delimiters, without qualifiers and without parentheses loses none of
them. -/
structure ColumnRef.Bare (d : Dialect) (c : ColumnRef Expr) : Prop where
  parens : c.parens = false
  qualifiers : c.qualifiers = []
  whole : isWhole d.quoting (c.column.text?.getD "") = true

theorem bareColumn_written (hname : ∀ e, c.column ≠ .computed e) (h : c.Bare d) :
    Written d (c.column.text?.getD "") [.part (.mk (.column c))] := by
  obtain ⟨name, htext, -, -, hshown⟩ := c.name_text hname
  obtain ⟨ks, hks, hplain⟩ := Plain.ofWhole h.whole
  refine ⟨ks, hks, .shown ⟨ks, ?_, ?_, ?_⟩⟩
  · show Around d ((Node.column c).layout d) ks
    rw [c.layout_nil hname]
    exact .plain hplain
  · refine ⟨ks, hshown d ks ?_, by rw [h.qualifiers]; rfl⟩
    have hkinds := hks.kinds_eq
    rw [htext] at hkinds
    exact hkinds.symm
  · show ks = (Node.column c).wrap ks
    rw [Node.wrap, Node.isParenthesized, h.parens]
    rfl

end Columns

/-! ## Select lists -/

section SelectLists

theorem aliasText_plain (hr : r.Standard opening closing) (name : String) :
    Plain r.config.dialect.quoting (r.aliasText name) := by
  unfold Renderer.aliasText
  split
  · exact .word (isWord_of_isPlainAlias ‹_›)
  · exact .name hr.delimiters name

/-- The column that an entry of a select list is, if that is an unqualified name. -/
def Expr.unqualified? (e : Expr) : Option (ColumnRef Expr) :=
  match e.node with
  | .column c =>
    match c.table, c.column with
    | none, .name _ => some c
    | _, _ => none
  | _ => none

/-- An alias stands behind what it is given to. -/
theorem aliased_prints (hr : r.Standard opening closing) (aliasName : Option String)
    {ms : List Mark} (h : Written r.config.dialect text ms) :
    Prints r.config.dialect (match aliasName with
      | some aliasName => return text ++ " AS " ++ r.aliasText aliasName
      | none => return text) ms := by
  cases aliasName with
  | none => exact .pure h
  | some aliasName =>
    have hall := h.between (w := " AS ") (by decide) rfl rfl (.plain (aliasText_plain hr aliasName))
    rw [List.append_nil] at hall
    exact .pure hall

theorem column_prints (hr : r.Standard opening closing) {dual : Bool} {e : Expr}
    (aliasName : Option String) (h : Showing r e)
    (hbare : dual = true → ∀ c ∈ e.unqualified?, c.Bare r.config.dialect) :
    Prints r.config.dialect (r.column dual ⟨r.item e, aliasName⟩) [.part e] := by
  have hplain := h.prints.bind fun _ htext => aliased_prints hr aliasName htext
  obtain ⟨n⟩ := e
  cases n
  case column c =>
    unfold Renderer.column
    simp only [Renderer.item, Expr.node]
    split
    · rename_i text hdual hname
      obtain ⟨hdual, htable⟩ := Bool.and_eq_true_iff.mp hdual
      have hsome : (Expr.mk (.column c)).unqualified? = some c := by
        simp [Expr.unqualified?, Expr.node, Option.isNone_iff_eq_none.mp htable, hname]
      have hwritten := bareColumn_written (fun e he => by rw [hname] at he; cases he)
        (hbare hdual c hsome)
      rw [hname] at hwritten
      exact aliased_prints hr aliasName hwritten
    · exact hplain
  all_goals exact hplain

theorem selectList_prints (hr : r.Standard opening closing) {columns : Columns Expr}
    {tables : Option (List (Table Expr))} (h : AllShowing r columns)
    (hbare : (tables.bind List.head?).any Table.isDual = true →
      ∀ items, columns = .list items →
        ∀ c ∈ items.filterMap (·.expr.unqualified?), c.Bare r.config.dialect) :
    Prints r.config.dialect (r.selectList (columns.map r.item) (tables.map (·.map (·.map r.item))))
      (Layout.columns columns) := by
  cases columns with
  | all =>
    exact .pure
      (.plain ((Opens.mark (c := '*') (by decide) (fun _ => rfl) (fun _ => rfl)).stands.plain rfl))
  | list items =>
    have hdual : ((tables.map (·.map (·.map r.item))).bind List.head?).any Table.isDual =
        (tables.bind List.head?).any Table.isDual := by
      rcases tables with _ | _ | ⟨t, ts⟩ <;> rfl
    have hitems : Succeeds (AllWritten r.config.dialect · (items.map fun c => [.part c.expr]))
        ((items.map (·.map r.item)).mapM
          (r.column ((tables.bind List.head?).any Table.isDual))) := by
      rw [List.mapM_map]
      refine .mapM fun c hc => column_prints hr c.aliasName ?_ fun htrue ref href => ?_
      · exact (h.of_mem hc) _ (List.mem_singleton_self _) c.expr rfl
      · exact hbare htrue items rfl ref (List.mem_filterMap.mpr ⟨c, hc, href⟩)
    have hcommas := hitems.commas
    rw [flatten_parts] at hcommas
    unfold Renderer.selectList Renderer.columns
    simp only [Columns.map, hdual]
    exact hcommas

end SelectLists

/-! ## Tables -/

section Tables

theorem subquery_prints {e : Expr} (h : Showing r e) :
    Prints r.config.dialect (subquery (r.item e)) (Layout.subquery e) := by
  obtain ⟨n⟩ := e
  have henclosed : Prints r.config.dialect (do return inParens (← r.expr (.mk n)))
      (Layout.enclosed [.part (.mk n)]) :=
    h.prints.bind fun _ htext => .pure htext.inParens
  cases n
  case query q =>
    unfold subquery Layout.subquery
    simp only [Renderer.item, Expr.node]
    split
    · exact h.prints
    · exact henclosed
  case list items separator parens => exact h.prints
  all_goals exact henclosed

theorem dottedName_plain (hr : r.Standard opening closing) (names : List String) :
    Plain r.config.dialect.quoting (r.dottedName names) := by
  rcases List.eq_nil_or_concat' names with rfl | ⟨qualifiers, name, rfl⟩
  · exact .empty
  · refine ⟨_, .dotted hr.delimiters qualifiers name, fun k hk => ?_⟩
    rcases List.mem_append.mp hk with hk | hk
    · obtain ⟨qualifier, -, hk⟩ := List.mem_flatMap.mp hk
      rcases List.mem_pair.mp hk with rfl | rfl
      · exact Token.isParenthesis_nameKind qualifier
      · rfl
    · rw [List.mem_singleton.mp hk]
      exact Token.isParenthesis_nameKind name

theorem tableAlias_prints (hr : r.Standard opening closing) (aliasName : Option String)
    {text : String} (h : Written r.config.dialect text ms) :
    Prints r.config.dialect (match aliasName with
      | none => return text
      | some aliasName =>
        return text ++ (if r.config.dialect.tableAliasKeyword then " AS " else " ") ++
          r.ident aliasName) ms := by
  cases aliasName with
  | none => exact .pure h
  | some aliasName =>
    have hname : Written r.config.dialect (r.ident aliasName) [] :=
      .plain (.name hr.delimiters aliasName)
    refine .pure ?_
    rw [← List.append_nil ms]
    split
    · exact h.between (by decide) rfl rfl hname
    · exact h.between (by decide) rfl rfl hname

theorem table_prints (hr : r.Standard opening closing) {t : Table Expr} (h : AllShowing r t)
    (ht : t.Shaped r.config.dialect.quoting) :
    Prints r.config.dialect (r.table (t.map r.item)) (Layout.table t) := by
  have hexpr : AllShowing r t.expr :=
    Slot.all_optionals.mp (Slot.all_append.mp (Slot.all_append.mp h).1).1
  unfold Renderer.table
  cases hdual : (t.map r.item).isDual with
  | true =>
    rw [Layout.table, ht.dual hdual]
    exact .pure (.wording (by decide))
  | false =>
    obtain ⟨db, schema, table, e, aliasName, join, condition, usingColumns, addition, kind⟩ := t
    cases e with
    | none =>
      exact tableAlias_prints hr aliasName (.plain (dottedName_plain hr _))
    | some e =>
      have hshown : Showing r e := optional_shown hexpr e rfl
      obtain ⟨n⟩ := e
      cases n
      case query q =>
        exact (subquery_prints hshown).bind fun _ htext => tableAlias_prints hr aliasName htext
      all_goals exact hshown.prints.bind fun _ htext => tableAlias_prints hr aliasName htext

theorem joinCondition_prints (hr : r.Standard opening closing) {t : Table Expr}
    (h : AllShowing r t) :
    Succeeds (Trailing r.config.dialect · (Layout.joinCondition t))
      (r.joinCondition (t.map r.item)) := by
  have hcondition : AllShowing r t.condition :=
    Slot.all_optionals.mp (Slot.all_append.mp (Slot.all_append.mp h).1).2
  obtain ⟨db, schema, table, e, aliasName, join, condition, usingColumns, addition, kind⟩ := t
  cases condition with
  | some e =>
    have hshown : Showing r e := optional_shown hcondition e rfl
    exact hshown.prints.bind fun text htext => .pure (.words (by decide) rfl rfl htext)
  | none =>
    cases usingColumns with
    | none => exact .pure .empty
    | some names =>
      exact .pure (.words (by decide) rfl rfl
        (Written.plainCommas (hr.idents_plain names)).inParens)

/-- Nothing stands behind a table that is not joined. -/
theorem Table.Shaped.joinCondition_nil {q : Token.Quoting} {t : Table Expr} (ht : t.Shaped q)
    (h : t.join = none) :
    Layout.joinCondition t = [] := by
  obtain ⟨hcondition, husing⟩ := ht.alone h
  rw [Layout.joinCondition, hcondition, husing]

theorem laterTable_prints (hr : r.Standard opening closing) {t : Table Expr} (h : AllShowing r t)
    (ht : t.Shaped r.config.dialect.quoting) :
    Succeeds (Trailing r.config.dialect · (Layout.table t ++ Layout.joinCondition t))
      (r.laterTable (t.map r.item)) := by
  refine (table_prints hr h ht).bind fun text htext => ?_
  have hjoin : (t.map r.item).join = t.join := rfl
  rw [hjoin]
  cases hcase : t.join with
  | none =>
    rw [ht.joinCondition_nil hcase, List.append_nil]
    exact .pure (.comma htext)
  | some join =>
    have hword : Plain r.config.dialect.quoting (Text.upper join) := by
      simpa [hcase, upper?] using ht.join
    refine (joinCondition_prints hr h).bind fun condition hcondition => .pure ?_
    have hall := Trailing.append (.blank ((Written.plain hword).spaced htext)) hcondition
    simpa only [String.append_assoc, List.nil_append] using hall

theorem tables_prints (hr : r.Standard opening closing) {ts : List (Table Expr)}
    (h : AllShowing r ts) (hts : ∀ t ∈ ts, t.Shaped r.config.dialect.quoting)
    (hfirst : ∀ t ∈ ts.head?, t.join = none) :
    Prints r.config.dialect (r.tables (ts.map (·.map r.item)))
      (ts.flatMap fun t => Layout.table t ++ Layout.joinCondition t) := by
  cases ts with
  | nil => exact .pure .empty
  | cons t ts =>
    obtain ⟨ht, hmore⟩ := List.forall_mem_cons.mp hts
    have hlater :
        Succeeds (List.Forall₂ (Trailing r.config.dialect) · (ts.map fun t => Layout.table t ++
          Layout.joinCondition t))
        ((ts.map (·.map r.item)).mapM r.laterTable) := by
      rw [List.mapM_map]
      exact .mapM fun t ht => laterTable_prints hr (h.of_mem (List.mem_cons_of_mem _ ht))
        (hmore t ht)
    rw [List.flatMap_cons, ht.joinCondition_nil (hfirst t rfl), List.append_nil, List.flatMap_def]
    refine (table_prints hr (h.of_mem List.mem_cons_self) ht).bind fun first hfirst => ?_
    exact hlater.bind fun texts htexts => .pure (hfirst.trailed (.join htexts))

theorem fromClause_prints (hr : r.Standard opening closing) {ts : Option (List (Table Expr))}
    (h : AllShowing r ts) (hts : ∀ t ∈ ts.getD [], t.Shaped r.config.dialect.quoting)
    (hfirst : ∀ t ∈ (ts.getD []).head?, t.join = none) :
    Prints r.config.dialect (r.fromClause (ts.map (·.map (·.map r.item))))
      ((ts.getD []).flatMap fun t => Layout.table t ++ Layout.joinCondition t) := by
  rcases ts with _ | _ | ⟨t, ts⟩
  · exact .pure .empty
  · exact .pure .empty
  · rw [AllShowing, slots_some] at h
    exact clause_prints (by decide) (tables_prints hr h hts hfirst)

end Tables

/-! ## Limits -/

section Limits

/-- A text that may be missing, like what it is written for. -/
inductive MaybeWritten (d : Dialect) : Option String → List Mark → Prop
  | none : MaybeWritten d none []
  | some {text : String} {ms : List Mark} (h : Written d text ms) : MaybeWritten d (some text) ms

variable {count : String} {offset : Option String} {ns : List Mark}

theorem fetch_written (hcount : Written r.config.dialect count ms)
    (hoffset : MaybeWritten r.config.dialect offset ns) {words : String}
    (hwords : Plain r.config.dialect.quoting words) :
    Written r.config.dialect (r.fetch count offset words) (ns ++ ms) := by
  have hall {text : String} (h : Written r.config.dialect text (ns ++ ms)) :
      Written r.config.dialect (text ++ " " ++ words) (ns ++ ms) := by
    rw [← List.append_nil (ns ++ ms)]
    exact h.spaced (.plain hwords)
  unfold Renderer.fetch
  cases hoffset with
  | some hoffset =>
    have hstart : Written r.config.dialect ("OFFSET " ++ _) ns :=
      hoffset.behind (.wording (by decide) rfl)
    exact hall (hstart.between (by decide) rfl rfl hcount)
  | none =>
    have hdigit : Plain r.config.dialect.quoting "0" := .digits (by decide)
    have hzero : Written r.config.dialect ("OFFSET " ++ "0") [] :=
      (Written.plain hdigit).behind (.wording (by decide) rfl)
    have htext : "OFFSET " ++ "0" = "OFFSET 0" := rfl
    rw [htext] at hzero
    simp only
    split
    · exact hall (hzero.between (w := " ROWS FETCH NEXT ") (by decide) rfl rfl hcount)
    · exact hall (hcount.behind (.wording (by decide) rfl))

/-- The offset is written before the count where FETCH or a comma asks for it. -/
def Layout.offsetFirst (d : Dialect) (l : Limit Expr) : Bool :=
  l.count.isSome && !l.fetchSuffix.isEmpty || d.limitStyle == .fetchOffset || l.comma &&
    d.supportsLimitComma

theorem limitText_written {l : Limit Expr} {count : Option String}
    (hcount : MaybeWritten r.config.dialect count ms) (hsome : count.isSome = l.count.isSome)
    (hoffset : MaybeWritten r.config.dialect offset ns)
    (hwords : ∀ word ∈ l.fetchSuffix, Plain r.config.dialect.quoting word) :
    Written r.config.dialect (r.limitText (l.map r.item) count offset)
      (if Layout.offsetFirst r.config.dialect l then ns ++ ms else ms ++ ns) := by
  have honly : Plain r.config.dialect.quoting "ROWS ONLY" := .wording (by decide)
  have hwords := Plain.intercalate hwords
  have hmap : (l.map r.item).fetchSuffix = l.fetchSuffix ∧ (l.map r.item).comma = l.comma :=
    ⟨rfl, rfl⟩
  unfold Renderer.limitText Layout.offsetFirst
  rw [hmap.1, hmap.2, ← hsome]
  cases hcount with
  | none =>
    cases hoffset with
    | none =>
      cases r.config.dialect.limitStyle <;> simpa using Written.empty
    | some hoffset =>
      have hstart := hoffset.behind (a := "OFFSET ") (.wording (by decide) rfl)
      cases r.config.dialect.limitStyle with
      | limitOffset => simpa using hstart
      | fetchOffset =>
        have hrows := hstart.spaced (.wording (a := "ROWS") (by decide))
        simpa [String.append_assoc] using hrows
  | some hcount =>
    cases hsuffix : l.fetchSuffix with
    | cons word words =>
      rw [hsuffix] at hwords
      simpa using fetch_written hcount hoffset hwords
    | nil =>
      cases hstyle : r.config.dialect.limitStyle with
      | fetchOffset => simpa using fetch_written hcount hoffset honly
      | limitOffset =>
        have hstart := hcount.behind (a := "LIMIT ") (.wording (by decide) rfl)
        cases hoffset with
        | none => simpa using hstart
        | some hoffset =>
          by_cases hcomma : (l.comma && r.config.dialect.supportsLimitComma) = true
          · have hfront := hoffset.behind (a := "LIMIT ") (.wording (by decide) rfl)
            simpa [hcomma, String.append_assoc] using hfront.trailed (.comma hcount)
          · simpa [hcomma] using hstart.between (w := " OFFSET ") (by decide) rfl rfl hoffset

theorem maybe_prints {x : Option Expr} (h : AllShowing r x) :
    Succeeds (fun text => MaybeWritten r.config.dialect text (Layout.optional x) ∧
      text.isSome = x.isSome)
      ((x.map r.item).mapM (·.sql)) := by
  cases x with
  | none => exact .pure ⟨.none, rfl⟩
  | some e => exact (optional_shown h e rfl).prints.bind fun _ htext => .pure ⟨.some htext, rfl⟩

theorem limit_prints {limit : Option (Limit Expr)} (h : AllShowing r limit)
    (hwords : ∀ l ∈ limit, ∀ word ∈ l.fetchSuffix, Plain r.config.dialect.quoting word) :
    Prints r.config.dialect (r.limit (limit.map (·.map r.item)))
      (limit.toList.flatMap (Layout.limit r.config.dialect)) := by
  cases limit with
  | none => exact .pure .empty
  | some l =>
    rw [AllShowing, slots_some, slots_limit, Slot.all_cons, Slot.all_append] at h
    refine (maybe_prints h.2.1).bind fun count hcount => ?_
    refine (maybe_prints h.2.2).bind fun offset hoffset => .pure ?_
    rw [Option.toList_some, List.flatMap_singleton]
    exact limitText_written hcount.1 hcount.2 hoffset.1 (hwords l rfl)

end Limits

/-! ## Queries -/

section Queries

theorem cte_prints (hr : r.Standard opening closing) {c : Cte Expr} (h : AllShowing r c) :
    Prints r.config.dialect (r.cte (c.map r.item)) (Layout.cte c) := by
  have hbody : Showing r c.body := (Slot.all_append.mp h).2 _ (List.mem_singleton_self _) c.body rfl
  obtain ⟨name, columns, body, recursive⟩ := c
  have hname : Written r.config.dialect (r.ident name) [] := .plain (.name hr.delimiters name)
  refine (subquery_prints hbody).bind fun text htext => .pure ?_
  cases columns with
  | none => exact (hname.trailed .empty).between (w := " AS ") (by decide) rfl rfl htext
  | some names =>
    have hcolumns := Trailing.inParens (Written.plainCommas (hr.idents_plain names))
    exact (hname.trailed hcolumns).between (w := " AS ") (by decide) rfl rfl htext

theorem withClause_prints (hr : r.Standard opening closing) {withs : Option (List (Cte Expr))}
    (h : AllShowing r withs) :
    Prints r.config.dialect (r.withClause (withs.map (·.map (·.map r.item))))
      ((withs.getD []).flatMap Layout.cte) := by
  rcases withs with _ | _ | ⟨c, cs⟩
  · exact .pure .empty
  · exact .pure .empty
  · rw [AllShowing, slots_some] at h
    have hctes : Succeeds (AllWritten r.config.dialect · ((c :: cs).map Layout.cte))
        (((c :: cs).map (·.map r.item)).mapM r.cte) := by
      rw [List.mapM_map]
      exact .mapM fun c hc => cte_prints hr (h.of_mem hc)
    refine hctes.bind fun texts htexts => .pure ?_
    rw [Option.getD_some, List.flatMap_def]
    refine (Written.commas htexts).clause ?_
    split <;> decide

/-- What of a SELECT is written as it is. -/
def Select.bareTexts (s : Select Expr) : List String :=
  (s.windows.getD []).flatMap fun w => w.name :: w.spec.bareTexts

/-- The columns that a SELECT from DUAL writes without delimiters. -/
def Select.bareColumns (s : Select Expr) : List (ColumnRef Expr) :=
  match s.columns with
  | .all => []
  | .list items =>
    if (s.tables.bind List.head?).any Table.isDual
      then items.filterMap (·.expr.unqualified?) else []

theorem select_prints (hr : r.Standard opening closing) {s : Select Expr} (h : AllShowing r s)
    (hs : s.Shaped r.config.dialect.quoting) (hwhole : AllWhole r.config.dialect s.bareTexts)
    (hbare : ∀ c ∈ s.bareColumns, c.Bare r.config.dialect) :
    Prints r.config.dialect (r.select (s.map r.item)) (Layout.select r.config.dialect s) := by
  simp only [AllShowing, slots_select, Slot.all_append, Slot.all_optionals] at h
  obtain ⟨⟨⟨⟨⟨⟨⟨⟨hwiths, hcolumns⟩, htables⟩, hcondition⟩, hgroupBy⟩, hhaving⟩, hwindows⟩, horder⟩,
      hlimit⟩ := h
  have hgroups : Prints r.config.dialect (optionally Render.groupBy (s.groupBy.map (·.map r.item)))
      (Layout.parts (s.groupBy.getD [])) := by
    cases hcase : s.groupBy with
    | none => exact .pure .empty
    | some es =>
      rw [hcase, slots_some] at hgroupBy
      exact (members_printed hgroupBy).bind fun _ htexts =>
        .pure ((Written.commaParts htexts).clause (w := "GROUP BY") (by decide))
  have hfilter : Prints r.config.dialect (optionally Render.having (s.having.map r.item))
      (Layout.optional s.having) := by
    cases hcase : s.having with
    | none => exact .pure .empty
    | some e =>
      exact clause_prints (w := "HAVING") (by decide) (optional_shown hhaving e hcase).prints
  have hwhere : Prints r.config.dialect (condition (s.condition.map r.item))
      (Layout.optional s.condition) := by
    cases hcase : s.condition with
    | none => exact .pure .empty
    | some e =>
      exact clause_prints (w := "WHERE") (by decide) (optional_shown hcondition e hcase).prints
  have hnamed :
      Prints r.config.dialect (optionally windowClause (s.windows.map (·.map (·.map r.item))))
      ((s.windows.getD []).flatMap fun w => Layout.window w.spec) := by
    cases hcase : s.windows with
    | none => exact .pure .empty
    | some ws =>
      rw [hcase, slots_some] at hwindows
      have hshaped := hs.windows
      rw [hcase] at hshaped
      refine clause_prints (w := "WINDOW") (by decide)
        (namedWindows_prints hwindows hshaped fun w hw text htext => ?_)
      refine hwhole text ?_
      rw [Select.bareTexts, hcase]
      exact List.mem_flatMap.mpr ⟨w, hw, htext⟩
  have hlist : Prints r.config.dialect (r.selectList (s.columns.map r.item)
      (s.tables.map (·.map (·.map r.item))))
      (Layout.columns s.columns) := by
    refine selectList_prints hr hcolumns fun hdual items hitems c hc => hbare c ?_
    simp only [Select.bareColumns, hitems, if_pos hdual]
    exact hc
  rw [select_clauses]
  refine hgroups.bind fun groups hgroups => hfilter.bind fun having hhaving =>
    hnamed.bind fun windows hwindows => ?_
  refine (withClause_prints hr hwiths).bind fun withs hwiths => hlist.bind fun list hlist => ?_
  refine (fromClause_prints hr htables hs.tables hs.first).bind fun tables htables =>
    hwhere.bind fun condition hcondition => ?_
  refine (orderBy_prints horder hs.order).bind fun order horder =>
    (limit_prints hlimit hs.limit).bind fun limit hlimit => ?_
  refine .pure ?_
  have hselect : Written r.config.dialect "SELECT" [] := .wording (by decide)
  have hdistinct := Written.onlyIf (d := r.config.dialect) (w := "DISTINCT") (by decide)
    (s.map r.item).distinct
  have hall := hwiths.fragment (hselect.fragment (hdistinct.fragment (hlist.fragment
    (htables.fragment (hcondition.fragment (hgroups.fragment (hhaving.fragment
    (hwindows.fragment (horder.fragment (hlimit.fragment .noFragments))))))))))
  simpa only [Layout.select, List.append_assoc, List.nil_append, List.append_nil] using hall

theorem chain_prints (hr : r.Standard opening closing) {operator : Option String}
    {ss : List (Select Expr)} (hoperator : Plain r.config.dialect.quoting (upper? operator))
    (h : AllShowing r ss) (hs : ∀ s ∈ ss, s.Shaped r.config.dialect.quoting)
    (hwhole : ∀ s ∈ ss, AllWhole r.config.dialect s.bareTexts)
    (hbare : ∀ s ∈ ss, ∀ c ∈ s.bareColumns, c.Bare r.config.dialect) :
    Succeeds (Trailing r.config.dialect · (ss.flatMap (Layout.select r.config.dialect)))
      (r.chain operator (ss.map (·.map r.item))) := by
  induction ss generalizing operator with
  | nil => exact .pure .empty
  | cons s ss ih =>
    rw [List.forall_mem_cons] at hs hwhole hbare
    have hword : Plain r.config.dialect.quoting (Text.upper (operator.getD "union")) := by
      cases operator with
      | none => exact .wording (by decide)
      | some operator => exact hoperator
    have hselect := select_prints hr (h.of_mem List.mem_cons_self) hs.1 hwhole.1 hbare.1
    have hchain := ih hs.1.operator (fun t ht => h t (List.mem_append_right _ ht))
      hs.2 hwhole.2 hbare.2
    refine hselect.bind fun text htext => hchain.bind fun more hmore => .pure ?_
    have hall := Trailing.append (.blank ((Written.plain hword).spaced htext)) hmore
    simpa only [String.append_assoc, List.nil_append, List.flatMap_cons] using hall

end Queries

end SqlWeave
