import SqlWeave.Proofs.Parser.ExprShapes
import SqlWeave.Proofs.Parser.QueryMakes

/-! What queries are read as, and with them all that nests. -/

namespace SqlWeave.Parser

open HasSlots (slots)
open Token (Kept Plain Quoting)
open Render (upper?)

variable {q : Quoting} {K : TokenKind → Prop} {i : Nested}

/-! ## Words -/

theorem joinSide_known : Makes K (· ∈ joinSides) joinSide := by
  refine .bind fun _ => .ite (.pure (by decide))
    (.bind fun _ => .ite (.pure (by decide)) (.bind fun k => ?_))
  split
  · exact .pure (by decide)
  · rename_i side hside
    have hknown : [side] ∈ joinSides ∧ [side, "OUTER"] ∈ joinSides := by
      unfold sideWord? at hside
      split at hside <;> cases hside <;> decide
    exact .bind fun _ => .bind fun _ => .ite (.pure hknown.2) (.pure hknown.1)

theorem join?_known : Makes K (fun x => ∀ words, x = some words → words ∈ joinWords) join? := by
  have hjoined {natural side : List String} (hnatural : natural = [] ∨ natural = ["NATURAL"])
      (hside : side ∈ joinSides) :
      " ".intercalate (natural ++ side ++ ["JOIN"]) ∈ joinWords := by
    refine List.mem_map.mpr ⟨natural ++ side, List.mem_append.mpr ?_, rfl⟩
    rcases hnatural with rfl | rfl
    · exact .inl hside
    · exact .inr (List.mem_map_of_mem hside)
  refine .bind fun _ => .ite (.pureBind ?_) (.pureBind ?_)
  · exact .andThen joinSide_known fun _ hside => .bind fun _ =>
      .ite (.pureSome (hjoined (.inr rfl) hside)) (.ite .pureNone .unexpected)
  · exact .andThen joinSide_known fun _ hside => .bind fun _ =>
      .ite (.pureSome (hjoined (.inl rfl) hside)) (.ite .pureNone .unexpected)

theorem setOperator?_shaped : Makes K (fun x => Plain q (upper? x)) setOperator? := by
  refine .bind fun k => ?_
  split
  · exact .pure .empty
  · rename_i operator hoperator
    have hwords : ∀ word ∈ [operator, operator ++ " all", operator ++ " distinct"],
        word.toList.all Token.isWording = true := by
      unfold setWord? at hoperator
      split at hoperator <;> cases hoperator <;> decide
    have hplain {word : String} (h : word ∈ [operator, operator ++ " all",
        operator ++ " distinct"]) :
        Plain q (upper? (some word)) := .upper (hwords word h)
    refine .bind fun _ => .bind fun _ => .ite (.pure (hplain (by simp))) (.bind fun _ => ?_)
    exact .ite (.pure (hplain (by simp))) (.pure (hplain (by simp)))

/-! ## Clauses -/

namespace Nested.Shaped

section Clauses

variable (h : i.Shaped q)
include h

theorem columns : Makes (Kept q) (AllShaped q) i.columns := by
  have hcolumn : Makes (Kept q) (AllShaped q) i.column :=
    .andThen (h.expr 0) fun _ he => .bind fun _ => .pure (allShaped_expr.mpr he)
  have hstar : AllShaped q Expr.star := allShaped_expr.mpr star_shaped
  refine .bind fun _ => .ite (.bind fun _ => .bind fun _ => .ite ?_ (.pure Slot.all_nil)) ?_
  · refine .andThen (Makes.commaSeparated hcolumn) fun cs hcs => .pure ?_
    exact allShaped_list.mpr (List.forall_mem_cons.mpr ⟨hstar, hcs.2⟩)
  · exact .andThen (Makes.commaSeparated hcolumn) fun cs hcs => .pure (allShaped_list.mpr hcs.2)

theorem condition? : Makes (Kept q) (fun x => ∀ e ∈ x, e.Shaped q) i.condition? :=
  .bind fun _ => .ite (.andThen (h.expr 0) fun _ he => .pureSome he) .pureNone

/-- A table by itself: it joins nothing. -/
abbrev IsFactor (q : Quoting) (t : Table Expr) : Prop :=
  t.Shaped q ∧ t.join = none ∧ t.condition = none ∧ t.usingColumns = none

omit h in
theorem isFactor {t : Table Expr} (hdual : t.isDual = true → t.expr = none) (hjoin : t.join = none)
    (hcondition : t.condition = none) (husing : t.usingColumns = none) : IsFactor q t :=
  ⟨⟨hdual, hjoin ▸ .empty, fun _ => ⟨hcondition, husing⟩⟩, hjoin, hcondition, husing⟩

omit h in
theorem derived_shaped {e : Expr} (he : e.Shaped q) (aliasName : Option String) :
    ShapedPart q (IsFactor q) { Table.derived e with aliasName } := by
  refine ⟨isFactor (fun hdual => nomatch hdual) rfl rfl rfl,
    Slot.all_append.mpr ⟨Slot.all_append.mpr ⟨?_, ?_⟩, ?_⟩⟩
  · exact Slot.all_cons.mpr ⟨by rintro _ ⟨⟩; exact he, Slot.all_nil⟩
  · exact Slot.all_nil
  · exact Slot.all_nil

theorem tableFactor : Makes (Kept q) (ShapedPart q (IsFactor q)) i.tableFactor := by
  refine .bind fun _ => .ite ?_ (.bind fun _ => .ite (.pure ?_) ?_)
  · refine .andThen h.parenthesizedQuery fun x hx => .bind fun _ => .pure (derived_shaped ?_ _)
    exact Expr.shaped_mk.mpr ⟨hx.1.1, hx.2⟩
  · exact ⟨isFactor (fun _ => rfl) rfl rfl rfl, Slot.all_nil⟩
  · refine .bind fun _ => .bind fun _ => .ite ?_ ?_
    · exact .andThen (h.callOf _) fun e he => .bind fun _ => .pure (derived_shaped he _)
    · have hnamed (db schema name aliasName : Option String) :
          ShapedPart q (IsFactor q) { db, schema, table := name, aliasName } :=
        ⟨isFactor (fun hdual => nomatch hdual) rfl rfl rfl, Slot.all_nil⟩
      have htable (names : List String) :
          Makes (Kept q) (fun t => ∃ db schema name, t = { db, schema, table := name })
          (tableOf names) := .bind fun _ => .pure ⟨_, _, _, rfl⟩
      refine .andThen (htable _) fun table ht => .bind fun aliasName => ?_
      obtain ⟨db, schema, name, rfl⟩ := ht
      split
      · exact .bind fun _ => .pure (hnamed db schema name _)
      · exact .pure (hnamed db schema name _)

theorem joinedTable {join : String} (hjoin : join ∈ joinWords) :
    Makes (Kept q) (ShapedPart q (Table.Shaped q)) (i.joinedTable join) := by
  have hwords : ∀ words ∈ joinWords, words.toList.all Token.isWording = true := by decide +kernel
  refine .andThen h.tableFactor fun table ht => .bind fun _ => ?_
  obtain ⟨⟨hshaped, -, hcondition, husing⟩, hslots⟩ := ht
  obtain ⟨hsource, -⟩ := Slot.all_append.mp hslots
  obtain ⟨hsource, -⟩ := Slot.all_append.mp hsource
  have hpart (condition : Option Expr) (usingColumns : Option (List String))
      (hc : ∀ e ∈ condition, e.Shaped q) :
      ShapedPart q (Table.Shaped q) { table with join := some join, condition, usingColumns } := by
    refine ⟨⟨hshaped.dual, .upper (hwords join hjoin), fun h => nomatch h⟩,
      Slot.all_append.mpr ⟨?_, Slot.all_nameLists⟩⟩
    exact Slot.all_append.mpr ⟨hsource, Slot.all_optionals.mpr (allShaped_option.mpr hc)⟩
  refine .ite (.andThen (h.expr 0) fun e he => .pure (hpart _ _ (by rintro _ ⟨⟩; exact he)))
    (.bind fun _ => .ite ?_ ?_)
  · exact .bind fun names => .pure (hpart _ _ (by simp [hcondition]))
  · exact .pure (hpart _ _ (by simp [hcondition]))

theorem moreTables (n : Nat) :
    Makes (Kept q) (fun ts => ∀ t ∈ ts, t.Shaped q ∧ AllShaped q t) (i.moreTables n) := by
  induction n with
  | zero => exact .outOfRounds
  | succ n ih =>
    refine .bind fun _ => .ite ?_ (.andThen join?_known fun join hjoin => ?_)
    · refine .andThen h.tableFactor fun t ht => .andThen ih fun ts hts => .pure ?_
      exact List.forall_mem_cons.mpr ⟨⟨ht.1.1, ht.2⟩, hts⟩
    · cases join with
      | none => exact .pure (List.forall_mem_nil _)
      | some join =>
        refine .andThen (h.joinedTable (hjoin join rfl)) fun t ht => .andThen ih fun ts hts =>
          .pure ?_
        exact List.forall_mem_cons.mpr ⟨ht, hts⟩

/-- A list of tables starts with one that joins nothing. -/
abbrev IsTables (q : Quoting) (ts : List (Table Expr)) : Prop :=
  (∀ t ∈ ts.head?, t.join = none) ∧ ∀ t ∈ ts, t.Shaped q

theorem tableList : Makes (Kept q) (ShapedPart q (IsTables q)) i.tableList := by
  refine .andThen h.tableFactor fun first hfirst => .bind fun n =>
    .andThen (h.moreTables n) fun more hmore => .pure ?_
  obtain ⟨⟨hshaped, hjoin, -⟩, hslots⟩ := hfirst
  refine ⟨⟨by rintro _ ⟨⟩; exact hjoin,
    List.forall_mem_cons.mpr ⟨hshaped, fun t ht => (hmore t ht).1⟩⟩, ?_⟩
  exact allShaped_list.mpr (List.forall_mem_cons.mpr ⟨hslots, fun t ht => (hmore t ht).2⟩)

theorem tables? : Makes (Kept q) (ShapedPart q fun ts => IsTables q (ts.getD [])) i.tables? := by
  refine .bind fun _ => .ite (.andThen h.tableList fun ts hts => .pure ⟨hts.1, ?_⟩) (.pure ?_)
  · rw [AllShaped, slots_some]
    exact hts.2
  · exact ⟨⟨fun _ ht => absurd ht (Option.not_mem_none _), List.forall_mem_nil _⟩, Slot.all_nil⟩

theorem groupBy? : Makes (Kept q) (AllShaped q) i.groupBy? := by
  refine .bind fun _ => .ite (.bind fun _ => .andThen h.exprs fun es hes => .pure ?_)
    (.pure Slot.all_nil)
  rw [AllShaped, slots_some]
  exact allShaped_exprs.mpr hes

theorem having? : Makes (Kept q) (fun x => ∀ e ∈ x, e.Shaped q) i.having? :=
  .bind fun _ => .ite (.andThen (h.expr 0) fun _ he => .pureSome he) .pureNone

theorem windows? :
    Makes (Kept q) (ShapedPart q fun ws => ∀ w ∈ ws.getD [], w.spec.Shaped q) i.windows? := by
  have hwindow : Makes (Kept q) (ShapedPart q fun w => w.spec.Shaped q) i.namedWindow :=
    .bind fun _ => .bind fun _ => .andThen h.windowSpec fun _ hw => .pure hw
  refine .bind fun _ => .ite (.andThen (Makes.commaSeparated hwindow) fun ws hws => .pure ⟨?_, ?_⟩)
    (.pure ?_)
  · exact fun w hw => (hws.2 w hw).1
  · rw [AllShaped, slots_some]
    exact allShaped_list.mpr fun w hw => (hws.2 w hw).2
  · exact ⟨List.forall_mem_nil _, Slot.all_nil⟩

/-! ## Limits -/

/-- All that may stand after the count of FETCH. -/
def fetchPhrases : List (List String) := ["ROWS", "ONLY"] :: fetchSuffixes

abbrev IsLimit (q : Quoting) (l : Limit Expr) : Prop := ∀ word ∈ l.fetchSuffix, Plain q word

omit h in
theorem withFetchSuffix_plain {words : List String} (hwords : words ∈ fetchPhrases)
    (l : Limit Expr) :
    IsLimit q (l.withFetchSuffix words) := by
  have hall : ∀ words ∈ fetchPhrases, ∀ word ∈ (words.flatMap Text.words).map Text.asciiUpper,
      word.toList.all Token.isWording = true := by decide +kernel
  intro word hword
  refine .wording (hall words hwords word ?_)
  simp only [Limit.withFetchSuffix] at hword
  split at hword
  · cases hword
  · exact hword

omit h in
theorem limit_slots {l : Limit Expr} (hcount : ∀ e ∈ l.count, e.Shaped q)
    (hoffset : ∀ e ∈ l.offset, e.Shaped q) :
    AllShaped q l :=
  Slot.all_cons.mpr ⟨fun _ he => (nomatch he), Slot.all_append.mpr
    ⟨allShaped_option.mpr hcount, allShaped_option.mpr hoffset⟩⟩

theorem fetch : Makes (Kept q) (fun x => x.1.Shaped q ∧ x.2 ∈ fetchPhrases) i.fetch := by
  have hphrases : ["ROWS", "ONLY"] ∈ fetchPhrases ∧ ["ROWS", "WITH", "TIES"] ∈ fetchPhrases ∧
      ["PERCENT", "ROWS", "ONLY"] ∈ fetchPhrases ∧
        ["PERCENT", "ROWS", "WITH", "TIES"] ∈ fetchPhrases := by decide
  obtain ⟨honly, hties, hpercent, hboth⟩ := hphrases
  refine .bind fun _ => .andThen (h.expr 0) fun e he => .bind fun _ =>
    .ite (.pureBind ?_) (.pureBind ?_)
  · exact .bind fun _ => .bind fun _ =>
      .ite (.bind fun _ => .pure ⟨he, hboth⟩) (.bind fun _ => .pure ⟨he, hpercent⟩)
  · exact .bind fun _ => .bind fun _ =>
      .ite (.bind fun _ => .pure ⟨he, hties⟩) (.bind fun _ => .pure ⟨he, honly⟩)

theorem limitAfterWord : Makes (Kept q) (ShapedPart q (IsLimit q)) i.limitAfterWord := by
  have hone {e : Expr} (he : e.Shaped q) : ∀ e' ∈ some e, e'.Shaped q := by rintro _ ⟨⟩; exact he
  have hnone : ∀ e ∈ (none : Option Expr), e.Shaped q := fun _ he => nomatch he
  refine .andThen (h.expr 0) fun first hfirst => .bind fun _ =>
    .ite ?_ (.bind fun _ => .ite ?_ (.pure ?_))
  · refine .andThen (h.expr 0) fun count hcount => .pure ⟨List.forall_mem_nil _, ?_⟩
    exact limit_slots (hone hcount) (hone hfirst)
  · refine .andThen (h.expr 0) fun offset hoffset => .pure ⟨List.forall_mem_nil _, ?_⟩
    exact limit_slots (hone hfirst) (hone hoffset)
  · exact ⟨List.forall_mem_nil _, limit_slots (hone hfirst) hnone⟩

theorem offsetAfterWord : Makes (Kept q) (ShapedPart q (IsLimit q)) i.offsetAfterWord := by
  have hone {e : Expr} (he : e.Shaped q) : ∀ e' ∈ some e, e'.Shaped q := by rintro _ ⟨⟩; exact he
  refine .andThen (h.expr 0) fun offset hoffset => .bind fun _ => .bind fun _ => .ite ?_ (.pure ?_)
  · refine .andThen h.fetch fun fetched hfetched => .pure ⟨withFetchSuffix_plain hfetched.2 _, ?_⟩
    exact limit_slots (hone hfetched.1) (hone hoffset)
  · exact ⟨List.forall_mem_nil _, limit_slots (fun _ he => nomatch he) (hone hoffset)⟩

theorem limit? : Makes (Kept q) (ShapedPart q fun l => ∀ l' ∈ l, IsLimit q l') i.limit? := by
  have hsome {l : Limit Expr} (hl : ShapedPart q (IsLimit q) l) :
      ShapedPart q (fun l => ∀ l' ∈ l, IsLimit q l') (some l) := by
    refine ⟨by rintro _ ⟨⟩; exact hl.1, ?_⟩
    rw [AllShaped, slots_some]
    exact hl.2
  refine .bind fun _ => .ite (.andThen h.limitAfterWord fun l hl => .pure (hsome hl))
    (.bind fun _ => ?_)
  refine .ite (.andThen h.offsetAfterWord fun l hl => .pure (hsome hl))
    (.bind fun _ => .ite ?_ (.pure ?_))
  · refine .andThen h.fetch fun fetched hfetched =>
      .pure (hsome ⟨withFetchSuffix_plain hfetched.2 _, ?_⟩)
    exact limit_slots (by rintro _ ⟨⟩; exact hfetched.1) fun _ he =>
      absurd he (Option.not_mem_none _)
  · exact ⟨fun _ hl => absurd hl (Option.not_mem_none _), Slot.all_nil⟩

/-! ## Queries -/

theorem cte (recursive : Bool) : Makes (Kept q) (AllShaped q) (i.cte recursive) := by
  refine .bind fun _ => .bind fun _ => .bind fun _ =>
    .ite (.bind fun names => .pureBind ?listed) (.pureBind ?bare)
  all_goals
    refine .bind fun _ => .bind fun _ => .andThen h.parenthesizedQuery fun x hx => .pure ?_
    have hbody : (Expr.query x).Shaped q := Expr.shaped_mk.mpr ⟨hx.1.1, hx.2⟩
    exact Slot.all_append.mpr ⟨Slot.all_nameLists, allShaped_expr.mpr hbody⟩

theorem withClause : Makes (Kept q) (AllShaped q) i.withClause :=
  .bind fun _ => .bind fun recursive => (Makes.commaSeparated (h.cte recursive)).mono fun _ hcs =>
    allShaped_list.mpr hcs.2

theorem selectCore {withs : Option (List (Cte Expr))} (hwiths : AllShaped q withs) :
    Makes (Kept q) (ShapedPart q fun s => s.Shaped q ∧ s.parens = false) (i.selectCore withs) := by
  refine .bind fun _ => .bind fun _ => .andThen h.columns fun columns hcolumns => ?_
  refine .andThen h.tables? fun tables htables =>
    .andThen h.condition? fun condition hcondition => ?_
  refine .andThen h.groupBy? fun groupBy hgroupBy => .andThen h.having? fun having hhaving => ?_
  refine .andThen h.windows? fun windows hwindows => .andThen h.orderBy? fun orderBy horderBy => ?_
  refine .andThen h.limit? fun limit hlimit => .pure ⟨⟨?_, rfl⟩, ?_⟩
  · exact ⟨htables.1.1, htables.1.2, hwindows.1, horderBy.1, hlimit.1, .empty⟩
  · have hconditions := Slot.all_optionals.mpr (allShaped_option.mpr hcondition)
    have hhavings := Slot.all_optionals.mpr (allShaped_option.mpr hhaving)
    simp only [AllShaped, slots_select, Slot.all_append]
    exact ⟨⟨⟨⟨⟨⟨⟨⟨hwiths, hcolumns⟩, htables.2⟩, hconditions⟩, hgroupBy⟩, hhavings⟩, hwindows.2⟩,
      horderBy.2⟩, hlimit.2⟩

theorem selectChain {withs : Option (List (Cte Expr))} (hwiths : AllShaped q withs) :
    Makes (Kept q) (ShapedPart q fun x => x.Shaped q ∧ x.parens = false) (i.selectChain withs) := by
  refine .andThen (h.selectCore hwiths) fun head hhead =>
    .andThen (setOperator?_shaped (q := q)) fun operator hoperator => ?_
  obtain ⟨⟨hshaped, hparens⟩, hslots⟩ := hhead
  cases operator with
  | none =>
    refine .pure ⟨⟨⟨List.forall_mem_singleton.mpr hshaped, List.forall_mem_nil _⟩, hparens⟩, ?_⟩
    exact Slot.all_append.mpr ⟨hslots, Slot.all_nil⟩
  | some operator =>
    refine .andThen h.query fun next hnext => .pure ⟨⟨⟨?_, ?_⟩, hparens⟩, ?_⟩
    · refine List.forall_mem_cons.mpr ⟨?_, hnext.1.1.selects⟩
      exact ⟨hshaped.first, hshaped.tables, hshaped.windows, hshaped.order, hshaped.limit,
        hoperator⟩
    · exact List.forall_mem_cons.mpr ⟨hnext.1.2, hnext.1.1.parens⟩
    · exact Slot.all_append.mpr ⟨hslots, hnext.2⟩

theorem readQuery :
    Makes (Kept q) (ShapedPart q fun x => x.Shaped q ∧ x.parens = false) i.readQuery := by
  refine .withVerb (.bind fun _ => .ite ?_ (.pureBind (h.selectChain Slot.all_nil)))
  refine .andThen h.withClause fun withs hwiths => .pureBind (h.selectChain ?_)
  rw [AllShaped, slots_some]
  exact hwiths

end Clauses

end Nested.Shaped

/-! ## All that nests -/

theorem nested_shaped (n : Nat) : (nested n).Shaped q := by
  induction n with
  | zero => exact {
      expr := fun _ => .unexpected
      operand := .unexpected
      primary := .unexpected
      query := .unexpected
      dataType := .unexpected }
  | succ n ih => exact {
      expr := ih.readExpr
      operand := ih.readOperand
      primary := ih.readPrimary
      query := ih.readQuery
      dataType := ih.readDataType }

end SqlWeave.Parser
