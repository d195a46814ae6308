import SqlWeave.Proofs.Render.Agreement

/-! The two modes of rendering. Best effort always has a text, and a strict rendering either has the
same one or fails with the kind of some unknown node of the tree. -/

namespace SqlWeave

open HasSlots (slots)
open Render

/-! ## Nodes -/

namespace Renderings

variable {p : Renderings}

theorem call_alike (name : String) (suffix : Option String) :
    p.Alike fun _ f (x : Option Expr × Option (WindowSpec Expr)) =>
      call name (x.1.map f) (x.2.map (·.map f)) suffix := by
  rintro ⟨args, w⟩ h
  rw [slots_pair, Slot.all_append] at h
  have hover := over?_alike w h.2
  cases args with
  | none => exact hover.bind fun _ => .pure _
  | some e =>
    exact (callArgs_alike e (slots_some e ▸ h.1)).bind fun _ => hover.bind fun _ => .pure _

theorem windowCall_alike (name : String) :
    p.Alike fun _ f (x : Option Expr × WindowSpec Expr) =>
      windowCall name (x.1.map f) (x.2.map f) := by
  rintro ⟨args, w⟩ h
  rw [slots_pair, Slot.all_append] at h
  have hover := overClause_alike w h.2
  cases args with
  | none => exact hover.bind fun _ => .pure _
  | some e =>
    exact (callArgs_alike e (slots_some e ▸ h.1)).bind fun _ => hover.bind fun _ => .pure _

theorem case_alike :
    p.Alike fun _ f (x : Option Expr × List (CaseArm Expr)) =>
      Render.case (x.1.map f) (x.2.map (·.map f)) := by
  have harm : p.Alike fun _ f (a : CaseArm Expr) => caseArm (a.map f) := by
    rintro (⟨condition, result⟩ | result) h
    · have hcondition := (h (.expr condition) (by simp [CaseArm.slots]) _ rfl).sql
      have hresult := (h (.expr result) (by simp [CaseArm.slots]) _ rfl).sql
      exact hcondition.bind fun _ => hresult.bind fun _ => .pure _
    · exact (h _ List.mem_cons_self _ rfl).sql.bind fun _ => .pure _
  rintro ⟨subject, arms⟩ h
  rw [slots_pair, Slot.all_append] at h
  have harms := list_alike (k := fun f a => a.map f) (w := fun _ => caseArm) harm arms h.2
  cases subject with
  | none => exact harms.bind fun _ => .pure _
  | some e => exact (sql_alike e (slots_some e ▸ h.1)).bind fun _ => harms.bind fun _ => .pure _

theorem subscript_alike :
    p.Alike fun _ f (x : Expr × List Expr) => subscript (f x.1) (x.2.map f) := by
  rintro ⟨⟨n⟩, indices⟩ h
  rw [slots_pair, Slot.all_append] at h
  have hsql := sql_alike _ h.1
  have hindices := sqls_alike indices h.2
  cases n with
  | column c =>
    obtain ⟨db, schema, table, column, collate, parens⟩ := c
    cases column <;> exact hindices.bind fun _ => .pure _
  | _ => exact hsql.bind fun _ => hindices.bind fun _ => .pure _

theorem flattenArg_alike (name : String) :
    p.Alike fun _ f (e : Option Expr) => flattenArg name (e.map f) := by
  rintro (_ | e) h
  · exact .pure _
  · exact (sql_alike e (slots_some e ▸ h)).bind fun _ => .pure _

theorem fullText_alike (matchWord againstWord mode : Option String) :
    p.Alike fun r f (x : List (ColumnRef Expr) × Expr) =>
      standardFullText r.config matchWord (x.1.map (·.map f)) againstWord (f x.2) mode := by
  rintro ⟨columns, phrase⟩ h
  rw [slots_pair, Slot.all_append] at h
  refine (list_alike (k := fun f c => c.map f) (w := fun r => standardColumnRef r.config)
    columnRef_alike columns
    h.1).bind fun _ => ?_
  exact (sql_alike phrase h.2).bind fun _ => .pure _

/-! ## Nodes without a rule -/

variable {made made' : Expr → Rendered}

theorem bareColumnRef_beside (d : Dialect) (c : ColumnRef Expr) :
    bareColumnRef d (c.map (beside made)) = bareColumnRef d (c.map (beside made')) := by
  obtain ⟨db, schema, table, column, collate, parens⟩ := c
  cases column <;> rfl

theorem bareFullText_beside (matchWord : Option String) (columns : List (ColumnRef Expr))
    (againstWord : Option String) :
    bareFullText matchWord (columns.map (·.map (beside made))) againstWord =
      bareFullText matchWord (columns.map (·.map (beside made'))) againstWord := by
  have hnames (made : Expr → Rendered) :
      (columns.map (·.map (beside made))).map
        (fun c => (c.column.map Prod.fst).text?.getD "column") =
        columns.map fun c => c.column.text?.getD "column" := by
    rw [List.map_map]
    refine List.map_congr_left fun c _ => ?_
    obtain ⟨db, schema, table, column, collate, parens⟩ := c
    cases column <;> rfl
  unfold bareFullText
  rw [hnames, hnames]

theorem bareColumnDefinition_beside (d : Dialect) (c : ColumnDefinition Expr) :
    bareColumnDefinition d (c.map (beside made)) =
      bareColumnDefinition d (c.map (beside made')) := by
  obtain ⟨⟨db, schema, table, column, collate, parens⟩, type, nullable, defaultValue, autoIncrement,
    unique, primaryKey, comment, collate'⟩ := c
  cases column <;> rfl

end Renderings

/-- The registered rules are the standard ones. -/
def Registry.IsStandard (g : Registry) : Prop :=
  ∀ c rules, g.resolve c = some rules → rules = .standard

namespace Renderings

variable {p : Renderings}

/-- A rule that is registered, or else the fallback. -/
theorem ruled {rules : Option ColumnRules} {s l : ColumnRules → Result String} {bare bare' : String}
    (h : Agrees p.unknowns (s .standard) (l .standard)) (hbare : bare = bare') :
    (∀ x, rules = some x → x = .standard) →
      Agrees p.unknowns (match rules with | some rules => s rules | none => return bare)
        (match rules with | some rules => l rules | none => return bare') := by
  subst hbare
  intro hrules
  cases rules with
  | none => exact .pure _
  | some rules =>
    obtain rfl := hrules rules rfl
    exact h

theorem node_agrees (hg : p.registry.IsStandard) {n : Node Expr} (h : Slot.All p.AgreeOn n.slots)
    (hunknown : ∀ v, n = .unknown v → p.unknowns v) :
    Agrees p.unknowns (p.strictly.node (n.map (beside p.strict)))
      (p.leniently.node (n.map (beside p.lenient))) := by
  cases n with
  | column c =>
    exact ruled (s := fun rules => rules.columnRef p.strictly.config (c.map (beside p.strict)))
      (l := fun rules => rules.columnRef p.leniently.config (c.map (beside p.lenient)))
        (columnRef_alike c h)
      (bareColumnRef_beside _ c) (hg .columnRef)
  | fullText matchWord columns againstWord phrase mode =>
    exact ruled
      (s := fun rules => rules.fullText p.strictly.config matchWord
        (columns.map (·.map (beside p.strict)))
        againstWord (beside p.strict phrase) mode)
      (l := fun rules => rules.fullText p.leniently.config matchWord
        (columns.map (·.map (beside p.lenient)))
        againstWord (beside p.lenient phrase) mode)
      (fullText_alike matchWord againstWord mode (columns, phrase) h)
      (bareFullText_beside matchWord columns againstWord) (hg .fullText)
  | columnDefinition c =>
    exact ruled (s := fun rules => rules.columnDefinition p.strictly.config
      (c.map (beside p.strict)))
      (l := fun rules => rules.columnDefinition p.leniently.config (c.map (beside p.lenient)))
      (columnDefinition_alike c h) (bareColumnDefinition_beside _ c) (hg .columnDefinition)
  | wrapped e => exact sql_alike e h
  | binary op l r parens =>
    have hl := (h.expr (e := l) List.mem_cons_self).sql
    have hr := rightSide_alike (operatorText op) r
      (.of_expr (h.expr (List.mem_cons_of_mem _ List.mem_cons_self)))
    exact (hl.bind fun _ => hr.bind fun _ => .pure _).bind fun _ => .pure _
  | unary op e parens => exact ((sql_alike e h).bind fun _ => .pure _).bind fun _ => .pure _
  | call name args w suffix parens =>
    have hslots : Slot.All p.AgreeOn (slots (args, w)) :=
      Slot.all_append.mpr ((Slot.all_append.mp h).imp_left Slot.all_optionals.mp)
    exact (call_alike name suffix (args, w) hslots).bind fun _ => .pure _
  | aggregate name arg distinct order separator w parens =>
    obtain ⟨⟨horder, hseparator⟩, hw⟩ :
        (Slot.All p.AgreeOn (slots order) ∧ Slot.All p.AgreeOn (slots separator)) ∧
        Slot.All p.AgreeOn (slots w) := by
      simpa only [Slot.all_append, Slot.all_optionals] using (Slot.all_cons.mp h).2
    have harg := callArgs_alike arg (.of_expr (h.expr List.mem_cons_self))
    refine .bind ?_ fun _ => .pure _
    refine harg.bind fun _ => (orderBy_alike order horder).bind fun _ => ?_
    exact (optional_alike "SEPARATOR" separator hseparator).bind fun _ =>
      (over?_alike w hw).bind fun _ => .pure _
  | cast keyword e symbol target parens =>
    have htarget := dataType_alike target (Slot.all_cons.mp h).2
    refine .bind ?_ fun _ => .pure _
    exact (h.expr List.mem_cons_self).sql.bind fun _ => htarget.bind fun _ =>
      .ite (.pure _) (.pure _)
  | case subject arms parens =>
    have hslots : Slot.All p.AgreeOn (slots (subject, arms)) :=
      Slot.all_append.mpr ((Slot.all_append.mp h).imp_left Slot.all_optionals.mp)
    exact (case_alike (subject, arms) hslots).bind fun _ => .pure _
  | windowCall name args w =>
    have hslots : Slot.All p.AgreeOn (slots (args, w)) :=
      Slot.all_append.mpr ((Slot.all_append.mp h).imp_left Slot.all_optionals.mp)
    exact windowCall_alike name (args, w) hslots
  | subscript base indices => exact subscript_alike (base, indices) h
  | list items separator parens => exact (sqls_alike items h).bind fun _ => .pure _
  | query q => exact query_alike q h
  | mapLiteral keyword entries =>
    have hpair : p.Alike fun _ f (x : Expr × Expr) => pair (f x.1, f x.2) := fun x hx =>
      (hx.expr (e := x.1) (by simp [slots])).sql.bind fun _ =>
        (hx.expr (e := x.2) (by simp [slots])).sql.bind fun _ => .pure _
    exact (list_alike (k := fun f x => (f x.1, f x.2)) (w := fun _ => pair) hpair entries h).bind
      fun _ => .pure _
  | interval amount unit => exact (sql_alike amount h).bind fun _ => .ite (.pure _) (.pure _)
  | extract field source => exact (sql_alike source h).bind fun _ => .pure _
  | collate operand name symbol =>
    rcases operand with _ | e
    · exact .pure _
    · exact (h _ List.mem_cons_self e rfl).sql.bind fun _ => .pure _
  | dataType t => exact dataType_alike t h
  | assign l symbol r =>
    have hl := (h.expr (e := l) List.mem_cons_self).sql
    have hr := (h.expr (e := r) (List.mem_cons_of_mem _ List.mem_cons_self)).sql
    exact hl.bind fun _ => hr.bind fun _ => .ite (.pure _) (.pure _)
  | array keyword brackets items =>
    exact (sqls_alike items h).bind fun _ => .ite (.pure _) (.pure _)
  | struct keyword items =>
    refine (sqls_alike items h).bind fun _ => ?_
    cases keyword <;> exact .pure _
  | lambda params body =>
    refine (sql_alike body h).bind fun _ => ?_
    rcases params with _ | ⟨param, _ | ⟨other, params⟩⟩ <;> exact .pure _
  | unnest e => exact (sql_alike e h).bind fun _ => .pure _
  | json keyword items => exact (sqls_alike items h).bind fun _ => .pure _
  | jsonStep symbol e => exact (sql_alike e h).bind fun _ => .pure _
  | jsonMember key value onNull =>
    have hkey := (h.expr (e := key) List.mem_cons_self).sql
    have hvalue := (h.expr (e := value) (List.mem_cons_of_mem _ List.mem_cons_self)).sql
    refine hkey.bind fun _ => hvalue.bind fun _ => ?_
    rcases onNull with _ | e
    · exact .pure _
    · have hmem : Slot.optional e ∈ (Node.jsonMember key value (some e)).slots :=
        List.mem_cons_of_mem _ (List.mem_cons_of_mem _ List.mem_cons_self)
      have he := (h _ hmem e rfl).sql
      exact he.bind fun _ => .pure _
  | anyValue arg w =>
    have harg := callArgs_alike arg (.of_expr (h.expr List.mem_cons_self))
    exact harg.bind fun _ => (over?_alike w (Slot.all_cons.mp h).2).bind fun _ => .pure _
  | flatten input path outer recursive mode =>
    obtain ⟨h, hmode⟩ := Slot.all_append.mp h
    obtain ⟨h, hrecursive⟩ := Slot.all_append.mp h
    obtain ⟨h, houter⟩ := Slot.all_append.mp h
    obtain ⟨hinput, hpath⟩ := Slot.all_append.mp h
    refine (flattenArg_alike "INPUT" input (Slot.all_optionals.mp hinput)).bind fun _ => ?_
    refine (flattenArg_alike "PATH" path (Slot.all_optionals.mp hpath)).bind fun _ => ?_
    refine (flattenArg_alike "OUTER" outer (Slot.all_optionals.mp houter)).bind fun _ => ?_
    refine (flattenArg_alike "RECURSIVE" recursive (Slot.all_optionals.mp hrecursive)).bind fun _ =>
      ?_
    exact (flattenArg_alike "MODE" mode (Slot.all_optionals.mp hmode)).bind fun _ => .pure _
  | tableCall name args aliasName =>
    have hargs := callArgs_alike args (.of_expr (h.expr List.mem_cons_self))
    refine hargs.bind fun _ => ?_
    rcases aliasName with _ | e
    · exact .pure _
    · have he := (h (.optional e) (List.mem_cons_of_mem _ List.mem_cons_self) e rfl).sql
      exact he.bind fun _ => .pure _
  | namedArg name symbol value => exact (h _ List.mem_cons_self value rfl).sql.bind fun _ => .pure _
  | windows ws => exact namedWindows_alike ws h
  | insert i => exact insert_alike "INSERT" i h
  | tables ts => exact tables_alike ts h
  | unknown v => exact ⟨literal v, rfl, .inr ⟨v, hunknown v rfl, rfl⟩⟩
  | «variable» | showing | number | text | bool | null | star => exact .pure _

/-! ## Statements -/

theorem update_alike : p.Alike fun r f (u : Update Expr) => r.update (u.map f) := by
  intro u h
  simp only [slots_update, Slot.all_append, Slot.all_optionals] at h
  obtain ⟨⟨⟨⟨⟨⟨⟨hwiths, htables⟩, hassignments⟩, hsource⟩, hcondition⟩, horder⟩, hlimit⟩,
      hreturning⟩ := h
  refine (withClause_alike u.withs hwiths).bind fun _ => ?_
  refine (tables_alike u.tables htables).bind fun _ => ?_
  refine (assignments_alike u.assignments hassignments).bind fun _ => ?_
  refine (fromClause_alike u.source hsource).bind fun _ => ?_
  refine (condition_alike u.condition hcondition).bind fun _ => ?_
  refine (orderBy_alike u.orderBy horder).bind fun _ => ?_
  refine (limit_alike u.limit hlimit).bind fun _ => ?_
  exact (returning_alike u.returning hreturning).bind fun _ => .pure _

theorem deleteTarget_alike (source : Option (List (Table Expr))) :
    p.Alike fun r f (c : Column Expr) =>
      r.deleteTarget (c.map f) (source.map (·.map (·.map f))) := by
  rintro ⟨⟨n⟩, aliasName⟩ h
  have hcolumns := columns_alike source (.list [⟨.mk n, aliasName⟩])
    (by simpa [slots, Columns.slots] using h)
  cases n with
  | column ref =>
    obtain ⟨db, schema, table, column, collate, parens⟩ := ref
    cases table with
    | some table => exact .pure _
    | none => cases column <;> exact .pure _
  | _ => exact hcolumns.bind fun _ => .pure _

theorem deleteTargets_alike : p.Alike fun r f (x : Delete Expr) => r.deleteTargets (x.map f) := by
  rintro ⟨withs, columns, targets, source, condition, orderBy, limit, returning⟩ h
  simp only [slots_delete, Slot.all_append] at h
  obtain ⟨⟨⟨⟨⟨⟨⟨-, hcolumns⟩, htargets⟩, -⟩, -⟩, -⟩, -⟩, -⟩ := h
  have hfiltered : Agrees p.unknowns
      (p.strictly.tables ((((targets.map (·.map (·.map (beside p.strict)))).getD []).filter
        (!·.addition))))
      (p.leniently.tables ((((targets.map (·.map (·.map (beside p.lenient)))).getD []).filter
        (!·.addition)))) := by
    have hkept (made : Expr → Rendered) (ts : List (Table Expr)) :
        (ts.map (·.map (beside made))).filter (!·.addition) =
          (ts.filter (!·.addition)).map (·.map (beside made)) := by
      rw [List.filter_map]
      rfl
    cases targets with
    | none => exact .pure _
    | some ts =>
      rw [slots_some] at htargets
      simp only [Option.map_some, Option.getD_some, hkept]
      exact tables_alike _ fun s hs e he => by
        obtain ⟨t, ht, hs⟩ := List.mem_flatMap.mp hs
        exact htargets.of_mem (List.mem_filter.mp ht |>.1) s hs e he
  rcases columns with _ | _ | ⟨c, cs⟩
  · exact hfiltered
  · exact hfiltered
  · rw [slots_some] at hcolumns
    exact (Agrees.mapM_map fun c hc => deleteTarget_alike source c (hcolumns.of_mem hc)).bind
      fun _ => .pure _

theorem delete_alike : p.Alike fun r f (x : Delete Expr) => r.delete (x.map f) := by
  intro x h
  have htargets := deleteTargets_alike x h
  simp only [slots_delete, Slot.all_append, Slot.all_optionals] at h
  obtain ⟨⟨⟨⟨⟨⟨⟨hwiths, -⟩, hnamed⟩, hsource⟩, hcondition⟩, horder⟩, hlimit⟩, hreturning⟩ := h
  have hfrom : Agrees p.unknowns
      (p.strictly.fromClause ((x.map (beside p.strict)).source <|>
        (x.map (beside p.strict)).targets))
      (p.leniently.fromClause ((x.map (beside p.lenient)).source <|>
        (x.map (beside p.lenient)).targets)) := by
    obtain ⟨withs, columns, targets, source, condition, orderBy, limit, returning⟩ := x
    cases source with
    | none => exact fromClause_alike targets hnamed
    | some ts => exact fromClause_alike (some ts) hsource
  have hrest (targets : String) :=
    (withClause_alike x.withs hwiths).bind fun withs => hfrom.bind fun source =>
    (condition_alike x.condition hcondition).bind fun condition =>
      (orderBy_alike x.orderBy horder).bind fun order =>
    (limit_alike x.limit hlimit).bind fun limit =>
      (returning_alike x.returning hreturning).bind fun returning =>
    show Agrees p.unknowns _ _ from
      .pure (fragments [withs, "DELETE", targets, source, condition, order, limit, returning])
  exact .ite (htargets.bind hrest) ((Agrees.pure "").bind hrest)

theorem create_alike : p.Alike fun r f (c : Create Expr) => r.create (c.map f) := by
  rintro ⟨keyword, orReplace, temporary, ifNotExists, tables, database, definitions, options,
    query⟩ h
  simp only [slots_create, Slot.all_append, Slot.all_optionals] at h
  obtain ⟨⟨htables, hdefinitions⟩, hquery⟩ := h
  refine .bind ?_ fun _ => ?_
  · rcases tables with _ | _ | ⟨t, ts⟩
    · cases database <;> exact .pure _
    · cases database <;> exact .pure _
    · rw [slots_some] at htables
      cases database <;> exact tables_alike (t :: ts) htables
  · have hlast := optional_alike "AS" query hquery
    rcases definitions with _ | _ | ⟨e, es⟩
    · exact hlast.bind fun _ => .pure _
    · exact hlast.bind fun _ => .pure _
    · rw [slots_some] at hdefinitions
      exact (sqls_alike (e :: es) hdefinitions).bind fun _ => hlast.bind fun _ => .pure _

/-- DROP writes names only. -/
theorem drop_map (r : Renderer) (f : Expr → Item) (x : Drop Expr) :
    r.drop (x.map f) = r.drop x := by
  unfold Renderer.drop
  rw [show (x.map f).names = x.names.map (·.map f) from rfl, List.map_map]
  rfl

theorem statement_agrees {s : Statement Expr} (h : Slot.All p.AgreeOn s.slots) :
    Agrees p.unknowns (p.strictly.statementOf (s.map (beside p.strict)))
      (p.leniently.statementOf (s.map (beside p.lenient))) := by
  cases s with
  | select q => exact query_alike q h
  | insert i => exact insert_alike "INSERT" i h
  | replace i => exact insert_alike "REPLACE" i h
  | update u => exact update_alike u h
  | delete x => exact delete_alike x h
  | create c => exact create_alike c h
  | drop x =>
    show Agrees p.unknowns (Pure.pure (p.strictly.drop (x.map _)))
        (Pure.pure (p.leniently.drop (x.map _)))
    rw [drop_map, drop_map]
    exact .pure _
  | showing keyword => exact .pure _

end Renderings

/-! ## Whole trees -/

section Modes

variable (d : Dialect) (g : Registry)

def Renderer.strictly : Renderer := ⟨⟨d, .strict⟩, g⟩

def Renderer.leniently : Renderer := ⟨⟨d, .bestEffort⟩, g⟩

/-- The two modes in a dialect, for a tree with these unknown nodes. -/
def Renderings.ofModes (unknowns : Json → Prop) : Renderings where
  dialect := d
  registry := g
  strict := (Renderer.strictly d g).rendered
  lenient := (Renderer.leniently d g).rendered
  unknowns := unknowns

variable {d g}

theorem Renderings.AgreeOn.mono {unknowns more : Json → Prop} {e : Expr}
    (h : (ofModes d g unknowns).AgreeOn e) (hmore : ∀ v, unknowns v → more v) :
    (ofModes d g more).AgreeOn e :=
  ⟨h.sql.mono hmore, h.members.mono hmore⟩

/-- The text of an expression is that of its node. -/
theorem Renderer.rendered_mk (r : Renderer) (n : Node Expr) :
    r.rendered (.mk n) = ⟨r.node (n.map r.item), members (n.map r.item)⟩ := Expr.fold_mk r.algebra n

theorem Renderings.agreeOn (hg : g.IsStandard) (e : Expr) :
    (ofModes d g fun v => e.Holds (.value v)).AgreeOn e := by
  induction e using Expr.slot_induction with
  | step n ih =>
    have hslots : Slot.All (ofModes d g fun v => (Expr.mk n).Holds (.value v)).AgreeOn n.slots :=
      fun s hs e he => (ih s hs e he).mono fun v hv => .inside hs he hv
    constructor
    · show Agrees _ ((Renderer.strictly d g).rendered (.mk n)).sql
          ((Renderer.leniently d g).rendered (.mk n)).sql
      rw [Renderer.rendered_mk, Renderer.rendered_mk]
      exact node_agrees hg hslots fun v hv => .here (hv ▸ List.mem_cons_self)
    · show Agrees _ ((Renderer.strictly d g).rendered (.mk n)).members
          ((Renderer.leniently d g).rendered (.mk n)).members
      rw [Renderer.rendered_mk, Renderer.rendered_mk]
      cases n with
      | list items => exact sqls_alike items hslots
      | _ => exact .pure _

theorem Renderings.exprList_agrees (hg : g.IsStandard) (e : Expr) :
    Agrees (fun v => e.Holds (.value v)) ((Renderer.strictly d g).exprList e)
      ((Renderer.leniently d g).exprList e) := by
  have he := agreeOn (d := d) hg e
  obtain ⟨n⟩ := e
  cases n with
  | list items separator parens =>
    rcases separator with _ | separator <;> cases parens
    · exact he.members
    all_goals exact he.sql.bind fun _ => .pure _
  | _ => exact he.sql.bind fun _ => .pure _

theorem Renderings.script_agrees (hg : g.IsStandard) (script : Script Expr) :
    Agrees (fun v => script.HoldsSlot (.value v)) ((Renderer.strictly d g).script script)
      ((Renderer.leniently d g).script script) := by
  have hstatement (s : Statement Expr) (hs : s ∈ script.statements) :
      Slot.All (ofModes d g fun v => script.HoldsSlot (.value v)).AgreeOn s.slots :=
    fun t ht e he => (agreeOn hg e).mono fun v hv => ⟨s, hs, .inr ⟨t, ht, e, he, hv⟩⟩
  have htexts : Agrees (fun v => script.HoldsSlot (.value v))
      ((script.statements.map id).mapM (Renderer.strictly d g).statement)
      ((script.statements.map id).mapM (Renderer.leniently d g).statement) :=
    .mapM_map fun s hs => statement_agrees (hstatement s hs)
  rw [List.map_id] at htexts
  exact htexts.bind fun _ => .pure _

end Modes

/-- What can be said of the two modes, for a tree with these unknown nodes. -/
structure ModesAgree {α : Type} (unknowns : Json → Prop) (strict lenient : Result α) : Prop where
  total : ∃ a, lenient = .ok a
  same : ∀ a, strict = .ok a → lenient = .ok a
  complete : (∀ v, ¬ unknowns v) → ∃ a, strict = .ok a
  fault : ∀ error, strict = .error error → ∃ v, unknowns v ∧ error = .unrenderable v.kind

theorem Agrees.modesAgree {α : Type} {unknowns : Json → Prop} {strict lenient : Result α}
    (h : Agrees unknowns strict lenient) : ModesAgree unknowns strict lenient := by
  obtain ⟨a, rfl, hstrict⟩ := h
  refine ⟨⟨a, rfl⟩, fun b hb => ?_, fun hnone => ?_, fun error herror => ?_⟩
  · rcases hstrict with rfl | ⟨v, -, rfl⟩
    · exact hb
    · cases hb
  · rcases hstrict with rfl | ⟨v, hv, -⟩
    · exact ⟨a, rfl⟩
    · exact absurd hv (hnone v)
  · rcases hstrict with rfl | ⟨v, hv, rfl⟩
    · cases herror
    · exact ⟨v, hv, (Except.error.inj herror).symm⟩

/-- With standard rules or none, best effort writes every tree, and strictly a tree is written the
same way or fails with the kind of one of its unknown nodes. -/
theorem render_modes_agree (d : Dialect) {g : Registry} (hg : g.IsStandard) :
    (∀ e : Expr, ModesAgree (fun v => e.Holds (.value v)) ((Renderer.strictly d g).expr e)
        ((Renderer.leniently d g).expr e)) ∧
      (∀ e : Expr, ModesAgree (fun v => e.Holds (.value v)) ((Renderer.strictly d g).exprList e)
        ((Renderer.leniently d g).exprList e)) ∧
      ∀ script : Script Expr, ModesAgree (fun v => script.HoldsSlot (.value v))
        ((Renderer.strictly d g).script script)
        ((Renderer.leniently d g).script script) :=
  ⟨fun e => (Renderings.agreeOn hg e).sql.modesAgree,
    fun e => (Renderings.exprList_agrees hg e).modesAgree, fun script =>
      (Renderings.script_agrees hg script).modesAgree⟩

/-- A column compared with a node of a kind that is not known. -/
def customComparison : Expr :=
  (Expr.column "a").binary "=" (.mk
    (.unknown (.object [("type", .string "custom"), ("value", .number (.int 1))])))

theorem render_modes_agree_custom :
    (Renderer.strictly .mySql (Registry.empty.register .columnRef .standard)).expr
      customComparison =
        .error (.unrenderable "custom") ∧
      (∃ text, (Renderer.leniently .mySql (Registry.empty.register .columnRef .standard)).expr
        customComparison = .ok text) ∧
      ∃ v, customComparison.Holds (.value v) ∧ v.kind = "custom" := by
  have hstandard : (Registry.empty.register .columnRef .standard).IsStandard := by
    rintro (_ | _ | _) rules hrules
    · exact (Option.some.inj hrules).symm
    · cases hrules
    · cases hrules
  have hagree := (render_modes_agree .mySql hstandard).1 customComparison
  have hstrict : (Renderer.strictly .mySql (Registry.empty.register .columnRef .standard)).expr
      customComparison =
      .error (.unrenderable "custom") := rfl
  obtain ⟨v, hv, hkind⟩ := hagree.fault _ hstrict
  exact ⟨hstrict, hagree.total, v, hv, (RenderError.unrenderable.inj hkind).symm⟩

end SqlWeave
