import SqlWeave.Proofs.Tree.Slot
import SqlWeave.Render.Statement

/-! Strict and best-effort rendering beside each other. They differ at unknown nodes only, where the
strict one fails with the kind of the node: either both write the same text, or the strict one fails
at some unknown node of the tree. -/

namespace SqlWeave

open HasSlots (slots)
open Render (Result Item Rendered)

/-! ## Two results -/

/-- Best effort has a result, and strictly there is the same one, or a failure at a value of
`unknowns`. -/
def Agrees {α : Type} (unknowns : Json → Prop) (strict lenient : Result α) : Prop :=
  ∃ a, lenient = .ok a ∧ (strict = .ok a ∨ ∃ v, unknowns v ∧ strict = .error (.unrenderable v.kind))

namespace Agrees

variable {α β γ : Type} {unknowns : Json → Prop}

theorem pure (a : α) : Agrees unknowns (Pure.pure a) (Pure.pure a) := ⟨a, rfl, .inl rfl⟩

theorem bind {x y : Result α} {f g : α → Result β} (hx : Agrees unknowns x y)
    (hf : ∀ a, Agrees unknowns (f a) (g a)) : Agrees unknowns (x >>= f) (y >>= g) := by
  obtain ⟨a, rfl, hstrict⟩ := hx
  obtain ⟨b, hb, hnext⟩ := hf a
  refine ⟨b, hb, ?_⟩
  rcases hstrict with rfl | ⟨v, hv, rfl⟩
  · exact hnext
  · exact .inr ⟨v, hv, rfl⟩

theorem mapM_map {xs : List α} {k l : α → β} {f g : β → Result γ}
    (h : ∀ x ∈ xs, Agrees unknowns (f (k x)) (g (l x))) :
    Agrees unknowns ((xs.map k).mapM f) ((xs.map l).mapM g) := by
  induction xs with
  | nil => exact .pure []
  | cons x xs ih =>
    rw [List.map_cons, List.map_cons, List.mapM_cons, List.mapM_cons]
    refine (h x List.mem_cons_self).bind fun a => ?_
    exact (ih fun y hy => h y (List.mem_cons_of_mem x hy)).bind fun as => .pure (a :: as)

theorem ite {c : Prop} [Decidable c] {x y x' y' : Result α} (hx : Agrees unknowns x x')
    (hy : Agrees unknowns y y') : Agrees unknowns (if c then x else y) (if c then x' else y') := by
  split
  · exact hx
  · exact hy

theorem mono {more : Json → Prop} {x y : Result α} (h : Agrees unknowns x y)
    (hmore : ∀ v, unknowns v → more v) :
    Agrees more x y := by
  obtain ⟨a, hy, hx | ⟨v, hv, hx⟩⟩ := h
  · exact ⟨a, hy, .inl hx⟩
  · exact ⟨a, hy, .inr ⟨v, hmore v hv, hx⟩⟩

end Agrees

/-! ## Two renderings -/

/-- What a strict and a best-effort rendering in one dialect make of every expression. -/
structure Renderings where
  dialect : Dialect
  registry : Registry
  strict : Expr → Rendered
  lenient : Expr → Rendered
  unknowns : Json → Prop

namespace Renderings

variable (p : Renderings)

def strictly : Renderer := ⟨⟨p.dialect, .strict⟩, p.registry⟩

def leniently : Renderer := ⟨⟨p.dialect, .bestEffort⟩, p.registry⟩

/-- An expression beside what is made of it. -/
def beside (made : Expr → Rendered) (e : Expr) : Item := (e, made e)

/-- The two texts of an expression agree, and so do those of its members if it is a list. -/
structure AgreeOn (e : Expr) : Prop where
  sql : Agrees p.unknowns (p.strict e).sql (p.lenient e).sql
  members : Agrees p.unknowns (p.strict e).members (p.lenient e).members

/-- What renders parts of trees has two results that agree wherever those of the subexpressions
do. -/
def Alike {α β : Type} [SizeOf α] [HasSlots α]
    (f : Renderer → (Expr → Item) → α → Result β) : Prop :=
  ∀ x : α, Slot.All p.AgreeOn (slots x) →
    Agrees p.unknowns (f p.strictly (beside p.strict) x) (f p.leniently (beside p.lenient) x)

end Renderings

namespace Render

open Renderings (Alike)

variable {p : Renderings}

/-! ## Expressions by themselves -/

theorem agreeOn_expr {e : Expr} (h : Slot.All p.AgreeOn (slots e)) : p.AgreeOn e :=
  h _ List.mem_cons_self _ rfl

theorem sql_alike : p.Alike fun _ f (e : Expr) => (f e).sql := fun _ h => (agreeOn_expr h).sql

theorem sqls_alike : p.Alike fun _ f (es : List Expr) => sqls (es.map f) :=
  fun _ h => .mapM_map fun e he => sql_alike e (h.of_mem he)

theorem list_alike {α β : Type} [SizeOf α] [HasSlots α] {k : (Expr → Item) → α → β}
    {w : Renderer → β → Result String} (h : p.Alike fun r f x => w r (k f x)) :
    p.Alike fun r f (xs : List α) => (xs.map (k f)).mapM (w r) :=
  fun _ hxs => .mapM_map fun x hx => h x (hxs.of_mem hx)

theorem subquery_alike : p.Alike fun _ f (e : Expr) => subquery (f e) := by
  rintro ⟨n⟩ h
  have hsql := sql_alike _ h
  cases n with
  | query q => exact .ite hsql (hsql.bind fun _ => .pure _)
  | list => exact hsql
  | _ => exact hsql.bind fun _ => .pure _

theorem callArgs_alike : p.Alike fun _ f (e : Expr) => callArgs (f e) := by
  rintro ⟨n⟩ h
  have hsql := sql_alike _ h
  cases n with
  | list items separator parens =>
    cases separator with
    | none => exact (agreeOn_expr h).members.bind fun _ => .pure _
    | some separator => exact hsql
  | _ => exact hsql

theorem rightSide_alike (operator : String) :
    p.Alike fun _ f (e : Expr) => rightSide operator (f e) := by
  rintro ⟨n⟩ h
  have hsql := sql_alike _ h
  have hmembers := (agreeOn_expr h).members
  cases n with
  | list items separator parens =>
    exact .ite (hmembers.bind fun _ => .pure _) (.ite (hmembers.bind fun _ => .pure _) hsql)
  | query q => exact .ite (hsql.bind fun _ => .pure _) hsql
  | _ => exact hsql

theorem row_alike : p.Alike fun _ f (e : Expr) => Renderer.row (f e) := by
  rintro ⟨n⟩ h
  cases n with
  | list => exact (agreeOn_expr h).members.bind fun _ => .pure _
  | _ => exact (sql_alike _ h).bind fun _ => .pure _

theorem optional_alike (keyword : String) :
    p.Alike fun _ f (e : Option Expr) => optional keyword (e.map f) := by
  rintro (_ | e) h
  · exact .pure _
  · exact (sql_alike e (slots_some e ▸ h)).bind fun _ => .pure _

/-! ## Columns, types and windows -/

theorem columnName_alike :
    p.Alike fun r f (c : ColumnName Expr) => columnName r.config.dialect (c.map f) := by
  rintro (_ | text | ⟨⟨n⟩⟩) h
  · exact .pure _
  · exact .pure _
  · have hsql := sql_alike _ h
    cases n with
    | text kind value parens => exact .ite (.pure _) hsql
    | _ => exact hsql

theorem columnRef_alike :
    p.Alike fun r f (c : ColumnRef Expr) => standardColumnRef r.config (c.map f) :=
  fun c h => (columnName_alike c.column h).bind fun _ => .pure _

theorem dataType_alike : p.Alike fun _ f (t : DataType Expr) => dataType (t.map f) :=
  fun t h => .ite (.pure _) ((sqls_alike t.args h).bind fun _ => .pure _)

theorem columnDefinition_alike :
    p.Alike fun r f (c : ColumnDefinition Expr) => standardColumnDefinition r.config (c.map f) := by
  intro c h
  simp only [slots_columnDefinition, Slot.all_append, Slot.all_wrappings] at h
  obtain ⟨⟨⟨hcolumn, htype⟩, hdefault⟩, hcomment⟩ := h
  refine (optional_alike "DEFAULT" c.defaultValue hdefault).bind fun _ => ?_
  refine (optional_alike "COMMENT" c.comment hcomment).bind fun _ => ?_
  refine (columnName_alike c.column.column hcolumn).bind fun _ => ?_
  exact (dataType_alike c.type htype).bind fun _ => .pure _

theorem orderBy_alike :
    p.Alike fun _ f (is : Option (List (OrderItem Expr))) =>
      orderBy (is.map (·.map (·.map f))) := by
  have hitem : p.Alike fun _ f (i : OrderItem Expr) => orderItem (i.map f) :=
    fun i hi => (sql_alike i.expr hi).bind fun _ => .pure _
  rintro (_ | is) h
  · exact .pure _
  · exact (list_alike (k := fun f i => i.map f) (w := fun _ => orderItem) hitem is
      (slots_some is ▸ h)).bind fun _ => .pure _

theorem partitionBy_alike :
    p.Alike fun _ f (is : Option (List (OrderItem Expr))) =>
      partitionBy (is.map (·.map (·.map f))) := by
  have hitem : p.Alike fun _ f (i : OrderItem Expr) => (i.map f).expr.sql :=
    fun i hi => sql_alike i.expr hi
  rintro (_ | is) h
  · exact .pure _
  · exact (list_alike (k := fun f i => i.map f) (w := fun _ i => i.expr.sql) hitem is
      (slots_some is ▸ h)).bind fun _ => .pure _

theorem windowSpec_alike : p.Alike fun _ f (w : WindowSpec Expr) => windowSpec (w.map f) := by
  rintro ⟨_ | name, partition, order, frame⟩ h
  · simp only [slots_windowSpec, Slot.all_append] at h
    refine (partitionBy_alike partition h.1).bind fun _ => ?_
    exact (orderBy_alike order h.2).bind fun _ => .pure _
  · exact .pure _

theorem overClause_alike : p.Alike fun _ f (w : WindowSpec Expr) => overClause (w.map f) :=
  fun w h => (windowSpec_alike w h).bind fun _ => .pure _

theorem over?_alike :
    p.Alike fun _ f (w : Option (WindowSpec Expr)) => over? (w.map (·.map f)) := by
  rintro (_ | w) h
  · exact .pure _
  · exact (overClause_alike w (slots_some w ▸ h)).bind fun _ => .pure _

theorem namedWindows_alike :
    p.Alike fun _ f (ws : List (NamedWindow Expr)) => namedWindows (ws.map (·.map f)) := by
  have hwindow : p.Alike fun _ f (w : NamedWindow Expr) => namedWindow (w.map f) :=
    fun w h => (windowSpec_alike w.spec h).bind fun _ => .pure _
  exact fun ws h => (list_alike hwindow ws h).bind fun _ => .pure _

/-! ## Clauses -/

theorem condition_alike : p.Alike fun _ f (e : Option Expr) => condition (e.map f) := by
  rintro (_ | e) h
  · exact .pure _
  · exact (sql_alike e (slots_some e ▸ h)).bind fun _ => .pure _

theorem withClause_alike :
    p.Alike fun r f (cs : Option (List (Cte Expr))) => r.withClause (cs.map (·.map (·.map f))) := by
  have hcte : p.Alike fun r f (c : Cte Expr) => r.cte (c.map f) := by
    intro c h
    simp only [slots_cte, Slot.all_append] at h
    exact (subquery_alike c.body h.2).bind fun _ => .pure _
  rintro (_ | _ | ⟨c, cs⟩) h
  · exact .pure _
  · exact .pure _
  · exact (list_alike hcte (c :: cs) (slots_some (c :: cs) ▸ h)).bind fun _ => .pure _

theorem table_alike : p.Alike fun r f (t : Table Expr) => r.table (t.map f) := by
  rintro ⟨db, schema, table, expr, aliasName, join, condition, usingColumns, addition, kind⟩ h
  simp only [slots_table, Slot.all_append, Slot.all_optionals] at h
  obtain ⟨⟨hexpr, -⟩, -⟩ := h
  refine .ite (.pure _) ?_
  rcases expr with _ | ⟨⟨n⟩⟩
  · cases aliasName <;> exact .pure _
  · rw [slots_some] at hexpr
    have hsql := sql_alike _ hexpr
    have hsubquery := subquery_alike _ hexpr
    cases n with
    | query q => cases aliasName <;> exact hsubquery.bind fun _ => .pure _
    | _ => cases aliasName <;> exact hsql.bind fun _ => .pure _

theorem joinCondition_alike : p.Alike fun r f (t : Table Expr) => r.joinCondition (t.map f) := by
  rintro ⟨db, schema, table, expr, aliasName, join, condition, usingColumns, addition, kind⟩ h
  simp only [slots_table, Slot.all_append, Slot.all_optionals] at h
  obtain ⟨⟨-, hcondition⟩, -⟩ := h
  cases condition with
  | some e => exact (sql_alike e (slots_some e ▸ hcondition)).bind fun _ => .pure _
  | none => cases usingColumns <;> exact .pure _

theorem laterTable_alike : p.Alike fun r f (t : Table Expr) => r.laterTable (t.map f) := by
  intro t h
  refine (table_alike t h).bind fun _ => ?_
  have hcondition := joinCondition_alike t h
  obtain ⟨db, schema, table, expr, aliasName, join, condition, usingColumns, addition, kind⟩ := t
  cases join with
  | none => exact .pure _
  | some join => exact hcondition.bind fun _ => .pure _

theorem tables_alike : p.Alike fun r f (ts : List (Table Expr)) => r.tables (ts.map (·.map f)) := by
  rintro (_ | ⟨t, ts⟩) h
  · exact .pure _
  · rw [slots_cons, Slot.all_append] at h
    refine (table_alike t h.1).bind fun _ => ?_
    exact (list_alike laterTable_alike ts h.2).bind fun _ => .pure _

theorem fromClause_alike :
    p.Alike fun r f (ts : Option (List (Table Expr))) =>
      r.fromClause (ts.map (·.map (·.map f))) := by
  rintro (_ | _ | ⟨t, ts⟩) h
  · exact .pure _
  · exact .pure _
  · exact (tables_alike (t :: ts) (slots_some (t :: ts) ▸ h)).bind fun _ => .pure _

theorem column_alike (dual : Bool) :
    p.Alike fun r f (c : Column Expr) => r.column dual (c.map f) := by
  rintro ⟨⟨n⟩, aliasName⟩ h
  have hsql := sql_alike _ h
  cases n with
  | column ref =>
    obtain ⟨db, schema, table, column, collate, parens⟩ := ref
    cases hdual : dual && table.isNone <;> cases column <;> cases aliasName
    all_goals simp only [Renderer.column, Column.map, Renderings.beside, Expr.node, hdual]
    all_goals first | exact .pure _ | exact hsql.bind fun _ => .pure _
  | _ => cases aliasName <;> exact hsql.bind fun _ => .pure _

/-- Whether a FROM list is DUAL does not depend on its expressions. -/
theorem isDual_map (f : Expr → Item) (ts : Option (List (Table Expr))) :
    ((ts.map (·.map (·.map f))).bind List.head?).any Table.isDual =
      (ts.bind List.head?).any Table.isDual := by
  rcases ts with _ | _ | ⟨t, ts⟩ <;> rfl

theorem columns_alike (ts : Option (List (Table Expr))) :
    p.Alike fun r f (cs : Columns Expr) => r.columns (cs.map f) (ts.map (·.map (·.map f))) := by
  rintro (_ | items) h
  · exact .pure _
  · have hcolumns := list_alike (column_alike ((ts.bind List.head?).any Table.isDual)) items h
    simp only [Renderer.columns, Columns.map, isDual_map]
    exact hcolumns

theorem selectList_alike (ts : Option (List (Table Expr))) :
    p.Alike fun r f (cs : Columns Expr) => r.selectList (cs.map f) (ts.map (·.map (·.map f))) := by
  intro cs h
  have hcolumns := columns_alike ts cs h
  cases cs with
  | all => exact .pure _
  | list items => exact hcolumns.bind fun _ => .pure _

theorem returning_alike :
    p.Alike fun r f (cs : Option (Columns Expr)) => r.returning (cs.map (·.map f)) := by
  rintro (_ | cs) h
  · exact .pure _
  · exact (selectList_alike none cs (slots_some cs ▸ h)).bind fun _ => .pure _

theorem assignments_alike :
    p.Alike fun r f (as : List (Assignment Expr)) => r.assignments (as.map (·.map f)) := by
  have hassignment : p.Alike fun r f (a : Assignment Expr) => r.assignment (a.map f) :=
    fun a h => (sql_alike a.value h).bind fun _ => .pure _
  exact fun as h => (list_alike hassignment as h).bind fun _ => .pure _

theorem limit_alike : p.Alike fun r f (l : Option (Limit Expr)) => r.limit (l.map (·.map f)) := by
  have hvalue : p.Alike fun _ f (e : Option Expr) => (e.map f).mapM (·.sql) := by
    rintro (_ | e) h
    · exact .pure _
    · exact (sql_alike e (slots_some e ▸ h)).bind fun _ => .pure _
  rintro (_ | l) h
  · exact .pure _
  · rw [slots_some, slots_limit, Slot.all_cons, Slot.all_append] at h
    refine (hvalue l.count h.2.1).bind fun _ => ?_
    exact (hvalue l.offset h.2.2).bind fun _ => .pure _

/-! ## Queries and insertions -/

/-- The text of a clause that may be absent. -/
def optionally {α : Type} (write : α → Result String) : Option α → Result String
  | none => return ""
  | some a => write a

def groupBy (items : List Item) : Result String := return clause "GROUP BY" (commas (← sqls items))

def having (i : Item) : Result String := return clause "HAVING" (← i.sql)

def windowClause (ws : List (NamedWindow Item)) : Result String :=
  return clause "WINDOW" (← namedWindows ws)

/-- The clauses of a SELECT, one after the other. -/
theorem select_clauses (r : Renderer) (s : Select Item) : r.select s = (do
    let groupBy ← optionally groupBy s.groupBy
    let having ← optionally having s.having
    let windows ← optionally windowClause s.windows
    let withs ← r.withClause s.withs
    let list ← r.selectList s.columns s.tables
    let tables ← r.fromClause s.tables
    let condition ← condition s.condition
    let order ← orderBy s.orderBy
    let limit ← r.limit s.limit
    return fragments [
      withs, "SELECT", onlyIf s.distinct "DISTINCT", list, tables, condition, groupBy, having,
      windows, order, limit]) := by
  unfold Renderer.select
  cases s.groupBy <;> cases s.having <;> cases s.windows <;>
    simp only [optionally, groupBy, having, windowClause, bind_assoc, pure_bind]

theorem optionally_alike {α β : Type} [SizeOf α] [HasSlots α] {k : (Expr → Item) → α → β}
    {write : β → Result String} (h : p.Alike fun _ f x => write (k f x)) :
    p.Alike fun _ f (x : Option α) => optionally write (x.map (k f)) := by
  rintro (_ | x) hx
  · exact .pure _
  · exact h x (slots_some x ▸ hx)

theorem select_alike : p.Alike fun r f (s : Select Expr) => r.select (s.map f) := by
  intro s h
  simp only [slots_select, Slot.all_append, Slot.all_optionals] at h
  obtain ⟨⟨⟨⟨⟨⟨⟨⟨hwiths, hcolumns⟩, htables⟩, hcondition⟩, hgroupBy⟩, hhaving⟩, hwindows⟩, horder⟩,
      hlimit⟩ := h
  have hgroups : p.Alike fun _ f (es : List Expr) => groupBy (es.map f) :=
    fun es hes => (sqls_alike es hes).bind fun _ => .pure _
  have hfilter : p.Alike fun _ f (e : Expr) => having (f e) :=
    fun e he => (sql_alike e he).bind fun _ => .pure _
  have hnamed : p.Alike fun _ f (ws : List (NamedWindow Expr)) => windowClause (ws.map (·.map f)) :=
    fun ws hws => (namedWindows_alike ws hws).bind fun _ => .pure _
  simp only [select_clauses]
  refine (optionally_alike hgroups s.groupBy hgroupBy).bind fun _ => ?_
  refine (optionally_alike hfilter s.having hhaving).bind fun _ => ?_
  refine (optionally_alike hnamed s.windows hwindows).bind fun _ => ?_
  refine (withClause_alike s.withs hwiths).bind fun _ => ?_
  refine (selectList_alike s.tables s.columns hcolumns).bind fun _ => ?_
  refine (fromClause_alike s.tables htables).bind fun _ => ?_
  refine (condition_alike s.condition hcondition).bind fun _ => ?_
  refine (orderBy_alike s.orderBy horder).bind fun _ => ?_
  exact (limit_alike s.limit hlimit).bind fun _ => .pure _

theorem chain_alike (operator : Option String) :
    p.Alike fun r f (ss : List (Select Expr)) => r.chain operator (ss.map (·.map f)) := by
  intro ss h
  induction ss generalizing operator with
  | nil => exact .pure _
  | cons s ss ih =>
    rw [slots_cons, Slot.all_append] at h
    exact (select_alike s h.1).bind fun _ => (ih s.setOperator h.2).bind fun _ => .pure _

theorem query_alike : p.Alike fun r f (q : Query Expr) => r.query (q.map f) := by
  intro q h
  rw [slots_query, Slot.all_append] at h
  refine (select_alike q.head h.1).bind fun _ => ?_
  exact (chain_alike q.head.setOperator q.rest h.2).bind fun _ => .pure _

theorem insertSource_alike :
    p.Alike fun _ f (s : Option (InsertSource Expr)) =>
      Renderer.insertSource (s.map (·.map f)) := by
  rintro (_ | rows | q) h
  · exact .pure _
  · exact (list_alike (k := fun f => f) (w := fun _ => Renderer.row) row_alike rows
      (slots_some (InsertSource.rows rows) ▸ h)).bind fun _ => .pure _
  · rw [slots_some] at h
    exact (h _ List.mem_cons_self q rfl).sql

theorem insert_alike (verb : String) :
    p.Alike fun r f (i : Insert Expr) => r.insert verb (i.map f) := by
  rintro ⟨tables, columns, source, into, onDuplicate, returning⟩ h
  simp only [slots_insert, Slot.all_append] at h
  obtain ⟨⟨⟨⟨htables, -⟩, hsource⟩, honDuplicate⟩, hreturning⟩ := h
  refine (insertSource_alike source hsource).bind fun _ => ?_
  have hrest := tables_alike tables htables
  have hlast := returning_alike returning hreturning
  cases onDuplicate with
  | none => exact hrest.bind fun _ => hlast.bind fun _ => .pure _
  | some as =>
    refine (assignments_alike as (slots_some as ▸ honDuplicate)).bind fun _ => ?_
    exact hrest.bind fun _ => hlast.bind fun _ => .pure _

end Render

end SqlWeave
