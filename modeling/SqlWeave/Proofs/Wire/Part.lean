import SqlWeave.Proofs.Tree.Slot
import SqlWeave.Proofs.Wire.Field

/-! Reading back the parts of a tree. A part is read back if what stands in its slots is, and if
nothing there is written like something else. -/

namespace SqlWeave

open HasSlots (slots)
open Json (Fields)

/-! ## Slots -/

/-- There is something to limit, and the form in which it is written can tell all of it. -/
structure Limit.Settled {E : Type} (l : Limit E) : Prop where
  some : l.count.isSome ∨ l.offset.isSome
  comma : l.comma = true → l.count.isSome ∧ l.offset.isSome ∧ l.fetchSuffix = []
  suffix : l.fetchSuffix ≠ [] → l.count.isSome ∧ l.withFetchSuffix l.fetchSuffix = l

/-- What stands in the slot is not written like something else. -/
def Slot.Readable (c : Json → Json) : Slot → Prop
  | .expr _ | .argument _ => True
  | .optional e => c e.toJson ≠ .null
  | .wrapped e => c e.toJson ≠ .null ∧ ∀ fs, (c e.toJson).get? "value" ≠ some (.object fs)
  | .source e =>
    c e.toJson ≠ .null ∧ (∀ vs, c e.toJson ≠ .array vs) ∧ (c e.toJson).tag? ≠ some "values"
  | .name text => text ≠ "*"
  | .names list => list ≠ []
  | .limit l => l.Settled
  | .value v => c v = v ∧ v.hoist = v ∧ ∀ inner : Wire.Nested, v.tag?.bind inner.nodeRecord? = none

/-- The slots are readable, and `inner` reads the expressions in them. -/
def Ready (c : Json → Json) (depth : Nat) (inner : Wire.Nested) (ss : List Slot) : Prop :=
  ∀ s ∈ ss, s.Readable c ∧ ∀ e, s.expr? = some e → Recovers c depth inner.expr e.toJson e

variable {c : Json → Json} {depth : Nat} {inner : Wire.Nested}

@[simp] theorem ready_append {ss ts : List Slot} :
    Ready c depth inner (ss ++ ts) ↔ Ready c depth inner ss ∧ Ready c depth inner ts :=
  List.forall_mem_append

@[simp] theorem ready_cons {s : Slot} {ss : List Slot} :
    Ready c depth inner (s :: ss) ↔
      (s.Readable c ∧ ∀ e, s.expr? = some e → Recovers c depth inner.expr e.toJson e) ∧
        Ready c depth inner ss :=
  List.forall_mem_cons

@[simp] theorem ready_nil : Ready c depth inner [] := nofun

namespace Ready

section

variable {α : Type} [SizeOf α] [HasSlots α]

theorem of_mem {l : List α} (h : Ready c depth inner (slots l)) {x : α} (hx : x ∈ l) :
    Ready c depth inner (slots x) :=
  fun s hs => h s (List.mem_flatMap.mpr ⟨x, hx, hs⟩)

theorem of_some {x : Option α} (h : Ready c depth inner (slots x)) {y : α} (hy : x = some y) :
    Ready c depth inner (slots y) := by
  rwa [hy, slots_some] at h

end

theorem expr {e : Expr} (h : Ready c depth inner (slots e)) :
    Recovers c depth inner.expr e.toJson e :=
  (h _ List.mem_cons_self).2 e rfl

theorem optionals {x : Option Expr} (h : Ready c depth inner (Slot.optionals x)) (e : Expr)
    (he : x = some e) :
    c e.toJson ≠ .null ∧ Recovers c depth inner.expr e.toJson e := by
  subst he
  have hslot := h (.optional e) List.mem_cons_self
  exact ⟨hslot.1, hslot.2 e rfl⟩

theorem exprs {l : List Expr} (h : Ready c depth inner (slots l)) (e : Expr) (he : e ∈ l) :
    Recovers c depth inner.expr e.toJson e :=
  (h.of_mem he).expr

theorem wrappings {key : String} {x : Option Expr} (h : Ready c depth inner (Slot.wrappings x)) :
    Reads c depth [key] (Wire.Record.defaulted key inner.wrappedExpr none)
      (Wire.value? key (x.map Expr.toJson)) x := by
  cases x with
  | none => exact .field none nofun fun _ => rfl
  | some e =>
    obtain ⟨⟨hnull, hvalue⟩, hread⟩ := h (.wrapped e) List.mem_cons_self
    refine .defaulted fun hdepth => ?_
    have hexpr := hread e rfl hdepth
    unfold Wire.Nested.wrappedExpr
    split
    · rename_i heq
      exact absurd heq hnull
    · split
      · rename_i fields heq
        exact absurd heq (hvalue fields)
      · rw [hexpr]
        rfl

theorem nameLists {x : Option (List String)} (h : Ready c depth inner (Slot.nameLists x))
    (l : List String) (hl : x = some l) : l ≠ [] := by
  subst hl
  exact (h (.names l) List.mem_cons_self).1

end Ready

/-! ## Parts of expressions -/

namespace Ready

variable (hc : Json.Arranges c)
include hc

theorem columnName {x : ColumnName Expr} (h : Ready c depth inner (slots x)) :
    Recovers c depth inner.columnName (x.map Expr.toJson).toJson x := by
  cases x with
  | star =>
    intro _
    simp [ColumnName.map, ColumnName.toJson, hc.string, Wire.Nested.columnName, ColumnName.ofText]
  | name text =>
    have htext : text ≠ "*" := (h (.name text) List.mem_cons_self).1
    intro _
    simp [ColumnName.map, ColumnName.toJson, hc.string, Wire.Nested.columnName,
      ColumnName.ofText, htext]
  | computed e =>
    intro hdepth
    obtain ⟨gs, hgs, hget⟩ := hc.object [("expr", e.toJson)] (by simp)
    have hexpr : Fields.get? gs "expr" = some (c e.toJson) := by rw [hget]; rfl
    simp only [ColumnName.map, ColumnName.toJson, hgs, Json.depth] at hdepth ⊢
    have hle : (c e.toJson).depth ≤ depth :=
      Nat.le_trans (Fields.depth_of_get? hexpr) (Nat.le_of_succ_le hdepth)
    have hread := (h (.expr e) List.mem_cons_self).2 e rfl hle
    simp only [Wire.Nested.columnName, hexpr, Option.getD_some, hread]
    rfl

theorem columnRef {x : ColumnRef Expr} (h : Ready c depth inner (slots x)) :
    Reads c depth ["db", "schema", "table", "column", "collate", "parentheses"] inner.columnRef
      (x.map Expr.toJson).toFields x :=
  (Reads.text? hc x.db).map ColumnRef.mk
    |>.seq (.text? hc x.schema)
    |>.seq (.nullable hc x.table)
    |>.seq (.required (columnName hc h))
    |>.seq (.text? hc x.collate)
    |>.seq (.bool hc x.parens)

theorem orderItem {x : OrderItem Expr} (h : Ready c depth inner (slots x)) :
    Recovers c depth inner.orderItem.ofJson (x.map Expr.toJson).toJson x :=
  (Reads.required h.expr).map OrderItem.mk
    |>.seq (.text? hc x.direction)
    |>.seq (.text? hc x.nulls)
    |>.object hc (by decide)

theorem orderItems? {key : String} {x : Option (List (OrderItem Expr))}
    (h : Ready c depth inner (slots x)) :
    Reads c depth [key] (inner.orderItems? key)
      (Wire.orderItems? key (x.map (·.map (·.map Expr.toJson)))) x := by
  simp only [Wire.orderItems?, Option.map_map, Function.comp_def, List.map_map]
  exact .list? hc x fun items hitems item hitem => ((h.of_some hitems).of_mem hitem).orderItem hc

theorem windowSpec {x : WindowSpec Expr} (h : Ready c depth inner (slots x)) :
    Reads c depth ["name", "partitionby", "orderby", "frame"] inner.windowSpec
      (Wire.text? "name" x.name ++ Wire.orderItems? "partitionby"
        (x.partitionBy.map (·.map (·.map Expr.toJson))) ++
        Wire.orderItems? "orderby" (x.orderBy.map (·.map (·.map Expr.toJson))) ++
          Wire.text? "frame" x.frame) x := by
  rw [slots_windowSpec, ready_append] at h
  exact (Reads.text? hc x.name).map WindowSpec.mk
    |>.seq (h.1.orderItems? hc)
    |>.seq (h.2.orderItems? hc)
    |>.seq (.text? hc x.frame)

theorem over? {x : Option (WindowSpec Expr)} (h : Ready c depth inner (slots x)) :
    Reads c depth ["over"] inner.over? (Wire.over? (x.map (·.map Expr.toJson))) x := by
  rw [Wire.over?, Option.map_map]
  exact .object? hc x (by decide) fun w hw => (h.of_some hw).windowSpec hc

theorem namedWindow {x : NamedWindow Expr} (h : Ready c depth inner (slots x)) :
    Recovers c depth inner.namedWindow.ofJson (x.map Expr.toJson).toJson x := by
  have hspec := h.windowSpec (x := x.spec) hc
  have hnamed : Recovers c depth inner.namedSpec (x.spec.map Expr.toJson).toJson x.spec := by
    intro hdepth
    have hplain : ((c (x.spec.map Expr.toJson).toJson).get? "window_specification") = none :=
      hspec.get?_absent hc (by decide) (by decide)
    have hread : inner.windowSpec.ofJson (c (x.spec.map Expr.toJson).toJson) = .ok x.spec :=
      (hspec.object hc (by decide)) hdepth
    rw [Wire.Nested.namedSpec, hplain, Option.getD_none]
    split
    · rename_i heq
      rw [heq] at hread
      cases hread
    · exact hread
  exact (Reads.required (.name hc x.name)).map NamedWindow.mk
    |>.seq (.required hnamed)
    |>.object hc (by decide)

theorem namedWindows {xs : List (NamedWindow Expr)} (h : Ready c depth inner (slots xs)) :
    Reads c depth ["expr"] inner.namedWindows
      [("expr", .array ((xs.map (·.map Expr.toJson)).map NamedWindow.toJson))] xs := by
  rw [List.map_map]
  exact .many hc xs fun w hw => (h.of_mem hw).namedWindow hc

theorem dataType {x : DataType Expr} (h : Ready c depth inner (slots x)) :
    Reads c depth ["dataType", "length", "scale", "args", "suffix", "array"] inner.dataType
      (x.map Expr.toJson).toFields x := by
  simp only [DataType.toFields, DataType.map, List.isEmpty_map]
  have hargs := (Recovers.oneOrMany hc (h.exprs (l := x.args))).mono (Nat.le_succ depth)
  exact (Reads.required (.name hc x.name)).map DataType.mk
    |>.seq (.natural? hc x.length)
    |>.seq (.natural? hc x.scale)
    |>.seq (.unlessEmpty (w := fun xs => .array (xs.map Expr.toJson)) x.args hargs)
    |>.seq (.unlessEmpty (w := Wire.strings) x.suffix (.names hc x.suffix))
    |>.seq (.bool hc x.array)

theorem columnDefinition {x : ColumnDefinition Expr} (h : Ready c depth inner (slots x)) :
    Reads c depth ["column", "definition", "nullable", "default_val", "auto_increment", "unique",
        "primary_key", "comment", "collate"] inner.columnDefinition
          (x.map Expr.toJson).toFields x := by
  simp only [slots_columnDefinition, ready_append] at h
  obtain ⟨⟨⟨hcolumn, htype⟩, hdefault⟩, hcomment⟩ := h
  exact (Reads.required ((hcolumn.columnRef hc).object hc (by decide))).map ColumnDefinition.mk
    |>.seq (.required ((htype.dataType hc).object hc (by decide)))
    |>.seq (.text? hc x.nullable)
    |>.seq (hdefault.wrappings)
    |>.seq (.text? hc x.autoIncrement)
    |>.seq (.text? hc x.unique)
    |>.seq (.text? hc x.primaryKey)
    |>.seq (hcomment.wrappings)
    |>.seq (.text? hc x.collate)

theorem caseArm {x : CaseArm Expr} (h : Ready c depth inner (slots x)) :
    Recovers c depth inner.caseArm (x.map Expr.toJson).toJson x := by
  refine Recovers.mono (Nat.le_succ depth) ?_
  cases x with
  | when condition result =>
    simp only [slots_caseArm, CaseArm.slots, ready_cons] at h
    exact Reads.tagged hc rfl rfl ((Reads.required (h.1.2 _ rfl)).map CaseArm.when |>.seq
      (.required (h.2.1.2 _ rfl))) (by decide)
  | otherwise result =>
    exact Reads.tagged hc rfl rfl ((Reads.required (Ready.expr h)).map CaseArm.otherwise)
      (by decide)

/-! ## Parts of queries -/

theorem table {x : Table Expr} (h : Ready c depth inner (slots x)) :
    Recovers c depth inner.table.ofJson (x.map Expr.toJson).toJson x := by
  simp only [slots_table, ready_append] at h
  obtain ⟨⟨hexpr, hcondition⟩, husing⟩ := h
  exact (Reads.text? hc x.db).map Table.mk
    |>.seq (.text? hc x.schema)
    |>.seq (.text? hc x.table)
    |>.seq (.optional x.expr hexpr.optionals)
    |>.seq (.nullable hc x.aliasName)
    |>.seq (.text? hc x.join)
    |>.seq (.optional x.condition hcondition.optionals)
    |>.seq (.names? hc x.usingColumns husing.nameLists)
    |>.seq (.flag hc x.addition)
    |>.seq (.text? hc x.kind)
    |>.object hc (by decide)

theorem tables {key : String} {xs : List (Table Expr)} (h : Ready c depth inner (slots xs)) :
    Reads c depth [key] (inner.tables key) [(key, Wire.tables (xs.map (·.map Expr.toJson)))]
      xs := by
  rw [Wire.tables, List.map_map]
  exact .required ((Recovers.oneOrMany hc fun t ht => (h.of_mem ht).table hc).mono (Nat.le_succ _))

theorem tables? {key : String} {x : Option (List (Table Expr))}
    (h : Ready c depth inner (slots x)) :
    Reads c depth [key] (inner.tables? key)
      (Wire.tables? key (x.map (·.map (·.map Expr.toJson)))) x := by
  simp only [Wire.tables?, Wire.tables, Option.map_map, Function.comp_def, List.map_map]
  exact .list? hc x fun ts hts t ht => ((h.of_some hts).of_mem ht).table hc

theorem source {x : Option (List (Table Expr))} (h : Ready c depth inner (slots x)) :
    Reads c depth ["from"] (inner.tables? "from")
      (Wire.source (x.map (·.map (·.map Expr.toJson)))) x := by
  simp only [Wire.source, Option.map_map, Function.comp_def, Wire.tables, List.map_map]
  exact .listOrNull hc x fun ts hts t ht => ((h.of_some hts).of_mem ht).table hc

theorem column {x : Column Expr} (h : Ready c depth inner (slots x)) :
    Recovers c depth inner.column.ofJson (x.map Expr.toJson).toJson x :=
  (Reads.required h.expr).map Column.mk
    |>.seq (.nullable hc x.aliasName)
    |>.object hc (by decide)

theorem columns {x : Columns Expr} (h : Ready c depth inner (slots x)) :
    Recovers c depth inner.columns (x.map Expr.toJson).toJson x := by
  intro hdepth
  cases x with
  | all => simp [Columns.map, Columns.toJson, hc.string, Wire.Nested.columns, Json.string?]
  | list items =>
    have hitems : ∀ x ∈ items, Recovers c depth inner.column.ofJson (x.map Expr.toJson).toJson x :=
      fun x hx => (h.of_mem (l := items) hx).column hc
    simp only [Columns.map, Columns.toJson, List.map_map, Function.comp_def] at hdepth ⊢
    have hmapM := Recovers.mapM hc hitems (Nat.le_succ_of_le hdepth)
    simp only [hc.array, Wire.Nested.columns, hmapM]
    rfl

theorem returning? {x : Option (Columns Expr)} (h : Ready c depth inner (slots x)) :
    Reads c depth ["returning"] inner.returning?
      (Wire.returning? (x.map (·.map Expr.toJson))) x := by
  rw [Wire.returning?, Option.map_map]
  exact .object? hc x (by decide) fun cs hcs => .defaulted ((h.of_some hcs).columns hc)

theorem cte {x : Cte Expr} (h : Ready c depth inner (slots x)) :
    Recovers c depth inner.cte.ofJson (x.map Expr.toJson).toJson x := by
  rw [slots_cte, ready_append] at h
  exact (Reads.required (.name hc x.name)).map Cte.mk
    |>.seq (.names? hc x.columns h.1.nameLists)
    |>.seq (.required h.2.expr)
    |>.seq (.flag hc x.recursive)
    |>.object hc (by decide)

theorem withs? {x : Option (List (Cte Expr))} (h : Ready c depth inner (slots x)) :
    Reads c depth ["with"] inner.withs? (Wire.withs? (x.map (·.map (·.map Expr.toJson)))) x := by
  simp only [Wire.withs?, Option.map_map, Function.comp_def, List.map_map]
  exact .list? hc x fun cs hcs t ht => ((h.of_some hcs).of_mem ht).cte hc

theorem condition {x : Option Expr} (h : Ready c depth inner (Slot.optionals x)) :
    Reads c depth ["where"] (inner.condition? "where") (Wire.condition (x.map Expr.toJson)) x :=
  .orNull hc x h.optionals

theorem exprs? {key : String} {x : Option (List Expr)} (h : Ready c depth inner (slots x)) :
    Reads c depth [key] (Wire.Record.list? key inner.expr)
      (Wire.value? key ((x.map (·.map Expr.toJson)).map .array)) x := by
  simp only [Option.map_map, Function.comp_def]
  exact .list? hc x fun es hes e he => (h.of_some hes).exprs e he

end Ready

end SqlWeave
