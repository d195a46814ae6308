import SqlWeave.Tree.Build
import SqlWeave.Tree.Statement

/-! What stands at the places of a tree: its subexpressions, each with how it stands there, the
names that a reader could take for something else, limits, and the values of unknown nodes. -/

namespace SqlWeave

inductive Slot where
  /-- A subexpression that is always there. -/
  | expr (e : Expr)
  /-- A subexpression that may be absent. -/
  | optional (e : Expr)
  /-- The default or the comment of a column. -/
  | wrapped (e : Expr)
  /-- The query that an insertion takes its rows from. -/
  | source (e : Expr)
  /-- The value of a named argument. -/
  | argument (e : Expr)
  /-- The name of a column. -/
  | name (text : String)
  /-- A list of names that may be absent. -/
  | names (list : List String)
  | limit (l : Limit Expr)
  /-- The value of an unknown node. -/
  | value (v : Json)

namespace Slot

def expr? : Slot → Option Expr
  | .expr e | .optional e | .wrapped e | .source e | .argument e => some e
  | .name _ | .names _ | .limit _ | .value _ => none

def optionals (e : Option Expr) : List Slot := e.toList.map .optional

def wrappings (e : Option Expr) : List Slot := e.toList.map .wrapped

def nameLists (list : Option (List String)) : List Slot := list.toList.map .names

/-- Every subexpression in the slots is of a kind. -/
def All (P : Expr → Prop) (ss : List Slot) : Prop := ∀ s ∈ ss, ∀ e, s.expr? = some e → P e

variable {P : Expr → Prop}

@[simp] theorem all_nil : All P [] := by simp [All]

@[simp] theorem all_append {ss ts : List Slot} : All P (ss ++ ts) ↔ All P ss ∧ All P ts :=
  List.forall_mem_append

@[simp] theorem all_cons {s : Slot} {ss : List Slot} :
    All P (s :: ss) ↔ (∀ e, s.expr? = some e → P e) ∧ All P ss := List.forall_mem_cons

theorem All.expr {ss : List Slot} (h : All P ss) {e : Expr} (he : .expr e ∈ ss) : P e :=
  h _ he _ rfl

@[simp] theorem all_nameLists {x : Option (List String)} : All P (nameLists x) := by
  cases x <;> simp [nameLists, expr?]

end Slot

/-- Trees and their parts. What stands in a slot is no larger than what has the slot. -/
class HasSlots (α : Type) [SizeOf α] where
  slots : α → List Slot
  below : ∀ x : α, Slot.All (sizeOf · ≤ sizeOf x) (slots x)

open HasSlots (slots)

namespace HasSlots

variable {α β : Type} [SizeOf α] [SizeOf β] [HasSlots α] [HasSlots β]

@[simp] theorem below_of_le {n : Nat} {x : α} (h : sizeOf x ≤ n) :
    Slot.All (sizeOf · ≤ n) (slots x) :=
  fun s hs e he => Nat.le_trans (below x s hs e he) h

instance : HasSlots (Option α) where
  slots x := x.toList.flatMap slots
  below x := by
    cases x with
    | none => simp
    | some x => simp (disch := omega)

instance : HasSlots (List α) where
  slots xs := xs.flatMap slots
  below xs s hs e he := by
    obtain ⟨x, hx, hs⟩ := List.mem_flatMap.mp hs
    have hsize := List.sizeOf_lt_of_mem hx
    exact below_of_le (Nat.le_of_lt hsize) s hs e he

instance : HasSlots (α × β) where
  slots x := slots x.1 ++ slots x.2
  below x := by
    obtain ⟨a, b⟩ := x
    simp (disch := omega)

end HasSlots

section Collections

variable {α β : Type} [SizeOf α] [SizeOf β] [HasSlots α] [HasSlots β]

@[simp] theorem slots_none : slots (none : Option α) = [] := rfl
@[simp] theorem slots_some (x : α) : slots (some x) = slots x := List.append_nil _
@[simp] theorem slots_nil : slots ([] : List α) = [] := rfl
@[simp] theorem slots_cons (x : α) (xs : List α) : slots (x :: xs) = slots x ++ slots xs := rfl
@[simp] theorem slots_pair (x : α) (y : β) : slots (x, y) = slots x ++ slots y := rfl

theorem Slot.All.of_mem {P : Expr → Prop} {xs : List α} (h : All P (slots xs)) {x : α}
    (hx : x ∈ xs) :
    All P (slots x) :=
  fun s hs => h s (List.mem_flatMap.mpr ⟨x, hx, hs⟩)

end Collections

/-! ## Parts of expressions -/

instance : HasSlots Expr where
  slots e := [.expr e]
  below x := by simp [Slot.expr?]

theorem Slot.All.of_expr {P : Expr → Prop} {e : Expr} (h : P e) :
    All P (slots e) := by simpa [slots, expr?] using h

@[simp] theorem Slot.all_optionals {P : Expr → Prop} {x : Option Expr} :
    All P (optionals x) ↔ All P (slots x) := by
  cases x <;> simp [optionals, slots, expr?]

@[simp] theorem Slot.all_wrappings {P : Expr → Prop} {x : Option Expr} :
    All P (wrappings x) ↔ All P (slots x) := by
  cases x <;> simp [wrappings, slots, expr?]

def ColumnName.slots : ColumnName Expr → List Slot
  | .star => []
  | .name text => [.name text]
  | .computed e => [.expr e]

instance : HasSlots (ColumnName Expr) where
  slots := ColumnName.slots
  below x := by cases x <;> simp [ColumnName.slots, Slot.expr?]

instance : HasSlots (ColumnRef Expr) where
  slots c := slots c.column
  below c := by
    cases c
    simp (disch := omega)

instance : HasSlots (OrderItem Expr) where
  slots i := slots i.expr
  below i := by
    cases i
    simp (disch := omega)

instance : HasSlots (WindowSpec Expr) where
  slots w := slots w.partitionBy ++ slots w.orderBy
  below w := by
    cases w
    simp (disch := omega)

instance : HasSlots (NamedWindow Expr) where
  slots w := slots w.spec
  below w := by
    cases w
    simp (disch := omega)

instance : HasSlots (DataType Expr) where
  slots t := slots t.args
  below t := by
    cases t
    simp (disch := omega)

instance : HasSlots (ColumnDefinition Expr) where
  slots d := slots d.column ++ slots d.type ++ Slot.wrappings d.defaultValue ++
    Slot.wrappings d.comment
  below d := by
    cases d
    simp (disch := omega)

def CaseArm.slots : CaseArm Expr → List Slot
  | .when condition result => [.expr condition, .expr result]
  | .otherwise result => [.expr result]

instance : HasSlots (CaseArm Expr) where
  slots := CaseArm.slots
  below a := by cases a <;> simp [CaseArm.slots, Slot.expr?] <;> omega

/-! ## Parts of queries -/

instance : HasSlots (Table Expr) where
  slots t := Slot.optionals t.expr ++ Slot.optionals t.condition ++ Slot.nameLists t.usingColumns
  below t := by
    cases t
    simp (disch := omega)

instance : HasSlots (Column Expr) where
  slots c := slots c.expr
  below c := by
    cases c
    simp (disch := omega)

def Columns.slots : Columns Expr → List Slot
  | .all => []
  | .list items => HasSlots.slots items

instance : HasSlots (Columns Expr) where
  slots := Columns.slots
  below cs := by
    cases cs with
    | all => exact Slot.all_nil
    | list items => exact HasSlots.below_of_le (x := items) (by simp)

instance : HasSlots (Cte Expr) where
  slots c := Slot.nameLists c.columns ++ slots c.body
  below c := by
    cases c
    simp (disch := omega)

instance : HasSlots (Limit Expr) where
  slots l := .limit l :: (slots l.count ++ slots l.offset)
  below l := by
    cases l
    simp (disch := omega) [Slot.expr?]

instance : HasSlots (Select Expr) where
  slots s := slots s.withs ++ slots s.columns ++ slots s.tables ++ Slot.optionals s.condition ++
    slots s.groupBy ++
    Slot.optionals s.having ++ slots s.windows ++ slots s.orderBy ++ slots s.limit
  below s := by
    cases s
    simp (disch := omega)

instance : HasSlots (Query Expr) where
  slots q := slots q.head ++ slots q.rest
  below q := by
    cases q
    simp (disch := omega)

instance : HasSlots (Assignment Expr) where
  slots a := slots a.value
  below a := by
    cases a
    simp (disch := omega)

def InsertSource.slots : InsertSource Expr → List Slot
  | .rows items => HasSlots.slots items
  | .query q => [.source q]

instance : HasSlots (InsertSource Expr) where
  slots := InsertSource.slots
  below s := by
    cases s with
    | rows items => exact HasSlots.below_of_le (x := items) (by simp)
    | query q => simp [InsertSource.slots, Slot.expr?]

instance : HasSlots (Insert Expr) where
  slots i := slots i.tables ++ Slot.nameLists i.columns ++ slots i.source ++ slots i.onDuplicate ++
    slots i.returning
  below i := by
    cases i
    simp (disch := omega)

/-! ## Expressions -/

def Node.slots : Node Expr → List Slot
  | .column c => HasSlots.slots c
  | .binary _ l r _ => [.expr l, .expr r]
  | .unary _ e _ => [.expr e]
  | .call _ args window _ _ => Slot.optionals args ++ HasSlots.slots window
  | .aggregate _ arg _ orderBy separator window _ =>
    .expr arg :: (HasSlots.slots orderBy ++ Slot.optionals separator ++ HasSlots.slots window)
  | .cast _ e _ target _ => .expr e :: HasSlots.slots target
  | .case subject arms _ => Slot.optionals subject ++ HasSlots.slots arms
  | .windowCall _ args window => Slot.optionals args ++ HasSlots.slots window
  | .subscript base indices => .expr base :: HasSlots.slots indices
  | .list items _ _ => HasSlots.slots items
  | .query q => HasSlots.slots q
  | .mapLiteral _ entries => HasSlots.slots entries
  | .fullText _ columns _ phrase _ => HasSlots.slots columns ++ [.expr phrase]
  | .columnDefinition d => HasSlots.slots d
  | .interval amount _ => [.expr amount]
  | .extract _ source => [.expr source]
  | .collate operand _ _ => Slot.optionals operand
  | .dataType t => HasSlots.slots t
  | .assign l _ r => [.expr l, .expr r]
  | .array _ _ items => HasSlots.slots items
  | .struct _ items => HasSlots.slots items
  | .lambda _ body => [.expr body]
  | .unnest e => [.expr e]
  | .json _ items => HasSlots.slots items
  | .jsonStep _ e => [.expr e]
  | .jsonMember key value onNull => .expr key :: .expr value :: Slot.optionals onNull
  | .anyValue arg window => .expr arg :: HasSlots.slots window
  | .flatten input path outer recursive mode =>
    Slot.optionals input ++ Slot.optionals path ++ Slot.optionals outer ++
      Slot.optionals recursive ++
      Slot.optionals mode
  | .tableCall _ args aliasName => .expr args :: Slot.optionals aliasName
  | .namedArg _ _ value => [.argument value]
  | .windows ws => HasSlots.slots ws
  | .insert i => HasSlots.slots i
  | .tables ts => HasSlots.slots ts
  | .wrapped e => [.expr e]
  | .unknown v => [.value v]
  | .variable _ | .showing _ | .number _ _ | .text _ _ _ | .bool _ _ | .null | .star => []

theorem Node.slots_below (n : Node Expr) : Slot.All (sizeOf · ≤ sizeOf n) n.slots := by
  cases n <;> simp (disch := omega) [slots, Slot.expr?] <;> omega

/-- Induction over the subexpressions. -/
theorem Expr.slot_induction {P : Expr → Prop}
    (step : ∀ n : Node Expr, Slot.All P n.slots → P (.mk n)) (e : Expr) : P e := by
  induction hsize : sizeOf e using Nat.strongRecOn generalizing e with
  | _ size ih =>
    obtain ⟨n⟩ := e
    refine step n fun s hs e he => ih (sizeOf e) ?_ e rfl
    have hle := n.slots_below s hs e he
    simp only [Expr.mk.sizeOf_spec] at hsize
    omega

/-- The slot is one of the expression, or of a subexpression at any depth. -/
inductive Expr.Holds (s : Slot) : Expr → Prop
  | here {n : Node Expr} : s ∈ n.slots → Holds s (.mk n)
  | inside {n : Node Expr} {t : Slot} {e : Expr} : t ∈ n.slots → t.expr? = some e → Holds s e →
      Holds s (.mk n)

/-- The slot is one of these, or stands in one of them at any depth. -/
def Slot.Within (s : Slot) (ss : List Slot) : Prop :=
  s ∈ ss ∨ ∃ t ∈ ss, ∃ e, t.expr? = some e ∧ e.Holds s

theorem Expr.holds_mk {s : Slot} {n : Node Expr} : (Expr.mk n).Holds s ↔ s.Within n.slots := by
  constructor
  · intro h
    cases h with
    | here hs => exact .inl hs
    | inside ht he h => exact .inr ⟨_, ht, _, he, h⟩
  · rintro (hs | ⟨t, ht, e, he, h⟩)
    · exact .here hs
    · exact .inside ht he h

theorem Expr.Holds.trans {s t : Slot} {e e' : Expr} (h : e.Holds s) (he : s.expr? = some e')
    (ht : e'.Holds t) :
    e.Holds t := by
  induction h with
  | here hs => exact .inside hs he ht
  | inside hu heu _ ih => exact .inside hu heu ih

/-! ## Properties of all slots -/

/-- Every slot is of a kind, also those at any depth. -/
def Slot.Throughout (P : Slot → Prop) (ss : List Slot) : Prop :=
  ∀ s ∈ ss, P s ∧ ∀ e, s.expr? = some e → ∀ t, e.Holds t → P t

section Throughout

variable {P : Slot → Prop}

@[simp] theorem throughout_nil : Slot.Throughout P [] := nofun

@[simp] theorem throughout_append {ss ts : List Slot} :
    Slot.Throughout P (ss ++ ts) ↔ Slot.Throughout P ss ∧ Slot.Throughout P ts :=
  List.forall_mem_append

@[simp] theorem throughout_cons {s : Slot} {ss : List Slot} :
    Slot.Throughout P (s :: ss) ↔
      (P s ∧ ∀ e, s.expr? = some e → ∀ t, e.Holds t → P t) ∧ Slot.Throughout P ss :=
        List.forall_mem_cons

theorem Slot.Throughout.within {ss : List Slot} (h : Slot.Throughout P ss) {s : Slot}
    (hs : s.Within ss) : P s := by
  rcases hs with hs | ⟨t, ht, e, he, hs⟩
  · exact (h s hs).1
  · exact (h t ht).2 e he s hs

theorem throughout_mk {n : Node Expr} :
    (∀ s, (Expr.mk n).Holds s → P s) ↔ Slot.Throughout P n.slots := by
  constructor
  · exact fun h s hs => ⟨h s (.here hs), fun e he t ht => h t (.inside hs he ht)⟩
  · exact fun h s hs => h.within (Expr.holds_mk.mp hs)

theorem throughout_list {α : Type} [SizeOf α] [HasSlots α] {xs : List α} :
    Slot.Throughout P (slots xs) ↔ ∀ x ∈ xs, Slot.Throughout P (slots x) := by
  constructor
  · exact fun h x hx s hs => h s (List.mem_flatMap.mpr ⟨x, hx, hs⟩)
  · intro h s hs
    obtain ⟨x, hx, hs⟩ := List.mem_flatMap.mp hs
    exact h x hx s hs

end Throughout

/-! ## Statements -/

instance : HasSlots (Update Expr) where
  slots u := slots u.withs ++ slots u.tables ++ slots u.assignments ++ slots u.source ++
    Slot.optionals u.condition ++ slots u.orderBy ++ slots u.limit ++ slots u.returning
  below u := by
    cases u
    simp (disch := omega)

instance : HasSlots (Delete Expr) where
  slots d := slots d.withs ++ slots d.columns ++ slots d.targets ++ slots d.source ++
    Slot.optionals d.condition ++ slots d.orderBy ++ slots d.limit ++ slots d.returning
  below d := by
    cases d
    simp (disch := omega)

instance : HasSlots (Create Expr) where
  slots c := slots c.tables ++ slots c.definitions ++ Slot.optionals c.query
  below c := by
    cases c
    simp (disch := omega)

instance : HasSlots (Drop Expr) where
  slots d := slots d.names
  below d := by
    cases d
    simp (disch := omega)

def Statement.slots : Statement Expr → List Slot
  | .select q => HasSlots.slots q
  | .insert i => HasSlots.slots i
  | .replace i => HasSlots.slots i
  | .update u => HasSlots.slots u
  | .delete d => HasSlots.slots d
  | .create c => HasSlots.slots c
  | .drop d => HasSlots.slots d
  | .showing _ => []

/-- The slot stands somewhere in some statement. -/
def Script.HoldsSlot (script : Script Expr) (s : Slot) : Prop :=
  ∃ st ∈ script.statements, s.Within st.slots

/-! ## The slots of each part -/

@[simp] theorem slots_expr (e : Expr) : slots e = [.expr e] := rfl
@[simp] theorem slots_columnName (c : ColumnName Expr) : slots c = c.slots := rfl
@[simp] theorem slots_columnRef (c : ColumnRef Expr) : slots c = c.column.slots := rfl
@[simp] theorem slots_orderItem (i : OrderItem Expr) : slots i = [.expr i.expr] := rfl
@[simp] theorem slots_windowSpec (w : WindowSpec Expr) :
    slots w = slots w.partitionBy ++ slots w.orderBy := rfl
@[simp] theorem slots_namedWindow (w : NamedWindow Expr) : slots w = slots w.spec := rfl
@[simp] theorem slots_dataType (t : DataType Expr) : slots t = slots t.args := rfl
@[simp] theorem slots_columnDefinition (d : ColumnDefinition Expr) :
    slots d = slots d.column ++ slots d.type ++ Slot.wrappings d.defaultValue ++
      Slot.wrappings d.comment := rfl
@[simp] theorem slots_caseArm (a : CaseArm Expr) : slots a = a.slots := rfl
@[simp] theorem slots_table (t : Table Expr) :
    slots t = Slot.optionals t.expr ++ Slot.optionals t.condition ++
      Slot.nameLists t.usingColumns := rfl
@[simp] theorem slots_column (c : Column Expr) : slots c = [.expr c.expr] := rfl
@[simp] theorem slots_columns (cs : Columns Expr) : slots cs = cs.slots := rfl
@[simp] theorem slots_cte (c : Cte Expr) : slots c = Slot.nameLists c.columns ++ [.expr c.body] :=
  rfl
@[simp] theorem slots_limit (l : Limit Expr) :
    slots l = .limit l :: (slots l.count ++ slots l.offset) := rfl
@[simp] theorem slots_select (s : Select Expr) :
    slots s = slots s.withs ++ slots s.columns ++ slots s.tables ++ Slot.optionals s.condition ++
      slots s.groupBy ++
      Slot.optionals s.having ++ slots s.windows ++ slots s.orderBy ++ slots s.limit := rfl
@[simp] theorem slots_query (q : Query Expr) : slots q = slots q.head ++ slots q.rest := rfl
@[simp] theorem slots_assignment (a : Assignment Expr) : slots a = [.expr a.value] := rfl
@[simp] theorem slots_insertSource (s : InsertSource Expr) : slots s = s.slots := rfl
@[simp] theorem slots_insert (i : Insert Expr) :
    slots i = slots i.tables ++ Slot.nameLists i.columns ++ slots i.source ++ slots i.onDuplicate ++
      slots i.returning := rfl
@[simp] theorem slots_update (u : Update Expr) :
    slots u = slots u.withs ++ slots u.tables ++ slots u.assignments ++ slots u.source ++
      Slot.optionals u.condition ++ slots u.orderBy ++ slots u.limit ++ slots u.returning := rfl
@[simp] theorem slots_delete (d : Delete Expr) :
    slots d = slots d.withs ++ slots d.columns ++ slots d.targets ++ slots d.source ++
      Slot.optionals d.condition ++ slots d.orderBy ++ slots d.limit ++ slots d.returning := rfl
@[simp] theorem slots_create (c : Create Expr) :
    slots c = slots c.tables ++ slots c.definitions ++ Slot.optionals c.query := rfl
@[simp] theorem slots_drop (d : Drop Expr) : slots d = slots d.names := rfl

end SqlWeave
