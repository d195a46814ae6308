import SqlWeave.Tree.Node

/-! Walking an expression. `Expr.fold` computes a value for every subexpression, innermost first,
from one function on nodes; that function sees each subexpression beside its value. The function per
kind of part is what makes the recursion structural, and `fold_mk` says what all of them together
come to, so nothing else needs them. -/

namespace SqlWeave

namespace Expr

variable {α : Type}

/-- What a node's value is, given its subexpressions and their values. -/
abbrev Algebra (α : Type) := Node (Expr × α) → α

mutual
def fold (alg : Algebra α) : Expr → α
  | .mk n => alg (foldNode alg n)
def foldNode (alg : Algebra α) : Node Expr → Node (Expr × α)
  | .column c => .column (foldColumnRef alg c)
  | .binary op l r p => .binary op (l, l.fold alg) (r, r.fold alg) p
  | .unary op e p => .unary op (e, e.fold alg) p
  | .call n a o s p => .call n (foldOpt alg a) (foldOptWindowSpec alg o) s p
  | .aggregate n a d ob s o p =>
    .aggregate n (a, a.fold alg) d (foldOptOrderItems alg ob) (foldOpt alg s)
      (foldOptWindowSpec alg o) p
  | .cast k e s t p => .cast k (e, e.fold alg) s (foldDataType alg t) p
  | .case s arms p => .case (foldOpt alg s) (foldCaseArms alg arms) p
  | .windowCall n a o => .windowCall n (foldOpt alg a) (foldWindowSpec alg o)
  | .subscript e is => .subscript (e, e.fold alg) (foldList alg is)
  | .list es s p => .list (foldList alg es) s p
  | .query q => .query (foldQuery alg q)
  | .variable v => .variable v
  | .mapLiteral k es => .mapLiteral k (foldPairs alg es)
  | .fullText m cs a e mode => .fullText m (foldColumnRefs alg cs) a (e, e.fold alg) mode
  | .columnDefinition d => .columnDefinition (foldColumnDefinition alg d)
  | .interval e u => .interval (e, e.fold alg) u
  | .extract field e => .extract field (e, e.fold alg)
  | .collate e n s => .collate (foldOpt alg e) n s
  | .dataType t => .dataType (foldDataType alg t)
  | .assign l s r => .assign (l, l.fold alg) s (r, r.fold alg)
  | .array k b es => .array k b (foldList alg es)
  | .struct k es => .struct k (foldList alg es)
  | .lambda ps e => .lambda ps (e, e.fold alg)
  | .unnest e => .unnest (e, e.fold alg)
  | .json k es => .json k (foldList alg es)
  | .jsonStep s e => .jsonStep s (e, e.fold alg)
  | .jsonMember k v o => .jsonMember (k, k.fold alg) (v, v.fold alg) (foldOpt alg o)
  | .anyValue e o => .anyValue (e, e.fold alg) (foldOptWindowSpec alg o)
  | .flatten i p o r m =>
    .flatten (foldOpt alg i) (foldOpt alg p) (foldOpt alg o) (foldOpt alg r) (foldOpt alg m)
  | .tableCall n a al => .tableCall n (a, a.fold alg) (foldOpt alg al)
  | .namedArg n s e => .namedArg n s (e, e.fold alg)
  | .windows ws => .windows (foldNamedWindows alg ws)
  | .showing k => .showing k
  | .insert i => .insert (foldInsert alg i)
  | .tables ts => .tables (foldTables alg ts)
  | .wrapped e => .wrapped (e, e.fold alg)
  | .number n p => .number n p
  | .text k v p => .text k v p
  | .bool b p => .bool b p
  | .null => .null
  | .star => .star
  | .unknown v => .unknown v
def foldOpt (alg : Algebra α) : Option Expr → Option (Expr × α)
  | none => none
  | some e => some (e, e.fold alg)
def foldList (alg : Algebra α) : List Expr → List (Expr × α)
  | [] => []
  | e :: es => (e, e.fold alg) :: foldList alg es
def foldOptList (alg : Algebra α) : Option (List Expr) → Option (List (Expr × α))
  | none => none
  | some es => some (foldList alg es)
def foldPair (alg : Algebra α) : Expr × Expr → (Expr × α) × (Expr × α)
  | (a, b) => ((a, a.fold alg), (b, b.fold alg))
def foldPairs (alg : Algebra α) : List (Expr × Expr) → List ((Expr × α) × (Expr × α))
  | [] => []
  | p :: ps => foldPair alg p :: foldPairs alg ps
def foldColumnName (alg : Algebra α) : ColumnName Expr → ColumnName (Expr × α)
  | .star => .star
  | .name text => .name text
  | .computed e => .computed (e, e.fold alg)
def foldColumnRef (alg : Algebra α) : ColumnRef Expr → ColumnRef (Expr × α)
  | ⟨db, schema, table, column, collate, parens⟩ =>
    ⟨db, schema, table, foldColumnName alg column, collate, parens⟩
def foldColumnRefs (alg : Algebra α) : List (ColumnRef Expr) → List (ColumnRef (Expr × α))
  | [] => []
  | c :: cs => foldColumnRef alg c :: foldColumnRefs alg cs
def foldOrderItem (alg : Algebra α) : OrderItem Expr → OrderItem (Expr × α)
  | ⟨e, direction, nulls⟩ => ⟨(e, e.fold alg), direction, nulls⟩
def foldOrderItems (alg : Algebra α) : List (OrderItem Expr) → List (OrderItem (Expr × α))
  | [] => []
  | i :: is => foldOrderItem alg i :: foldOrderItems alg is
def foldOptOrderItems (alg : Algebra α) : Option (List (OrderItem Expr)) →
    Option (List (OrderItem (Expr × α)))
  | none => none
  | some is => some (foldOrderItems alg is)
def foldWindowSpec (alg : Algebra α) : WindowSpec Expr → WindowSpec (Expr × α)
  | ⟨name, partitionBy, orderBy, frame⟩ =>
    ⟨name, foldOptOrderItems alg partitionBy, foldOptOrderItems alg orderBy, frame⟩
def foldOptWindowSpec (alg : Algebra α) : Option (WindowSpec Expr) → Option (WindowSpec (Expr × α))
  | none => none
  | some w => some (foldWindowSpec alg w)
def foldNamedWindow (alg : Algebra α) : NamedWindow Expr → NamedWindow (Expr × α)
  | ⟨name, spec⟩ => ⟨name, foldWindowSpec alg spec⟩
def foldNamedWindows (alg : Algebra α) : List (NamedWindow Expr) → List (NamedWindow (Expr × α))
  | [] => []
  | w :: ws => foldNamedWindow alg w :: foldNamedWindows alg ws
def foldOptNamedWindows (alg : Algebra α) : Option (List (NamedWindow Expr)) →
    Option (List (NamedWindow (Expr × α)))
  | none => none
  | some ws => some (foldNamedWindows alg ws)
def foldDataType (alg : Algebra α) : DataType Expr → DataType (Expr × α)
  | ⟨name, length, scale, args, suffix, array⟩ =>
    ⟨name, length, scale, foldList alg args, suffix, array⟩
def foldColumnDefinition (alg : Algebra α) : ColumnDefinition Expr → ColumnDefinition (Expr × α)
  | ⟨column, type, nullable, defaultValue, autoIncrement, unique, primaryKey, comment, collate⟩ =>
    ⟨foldColumnRef alg column, foldDataType alg type, nullable, foldOpt alg defaultValue,
      autoIncrement, unique, primaryKey, foldOpt alg comment, collate⟩
def foldCaseArm (alg : Algebra α) : CaseArm Expr → CaseArm (Expr × α)
  | .when c r => .when (c, c.fold alg) (r, r.fold alg)
  | .otherwise r => .otherwise (r, r.fold alg)
def foldCaseArms (alg : Algebra α) : List (CaseArm Expr) → List (CaseArm (Expr × α))
  | [] => []
  | a :: as => foldCaseArm alg a :: foldCaseArms alg as
def foldTable (alg : Algebra α) : Table Expr → Table (Expr × α)
  | ⟨db, schema, table, expr, aliasName, join, condition, usingColumns, addition, kind⟩ =>
    ⟨db, schema, table, foldOpt alg expr, aliasName, join, foldOpt alg condition, usingColumns,
      addition, kind⟩
def foldTables (alg : Algebra α) : List (Table Expr) → List (Table (Expr × α))
  | [] => []
  | t :: ts => foldTable alg t :: foldTables alg ts
def foldOptTables (alg : Algebra α) : Option (List (Table Expr)) → Option (List (Table (Expr × α)))
  | none => none
  | some ts => some (foldTables alg ts)
def foldColumn (alg : Algebra α) : Column Expr → Column (Expr × α)
  | ⟨e, aliasName⟩ => ⟨(e, e.fold alg), aliasName⟩
def foldColumnList (alg : Algebra α) : List (Column Expr) → List (Column (Expr × α))
  | [] => []
  | c :: cs => foldColumn alg c :: foldColumnList alg cs
def foldColumns (alg : Algebra α) : Columns Expr → Columns (Expr × α)
  | .all => .all
  | .list items => .list (foldColumnList alg items)
def foldOptColumns (alg : Algebra α) : Option (Columns Expr) → Option (Columns (Expr × α))
  | none => none
  | some c => some (foldColumns alg c)
def foldCte (alg : Algebra α) : Cte Expr → Cte (Expr × α)
  | ⟨name, columns, body, recursive⟩ => ⟨name, columns, (body, body.fold alg), recursive⟩
def foldCtes (alg : Algebra α) : List (Cte Expr) → List (Cte (Expr × α))
  | [] => []
  | c :: cs => foldCte alg c :: foldCtes alg cs
def foldOptCtes (alg : Algebra α) : Option (List (Cte Expr)) → Option (List (Cte (Expr × α)))
  | none => none
  | some cs => some (foldCtes alg cs)
def foldLimit (alg : Algebra α) : Limit Expr → Limit (Expr × α)
  | ⟨count, offset, comma, fetchSuffix⟩ =>
    ⟨foldOpt alg count, foldOpt alg offset, comma, fetchSuffix⟩
def foldOptLimit (alg : Algebra α) : Option (Limit Expr) → Option (Limit (Expr × α))
  | none => none
  | some l => some (foldLimit alg l)
def foldSelect (alg : Algebra α) : Select Expr → Select (Expr × α)
  | ⟨withs, distinct, columns, tables, condition, groupBy, having, windows, orderBy, limit,
      setOperator, parens⟩ =>
    ⟨foldOptCtes alg withs, distinct, foldColumns alg columns, foldOptTables alg tables,
      foldOpt alg condition, foldOptList alg groupBy, foldOpt alg having,
      foldOptNamedWindows alg windows, foldOptOrderItems alg orderBy, foldOptLimit alg limit,
      setOperator, parens⟩
def foldSelects (alg : Algebra α) : List (Select Expr) → List (Select (Expr × α))
  | [] => []
  | s :: ss => foldSelect alg s :: foldSelects alg ss
def foldQuery (alg : Algebra α) : Query Expr → Query (Expr × α)
  | ⟨head, rest⟩ => ⟨foldSelect alg head, foldSelects alg rest⟩
def foldAssignment (alg : Algebra α) : Assignment Expr → Assignment (Expr × α)
  | ⟨column, value, table⟩ => ⟨column, (value, value.fold alg), table⟩
def foldAssignments (alg : Algebra α) : List (Assignment Expr) → List (Assignment (Expr × α))
  | [] => []
  | a :: as => foldAssignment alg a :: foldAssignments alg as
def foldOptAssignments (alg : Algebra α) : Option (List (Assignment Expr)) →
    Option (List (Assignment (Expr × α)))
  | none => none
  | some as => some (foldAssignments alg as)
def foldInsertSource (alg : Algebra α) : InsertSource Expr → InsertSource (Expr × α)
  | .rows rs => .rows (foldList alg rs)
  | .query q => .query (q, q.fold alg)
def foldOptInsertSource (alg : Algebra α) : Option (InsertSource Expr) →
    Option (InsertSource (Expr × α))
  | none => none
  | some s => some (foldInsertSource alg s)
def foldInsert (alg : Algebra α) : Insert Expr → Insert (Expr × α)
  | ⟨tables, columns, source, into, onDuplicate, returning⟩ =>
    ⟨foldTables alg tables, columns, foldOptInsertSource alg source, into,
      foldOptAssignments alg onDuplicate, foldOptColumns alg returning⟩
end

/-- A subexpression beside its value. -/
def withValue (alg : Algebra α) (e : Expr) : Expr × α := (e, e.fold alg)

/-- What goes through a list item by item maps it. -/
theorem list_eq_map {A B : Type} {f : List A → List B} {g : A → B} (hnil : f [] = [])
    (hcons : ∀ x xs, f (x :: xs) = g x :: f xs) (xs : List A) : f xs = xs.map g := by
  induction xs with
  | nil => exact hnil
  | cons x xs ih => rw [hcons, ih, List.map_cons]

variable (alg : Algebra α)

theorem foldOpt_eq (x : Option Expr) : foldOpt alg x = x.map (withValue alg) := by
  cases x <;> rfl

theorem foldList_eq (x : List Expr) : foldList alg x = x.map (withValue alg) :=
  list_eq_map rfl (fun _ _ => rfl) x

theorem foldOptList_eq (x : Option (List Expr)) :
    foldOptList alg x = x.map (·.map (withValue alg)) := by
  cases x with
  | none => rfl
  | some xs => exact congrArg some (foldList_eq alg xs)

theorem foldPairs_eq (x : List (Expr × Expr)) :
    foldPairs alg x = x.map fun (a, b) => (withValue alg a, withValue alg b) :=
  list_eq_map rfl (fun (_, _) _ => rfl) x

theorem foldColumnName_eq (x : ColumnName Expr) : foldColumnName alg x = x.map (withValue alg) := by
  cases x <;> rfl

theorem foldColumnRef_eq (x : ColumnRef Expr) : foldColumnRef alg x = x.map (withValue alg) := by
  obtain ⟨db, schema, table, column, collate, parens⟩ := x
  exact congrArg (ColumnRef.mk db schema table · collate parens) (foldColumnName_eq alg column)

theorem foldColumnRefs_eq (x : List (ColumnRef Expr)) :
    foldColumnRefs alg x = x.map (·.map (withValue alg)) :=
  list_eq_map rfl (fun c _ => congrArg (· :: _) (foldColumnRef_eq alg c)) x

theorem foldOrderItems_eq (x : List (OrderItem Expr)) :
    foldOrderItems alg x = x.map (·.map (withValue alg)) :=
  list_eq_map rfl (fun ⟨_, _, _⟩ _ => rfl) x

theorem foldOptOrderItems_eq (x : Option (List (OrderItem Expr))) :
    foldOptOrderItems alg x = x.map (·.map (·.map (withValue alg))) := by
  cases x with
  | none => rfl
  | some is => exact congrArg some (foldOrderItems_eq alg is)

theorem foldWindowSpec_eq (x : WindowSpec Expr) : foldWindowSpec alg x = x.map (withValue alg) := by
  obtain ⟨name, partitionBy, orderBy, frame⟩ := x
  show WindowSpec.mk name (foldOptOrderItems alg partitionBy)
      (foldOptOrderItems alg orderBy) frame = _
  rw [foldOptOrderItems_eq, foldOptOrderItems_eq]
  rfl

theorem foldOptWindowSpec_eq (x : Option (WindowSpec Expr)) :
    foldOptWindowSpec alg x = x.map (·.map (withValue alg)) := by
  cases x with
  | none => rfl
  | some w => exact congrArg some (foldWindowSpec_eq alg w)

theorem foldNamedWindow_eq (x : NamedWindow Expr) :
    foldNamedWindow alg x = x.map (withValue alg) := by
  obtain ⟨name, spec⟩ := x
  exact congrArg (NamedWindow.mk name) (foldWindowSpec_eq alg spec)

theorem foldNamedWindows_eq (x : List (NamedWindow Expr)) :
    foldNamedWindows alg x = x.map (·.map (withValue alg)) :=
  list_eq_map rfl (fun w _ => congrArg (· :: _) (foldNamedWindow_eq alg w)) x

theorem foldOptNamedWindows_eq (x : Option (List (NamedWindow Expr))) :
    foldOptNamedWindows alg x = x.map (·.map (·.map (withValue alg))) := by
  cases x with
  | none => rfl
  | some ws => exact congrArg some (foldNamedWindows_eq alg ws)

theorem foldDataType_eq (x : DataType Expr) : foldDataType alg x = x.map (withValue alg) := by
  obtain ⟨name, length, scale, args, suffix, array⟩ := x
  exact congrArg (DataType.mk name length scale · suffix array) (foldList_eq alg args)

theorem foldColumnDefinition_eq (x : ColumnDefinition Expr) :
    foldColumnDefinition alg x = x.map (withValue alg) := by
  obtain ⟨column, type, nullable, defaultValue, autoIncrement, unique, primaryKey, comment,
      collate⟩ := x
  show ColumnDefinition.mk (foldColumnRef alg column) (foldDataType alg type) nullable
      (foldOpt alg defaultValue)
    autoIncrement unique primaryKey (foldOpt alg comment) collate = _
  rw [foldColumnRef_eq, foldDataType_eq, foldOpt_eq, foldOpt_eq]
  rfl

theorem foldCaseArm_eq (x : CaseArm Expr) : foldCaseArm alg x = x.map (withValue alg) := by
  cases x <;> rfl

theorem foldCaseArms_eq (x : List (CaseArm Expr)) :
    foldCaseArms alg x = x.map (·.map (withValue alg)) :=
  list_eq_map rfl (fun a _ => congrArg (· :: _) (foldCaseArm_eq alg a)) x

theorem foldTable_eq (x : Table Expr) : foldTable alg x = x.map (withValue alg) := by
  obtain ⟨db, schema, table, expr, aliasName, join, condition, usingColumns, addition, kind⟩ := x
  show Table.mk db schema table (foldOpt alg expr) aliasName join
      (foldOpt alg condition) usingColumns addition kind = _
  rw [foldOpt_eq, foldOpt_eq]
  rfl

theorem foldTables_eq (x : List (Table Expr)) : foldTables alg x = x.map (·.map (withValue alg)) :=
  list_eq_map rfl (fun t _ => congrArg (· :: _) (foldTable_eq alg t)) x

theorem foldOptTables_eq (x : Option (List (Table Expr))) :
    foldOptTables alg x = x.map (·.map (·.map (withValue alg))) := by
  cases x with
  | none => rfl
  | some ts => exact congrArg some (foldTables_eq alg ts)

theorem foldColumnList_eq (x : List (Column Expr)) :
    foldColumnList alg x = x.map (·.map (withValue alg)) :=
  list_eq_map rfl (fun ⟨_, _⟩ _ => rfl) x

theorem foldColumns_eq (x : Columns Expr) : foldColumns alg x = x.map (withValue alg) := by
  cases x with
  | all => rfl
  | list items => exact congrArg Columns.list (foldColumnList_eq alg items)

theorem foldOptColumns_eq (x : Option (Columns Expr)) :
    foldOptColumns alg x = x.map (·.map (withValue alg)) := by
  cases x with
  | none => rfl
  | some c => exact congrArg some (foldColumns_eq alg c)

theorem foldCtes_eq (x : List (Cte Expr)) : foldCtes alg x = x.map (·.map (withValue alg)) :=
  list_eq_map rfl (fun ⟨_, _, _, _⟩ _ => rfl) x

theorem foldOptCtes_eq (x : Option (List (Cte Expr))) :
    foldOptCtes alg x = x.map (·.map (·.map (withValue alg))) := by
  cases x with
  | none => rfl
  | some cs => exact congrArg some (foldCtes_eq alg cs)

theorem foldLimit_eq (x : Limit Expr) : foldLimit alg x = x.map (withValue alg) := by
  obtain ⟨count, offset, comma, fetchSuffix⟩ := x
  show Limit.mk (foldOpt alg count) (foldOpt alg offset) comma fetchSuffix = _
  rw [foldOpt_eq, foldOpt_eq]
  rfl

theorem foldOptLimit_eq (x : Option (Limit Expr)) :
    foldOptLimit alg x = x.map (·.map (withValue alg)) := by
  cases x with
  | none => rfl
  | some l => exact congrArg some (foldLimit_eq alg l)

theorem foldSelect_eq (x : Select Expr) : foldSelect alg x = x.map (withValue alg) := by
  obtain ⟨withs, distinct, columns, tables, condition, groupBy, having, windows, orderBy, limit,
    setOperator, parens⟩ := x
  show Select.mk (foldOptCtes alg withs) distinct (foldColumns alg columns)
      (foldOptTables alg tables)
    (foldOpt alg condition) (foldOptList alg groupBy) (foldOpt alg having)
    (foldOptNamedWindows alg windows) (foldOptOrderItems alg orderBy)
    (foldOptLimit alg limit) setOperator parens = _
  rw [foldOptCtes_eq, foldColumns_eq, foldOptTables_eq, foldOpt_eq, foldOptList_eq, foldOpt_eq,
    foldOptNamedWindows_eq, foldOptOrderItems_eq, foldOptLimit_eq]
  rfl

theorem foldSelects_eq (x : List (Select Expr)) :
    foldSelects alg x = x.map (·.map (withValue alg)) :=
  list_eq_map rfl (fun s _ => congrArg (· :: _) (foldSelect_eq alg s)) x

theorem foldQuery_eq (x : Query Expr) : foldQuery alg x = x.map (withValue alg) := by
  obtain ⟨head, rest⟩ := x
  show Query.mk (foldSelect alg head) (foldSelects alg rest) = _
  rw [foldSelect_eq, foldSelects_eq]
  rfl

theorem foldAssignments_eq (x : List (Assignment Expr)) :
    foldAssignments alg x = x.map (·.map (withValue alg)) :=
  list_eq_map rfl (fun ⟨_, _, _⟩ _ => rfl) x

theorem foldOptAssignments_eq (x : Option (List (Assignment Expr))) :
    foldOptAssignments alg x = x.map (·.map (·.map (withValue alg))) := by
  cases x with
  | none => rfl
  | some as => exact congrArg some (foldAssignments_eq alg as)

theorem foldInsertSource_eq (x : InsertSource Expr) :
    foldInsertSource alg x = x.map (withValue alg) := by
  cases x with
  | rows rs => exact congrArg InsertSource.rows (foldList_eq alg rs)
  | query q => rfl

theorem foldOptInsertSource_eq (x : Option (InsertSource Expr)) :
    foldOptInsertSource alg x = x.map (·.map (withValue alg)) := by
  cases x with
  | none => rfl
  | some s => exact congrArg some (foldInsertSource_eq alg s)

theorem foldInsert_eq (x : Insert Expr) : foldInsert alg x = x.map (withValue alg) := by
  obtain ⟨tables, columns, source, into, onDuplicate, returning⟩ := x
  show Insert.mk (foldTables alg tables) columns (foldOptInsertSource alg source) into
    (foldOptAssignments alg onDuplicate) (foldOptColumns alg returning) = _
  rw [foldTables_eq, foldOptInsertSource_eq, foldOptAssignments_eq, foldOptColumns_eq]
  rfl

theorem foldNode_eq (n : Node Expr) : foldNode alg n = n.map (withValue alg) := by
  cases n with
  | column c => exact congrArg Node.column (foldColumnRef_eq alg c)
  | call name args window suffix p =>
    show Node.call name (foldOpt alg args) (foldOptWindowSpec alg window) suffix p = _
    rw [foldOpt_eq, foldOptWindowSpec_eq]
    rfl
  | aggregate name arg distinct orderBy separator window p =>
    show Node.aggregate name (withValue alg arg) distinct (foldOptOrderItems alg orderBy)
        (foldOpt alg separator)
      (foldOptWindowSpec alg window) p = _
    rw [foldOptOrderItems_eq, foldOpt_eq, foldOptWindowSpec_eq]
    rfl
  | cast keyword e symbol target p =>
    exact congrArg (Node.cast keyword (withValue alg e) symbol · p) (foldDataType_eq alg target)
  | case subject arms p =>
    show Node.case (foldOpt alg subject) (foldCaseArms alg arms) p = _
    rw [foldOpt_eq, foldCaseArms_eq]
    rfl
  | windowCall name args window =>
    show Node.windowCall name (foldOpt alg args) (foldWindowSpec alg window) = _
    rw [foldOpt_eq, foldWindowSpec_eq]
    rfl
  | subscript base indices =>
    exact congrArg (Node.subscript (withValue alg base)) (foldList_eq alg indices)
  | list items separator p => exact congrArg (Node.list · separator p) (foldList_eq alg items)
  | query q => exact congrArg Node.query (foldQuery_eq alg q)
  | mapLiteral keyword entries =>
    exact congrArg (Node.mapLiteral keyword) (foldPairs_eq alg entries)
  | fullText matchWord columns againstWord phrase mode =>
    exact congrArg (Node.fullText matchWord · againstWord (withValue alg phrase) mode)
      (foldColumnRefs_eq alg columns)
  | columnDefinition d => exact congrArg Node.columnDefinition (foldColumnDefinition_eq alg d)
  | collate operand name symbol =>
    exact congrArg (Node.collate · name symbol) (foldOpt_eq alg operand)
  | dataType t => exact congrArg Node.dataType (foldDataType_eq alg t)
  | array keyword brackets items =>
    exact congrArg (Node.array keyword brackets) (foldList_eq alg items)
  | struct keyword items => exact congrArg (Node.struct keyword) (foldList_eq alg items)
  | json keyword items => exact congrArg (Node.json keyword) (foldList_eq alg items)
  | jsonMember key value onNull =>
    exact congrArg (Node.jsonMember (withValue alg key) (withValue alg value))
      (foldOpt_eq alg onNull)
  | anyValue arg window =>
    exact congrArg (Node.anyValue (withValue alg arg)) (foldOptWindowSpec_eq alg window)
  | flatten input path outer recursive mode =>
    show Node.flatten (foldOpt alg input) (foldOpt alg path) (foldOpt alg outer)
        (foldOpt alg recursive)
      (foldOpt alg mode) = _
    rw [foldOpt_eq, foldOpt_eq, foldOpt_eq, foldOpt_eq, foldOpt_eq]
    rfl
  | tableCall name args aliasName =>
    exact congrArg (Node.tableCall name (withValue alg args)) (foldOpt_eq alg aliasName)
  | windows ws => exact congrArg Node.windows (foldNamedWindows_eq alg ws)
  | insert i => exact congrArg Node.insert (foldInsert_eq alg i)
  | tables ts => exact congrArg Node.tables (foldTables_eq alg ts)
  | _ => rfl

/-- The value of an expression is that of its node, given the values of its subexpressions. -/
theorem fold_mk (n : Node Expr) : (Expr.mk n).fold alg = alg (n.map (withValue alg)) :=
  congrArg alg (foldNode_eq alg n)

end Expr

end SqlWeave
