import SqlWeave.Proofs.References

/-! Runs of notes. Whatever is noted in whatever order, no list has an entry twice, a reference adds
no more than one entry at the end of its list, and the places of the declarations between the
references do not matter. -/

namespace SqlWeave.References

/-! ## Distinct entries -/

theorem nodup_distinct_go : ∀ entries seen : List String, (distinct.go seen entries).Nodup
  | [], _ => List.nodup_nil
  | e :: es, seen => by
    unfold distinct.go
    split
    · exact nodup_distinct_go es seen
    · refine List.nodup_cons.mpr ⟨fun hmem => ?_, nodup_distinct_go es (e :: seen)⟩
      exact ((mem_distinct_go es (e :: seen)).mp hmem).2 List.mem_cons_self

theorem nodup_distinct (entries : List String) : (distinct entries).Nodup :=
  nodup_distinct_go entries []

theorem distinct_go_append (last : String) : ∀ entries seen : List String,
    distinct.go seen (entries ++ [last]) =
      if last ∈ entries ∨ last ∈ seen then distinct.go seen entries
        else distinct.go seen entries ++ [last]
  | [], seen => by simp [distinct.go]
  | e :: es, seen => by
    rw [List.cons_append]
    unfold distinct.go
    have hmem : last ∈ e :: es ∨ last ∈ seen ↔ last ∈ es ∨ last ∈ e :: seen := by
      simp only [List.mem_cons, or_assoc, or_left_comm]
    by_cases he : e ∈ seen
    · have hskip : last ∈ es ∨ last ∈ seen ↔ last ∈ e :: es ∨ last ∈ seen := by
        rw [hmem, List.mem_cons]
        exact ⟨fun h => h.imp_right .inr, fun h => h.imp_right fun h => h.elim (· ▸ he) id⟩
      rw [if_pos he, if_pos he, distinct_go_append last es seen]
      simp only [hskip]
    · rw [if_neg he, if_neg he, distinct_go_append last es (e :: seen)]
      simp only [← hmem]
      split <;> rfl

/-- One more entry either is there already or comes last. -/
theorem distinct_append (entries : List String) (last : String) :
    distinct (entries ++ [last]) = distinct entries ∨
      distinct (entries ++ [last]) = distinct entries ++ [last] := by
  unfold distinct
  rw [distinct_go_append]
  split
  · exact .inl rfl
  · exact .inr rfl

/-! ## Steps -/

/-- What can be noted. -/
inductive Step where
  | table (verb : String) (db : Option String) (name : String)
  | column (verb : String) (qualifier : Option String) (name : String)
  | aliasOf (name target : String)
  | cte (name : String)
deriving DecidableEq

def apply (r : References) : Step → References
  | .table verb db name => r.addTable verb db name
  | .column verb qualifier name => r.addColumn verb qualifier name
  | .aliasOf name target => r.addAlias name target
  | .cte name => r.addCte name

def run (r : References) (steps : List Step) : References := steps.foldl apply r

theorem run_append (r : References) (steps : List Step) (s : Step) :
    r.run (steps ++ [s]) = (r.run steps).apply s := by
  rw [run, List.foldl_append]
  rfl

/-- The list with the entry at its end, if it is not there already. -/
def Extended (before : List String) (e : String) (after : List String) : Prop :=
  after = before ∨ after = before ++ [e]

/-- What a step makes of the lists. -/
def Step.Effect (before after : References) : Step → Prop
  | .table verb db name =>
    after.columnList = before.columnList ∧
      Extended before.tableList (entry verb db name) after.tableList
  | .column verb qualifier name =>
    after.tableList = before.tableList ∧
      Extended before.columnList
        (entry verb (qualifier.map before.resolve) (if name = "*" then "(.*)" else name))
          after.columnList
  | .aliasOf _ _ => after.tableList = before.tableList
  | .cte _ => after.columnList = before.columnList ∧ after.tableList ⊆ before.tableList

theorem tableList_addTable (r : References) (verb : String) (db : Option String) (table : String) :
    Extended r.tableList (entry verb db table) (r.addTable verb db table).tableList := by
  have hlist : (r.addTable verb db table).tableList =
      distinct (((r.tables ++ [(⟨verb, db, table⟩ : TableReference)]).filter r.isTable).map
        TableReference.entry) := rfl
  rw [hlist, tableList, List.filter_append, List.map_append]
  by_cases hshown : r.isTable ⟨verb, db, table⟩ = true
  · rw [List.filter_cons_of_pos hshown]
    exact distinct_append _ _
  · rw [List.filter_cons_of_neg hshown, List.filter_nil, List.map_nil, List.append_nil]
    exact .inl rfl

theorem columnList_addColumn (r : References) (verb : String) (table : Option String)
    (column : String) :
    Extended r.columnList (entry verb (table.map r.resolve) (if column = "*" then "(.*)"
      else column))
      (r.addColumn verb table column).columnList := by
  have hlist : (r.addColumn verb table column).columnList =
      distinct ((r.columns ++
        [(⟨verb, table, if column = "*" then "(.*)" else column⟩ : ColumnReference)]).map
        r.columnEntry) := rfl
  rw [hlist, columnList, List.map_append]
  exact distinct_append _ _

/-- A name that is declared can only hide tables. -/
theorem tableList_addCte (r : References) (name : String) :
    (r.addCte name).tableList ⊆ r.tableList := by
  intro e he
  obtain ⟨t, ht, hshown, rfl⟩ := mem_tableList.mp he
  exact mem_tableList.mpr ⟨t, ht,
    fun hhidden => hshown ⟨hhidden.1, List.mem_cons_of_mem _ hhidden.2⟩, rfl⟩

theorem Step.effect (r : References) (s : Step) : s.Effect r (r.apply s) := by
  cases s with
  | table verb db name => exact ⟨rfl, r.tableList_addTable verb db name⟩
  | column verb qualifier name => exact ⟨rfl, r.columnList_addColumn verb qualifier name⟩
  | aliasOf name target => rfl
  | cte name => exact ⟨rfl, r.tableList_addCte name⟩

/-! ## Runs -/

namespace Step

def table? : Step → Option TableReference
  | .table verb db name => some ⟨verb, db, name⟩
  | _ => none

def column? : Step → Option ColumnReference
  | .column verb qualifier name => some ⟨verb, qualifier, if name = "*" then "(.*)" else name⟩
  | _ => none

def alias? : Step → Option (String × String)
  | .aliasOf name target => some (name, target)
  | _ => none

def cte? : Step → Option String
  | .cte name => some name
  | _ => none

end Step

/-- What a run has noted, later declarations first. -/
theorem run_eq (r : References) (steps : List Step) :
    r.run steps = {
      tables := r.tables ++ steps.filterMap Step.table?
      columns := r.columns ++ steps.filterMap Step.column?
      aliases := (steps.filterMap Step.alias?).reverse ++ r.aliases
      ctes := (steps.filterMap Step.cte?).reverse ++ r.ctes } := by
  induction steps generalizing r with
  | nil => simp [run]
  | cons s steps ih =>
    have hstep : r.run (s :: steps) = (r.apply s).run steps := rfl
    rw [hstep, ih]
    cases s <;>
      simp [apply, addTable, addColumn, addAlias, addCte, List.filterMap_cons, Step.table?,
        Step.column?, Step.alias?, Step.cte?]

/-- The same steps in an order that keeps that of the tables, that of the columns and, for each name
by itself, that of the declarations of this name as an alias. -/
structure Reordered (steps steps' : List Step) : Prop where
  perm : steps.Perm steps'
  tables : steps.filterMap Step.table? = steps'.filterMap Step.table?
  columns : steps.filterMap Step.column? = steps'.filterMap Step.column?
  aliases : ∀ name, (steps.filterMap Step.alias?).filter (·.1 == name) =
    (steps'.filterMap Step.alias?).filter (·.1 == name)

/-- Only the declarations of a name matter for what it stands for. -/
theorem lookup_filter (name : String) (aliases : List (String × String)) :
    (aliases.filter (·.1 == name)).lookup name = aliases.lookup name := by
  induction aliases with
  | nil => rfl
  | cons a aliases ih =>
    obtain ⟨aliasName, table⟩ := a
    by_cases hname : aliasName = name
    · subst hname
      simp
    · simp [List.lookup_cons, hname, beq_false_of_ne (Ne.symm hname), ih]

theorem Reordered.resolve {steps steps' : List Step} (h : Reordered steps steps') (r : References) :
    (r.run steps).resolve = (r.run steps').resolve := by
  funext name
  have hdeclared : ((steps.filterMap Step.alias?).reverse ++ r.aliases).lookup name =
      ((steps'.filterMap Step.alias?).reverse ++ r.aliases).lookup name := by
    rw [← lookup_filter, ← lookup_filter name (_ ++ _), List.filter_append, List.filter_append,
      List.filter_reverse, List.filter_reverse, h.aliases]
  rw [References.resolve, References.resolve, run_eq, run_eq, hdeclared]

theorem Reordered.isTable {steps steps' : List Step} (h : Reordered steps steps') (r : References) :
    (r.run steps).isTable = (r.run steps').isTable := by
  have hctes : (r.run steps).ctes.Perm (r.run steps').ctes := by
    rw [run_eq, run_eq]
    exact .append_right _ ((List.reverse_perm _).trans
      ((h.perm.filterMap _).trans (List.reverse_perm _).symm))
  funext t
  rw [References.isTable, References.isTable, hctes.contains_eq]

/-- After every run no entry is listed twice, every further step has its effect and no other, and a
run of the same steps in another order that keeps the references and the declarations of each alias
in theirs gives the same lists. -/
theorem run_lists (r : References) (steps : List Step) :
    ((r.run steps).tableList.Nodup ∧ (r.run steps).columnList.Nodup) ∧
    (∀ s : Step, s.Effect (r.run steps) (r.run (steps ++ [s]))) ∧
    ∀ steps', Reordered steps steps' →
      (r.run steps').tableList = (r.run steps).tableList ∧
        (r.run steps').columnList = (r.run steps).columnList := by
  refine ⟨⟨nodup_distinct _, nodup_distinct _⟩, fun s => ?_, fun steps' h => ⟨?_, ?_⟩⟩
  · rw [run_append]
    exact Step.effect _ s
  · have htables : (r.run steps').tables = (r.run steps).tables := by rw [run_eq, run_eq, h.tables]
    rw [tableList, tableList, htables, h.isTable]
  · have hcolumns : (r.run steps').columns = (r.run steps).columns := by
      rw [run_eq, run_eq, h.columns]
    rw [columnList, columnList, hcolumns, h.resolve]

/-- An alias that is declared twice, a name that a query takes, and two references with one
entry. -/
def declaredLast : List Step :=
  [.table "select" none "recent", .column "select" (some "a") "x", .column "select" (some "u") "x",
    .table "select" (some "null") "recent", .aliasOf "a" "t", .aliasOf "a" "u", .cte "recent"]

def declaredFirst : List Step :=
  [.cte "recent", .aliasOf "a" "t", .column "select" (some "a") "x", .table "select" none "recent",
    .aliasOf "a" "u", .table "select" (some "null") "recent", .column "select" (some "u") "x"]

theorem run_lists_reordered :
    Reordered declaredLast declaredFirst ∧
      (empty.run declaredLast).tableList = ["select::null::recent"] ∧
      (empty.run declaredFirst).tableList = (empty.run declaredLast).tableList ∧
      (empty.run declaredFirst).columnList = (empty.run declaredLast).columnList := by
  have h : Reordered declaredLast declaredFirst := {
    perm := by decide
    tables := rfl
    columns := rfl
    aliases := fun _ => rfl }
  obtain ⟨htables, hcolumns⟩ := (run_lists empty declaredLast).2.2 declaredFirst h
  exact ⟨h, by decide, htables, hcolumns⟩

end SqlWeave.References
