import SqlWeave.References

/-! What the reference lists hold. An entry is listed exactly if some reference that is not hidden
is written so, and what was noted on top of earlier references is appended to them. -/

namespace SqlWeave

/-- The entry a table is listed under. -/
def TableReference.entry (t : TableReference) : String := References.entry t.verb t.db t.table

namespace References

theorem mem_distinct_go {e : String} : ∀ (entries seen : List String),
    e ∈ distinct.go seen entries ↔ e ∈ entries ∧ e ∉ seen
  | [], seen => by simp [distinct.go]
  | x :: xs, seen => by
    unfold distinct.go
    split
    · rename_i hx
      rw [mem_distinct_go xs seen, List.mem_cons]
      constructor
      · rintro ⟨h, hn⟩
        exact ⟨.inr h, hn⟩
      · rintro ⟨rfl | h, hn⟩
        · exact absurd hx hn
        · exact ⟨h, hn⟩
    · rename_i hx
      rw [List.mem_cons, mem_distinct_go xs (x :: seen), List.mem_cons, List.mem_cons]
      constructor
      · rintro (rfl | ⟨h, hn⟩)
        · exact ⟨.inl rfl, hx⟩
        · exact ⟨.inr h, fun hs => hn (.inr hs)⟩
      · rintro ⟨rfl | h, hn⟩
        · exact .inl rfl
        · by_cases he : e = x
          · exact .inl he
          · exact .inr ⟨h, fun hs => hs.elim he hn⟩

theorem mem_distinct {e : String} {entries : List String} : e ∈ distinct entries ↔ e ∈ entries := by
  simp [distinct, mem_distinct_go]

/-- Whether a name without a qualifier is one that a WITH clause declares. -/
def Hides (ctes : List String) (t : TableReference) : Prop := t.db = none ∧ t.table ∈ ctes

theorem isTable_iff {r : References} {t : TableReference} :
    r.isTable t = true ↔ ¬ Hides r.ctes t := by
  unfold isTable Hides
  cases t.db <;> simp

theorem mem_tableList {r : References} {e : String} :
    e ∈ r.tableList ↔ ∃ t ∈ r.tables, ¬ Hides r.ctes t ∧ e = t.entry := by
  simp only [tableList, mem_distinct, List.mem_map, List.mem_filter, isTable_iff]
  constructor
  · rintro ⟨t, ⟨ht, hn⟩, rfl⟩
    exact ⟨t, ht, hn, rfl⟩
  · rintro ⟨t, ht, hn, rfl⟩
    exact ⟨t, ⟨ht, hn⟩, rfl⟩

/-- The entry a column is listed under. -/
def columnEntry (r : References) (c : ColumnReference) : String :=
  entry c.verb (c.table.map r.resolve) c.column

theorem mem_columnList {r : References} {e : String} :
    e ∈ r.columnList ↔ ∃ c ∈ r.columns, e = r.columnEntry c := by
  simp only [columnList, mem_distinct, List.mem_map]
  constructor
  · rintro ⟨c, hc, rfl⟩
    exact ⟨c, hc, rfl⟩
  · rintro ⟨c, hc, rfl⟩
    exact ⟨c, hc, rfl⟩

/-! ## References noted after others -/

/-- Earlier references and those noted after them; the latest declaration of an alias stands
first. -/
def append (earlier later : References) : References where
  tables := earlier.tables ++ later.tables
  columns := earlier.columns ++ later.columns
  aliases := later.aliases ++ earlier.aliases
  ctes := later.ctes ++ earlier.ctes

theorem append_empty (r : References) : r.append empty = r := by
  simp [append, empty]

theorem empty_append (r : References) : empty.append r = r := by
  simp [append, empty]

theorem append_assoc (a b c : References) : (a.append b).append c = a.append (b.append c) := by
  simp [append]

theorem append_addTable (a r : References) (verb : String) (db : Option String) (table : String) :
    a.append (r.addTable verb db table) = (a.append r).addTable verb db table := by
  simp [append, addTable]

theorem append_addColumn (a r : References) (verb : String) (table : Option String)
    (column : String) :
    a.append (r.addColumn verb table column) = (a.append r).addColumn verb table column := by
  simp [append, addColumn]

theorem append_addAlias (a r : References) (aliasName table : String) :
    a.append (r.addAlias aliasName table) = (a.append r).addAlias aliasName table := by
  simp [append, addAlias]

theorem append_addCte (a r : References) (name : String) :
    a.append (r.addCte name) = (a.append r).addCte name := by
  simp [append, addCte]

end References

end SqlWeave
