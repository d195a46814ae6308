import SqlWeave.Proofs.Parser.ScriptNotes
import SqlWeave.Proofs.References

/-! The table list of a text. It holds an entry for every table that the statements of the text
name, unless the name stands alone and some WITH clause of the text declares it. The same holds of
tables that are written: the name of a query hides the target of a statement too. -/

namespace SqlWeave

open HasParts (parts)
open SqlWeave.Parser (parseScript)

/-- What is returned, from a computed part of it. -/
theorem ok_of_toOption {ε α β : Type} {x : Except ε α} (f : α → β) {v : β}
    (h : x.toOption.map f = some v) : ∃ a, x = .ok a ∧ f a = v := by
  cases x with
  | error e => cases h
  | ok a => exact ⟨a, rfl, Option.some.inj h⟩

/-- What an accepted text comes to, from a computed part of it. -/
theorem parseScript_of_toOption {α : Type} (d : Dialect) (text : String)
    (f : Script Expr → References → α) {v : α}
    (h : (parseScript d text).toOption.map (fun x => f x.1 x.2) = some v) :
    ∃ script refs, parseScript d text = .ok (script, refs) ∧ f script refs = v := by
  obtain ⟨x, hx, hv⟩ := ok_of_toOption _ h
  exact ⟨x.1, x.2, hx, hv⟩

/-- Every table that the tree names has its entry, but for names of queries, and without CREATE
every entry is that of such a table. -/
theorem parseScript_tableList {d : Dialect} {text : String} {script : Script Expr}
    {refs : References} (h : parseScript d text = .ok (script, refs)) :
    (∀ r, script.Names (.table r) → ¬ References.Hides refs.ctes r → r.entry ∈ refs.tableList) ∧
      ((∀ s ∈ script.statements, s.isCreate = false) →
        ∀ e ∈ refs.tableList, ∃ r, script.Names (.table r) ∧ ¬ References.Hides refs.ctes r ∧
          e = r.entry) := by
  have hcovered := Parser.parseScript_covered h
  constructor
  · rintro r ⟨s, hs, hr⟩ hvisible
    exact References.mem_tableList.mpr ⟨r, hcovered.complete s hs _ hr, hvisible, rfl⟩
  · intro hcreate e he
    obtain ⟨r, hr, hvisible, rfl⟩ := References.mem_tableList.mp he
    obtain ⟨s, hs, hnamed⟩ := hcovered.sound hcreate (.table r) rfl hr
    exact ⟨r, ⟨s, hs, hnamed⟩, hvisible, rfl⟩

/-- Without CREATE, what is noted of tables and of names of queries is what the tree names. -/
theorem parseScript_has_iff {d : Dialect} {text : String} {script : Script Expr} {refs : References}
    (h : parseScript d text = .ok (script, refs))
    (hcreate : ∀ s ∈ script.statements, s.isCreate = false) {r : Reference}
    (hkind : r.isColumn = false) : refs.Has r ↔ script.Names r := by
  have hcovered := Parser.parseScript_covered h
  constructor
  · exact hcovered.sound hcreate r hkind
  · rintro ⟨s, hs, hr⟩
    exact hcovered.complete s hs r hr

/-- Texts that are accepted as the same script have the same tables, in any dialects. -/
theorem mem_tableList_congr {d d' : Dialect} {text text' : String} {script : Script Expr}
    {refs refs' : References} (h : parseScript d text = .ok (script, refs))
    (h' : parseScript d' text' = .ok (script, refs'))
    (hcreate : ∀ s ∈ script.statements, s.isCreate = false) (e : String) :
    e ∈ refs'.tableList ↔ e ∈ refs.tableList := by
  have hsame {r : Reference} (hkind : r.isColumn = false) : refs'.Has r ↔ refs.Has r :=
    (parseScript_has_iff h' hcreate hkind).trans (parseScript_has_iff h hcreate hkind).symm
  have htable (t : TableReference) : t ∈ refs'.tables ↔ t ∈ refs.tables := hsame (r := .table t) rfl
  have hcte (name : String) : name ∈ refs'.ctes ↔ name ∈ refs.ctes := hsame (r := .query name) rfl
  simp only [References.mem_tableList, References.Hides, htable, hcte]

/-- The subquery's table is listed under `select` and the target under its own verb, and both
entries come from the tree. -/
theorem parseScript_tableList_delete :
    ∃ script refs,
      parseScript .mySql
          "DELETE FROM shop.orders WHERE id IN (WITH old AS (SELECT id FROM archive) SELECT id FROM old)" =
        .ok (script, refs) ∧
      refs.tableList = ["delete::shop::orders", "select::null::archive"] ∧
      (∀ r, script.Names (.table r) → ¬ References.Hides refs.ctes r → r.entry ∈ refs.tableList) ∧
      ∀ e ∈ refs.tableList, ∃ r, script.Names (.table r) ∧ ¬ References.Hides refs.ctes r ∧
        e = r.entry := by
  obtain ⟨script, refs, h, hf⟩ := parseScript_of_toOption .mySql
    "DELETE FROM shop.orders WHERE id IN (WITH old AS (SELECT id FROM archive) SELECT id FROM old)"
    (fun script refs => (refs.tableList, script.statements.all (!·.isCreate)))
    (v := (["delete::shop::orders", "select::null::archive"], true)) (by decide +kernel)
  obtain ⟨hlist, hcreate⟩ := Prod.mk.inj hf
  refine ⟨script, refs, h, hlist, (parseScript_tableList h).1, (parseScript_tableList h).2 ?_⟩
  simpa using hcreate

/-! ## Tables that are written -/

/-- The tables a statement writes. -/
def Statement.written : Statement Expr → List (Table Expr)
  | .insert i => i.tables
  | .replace i => i.tables
  | .update u => u.tables
  | .delete d => d.targets.getD (d.source.getD [])
  | .create c => c.tables.getD []
  | .drop d => d.names
  | .select _ | .showing _ => []

theorem Table.mem_parts {t : Table Expr} {ts : List (Table Expr)} (h : t ∈ ts) :
    Part.table t ∈ parts ts :=
  List.mem_flatMap.mpr ⟨t, h, List.mem_cons_self⟩

theorem Table.mem_parts_getD {t : Table Expr} {ts : Option (List (Table Expr))}
    (h : t ∈ ts.getD []) :
    Part.table t ∈ parts ts := by
  cases ts with
  | none => exact absurd h List.not_mem_nil
  | some ts => exact parts_some ts ▸ mem_parts h

theorem Statement.mem_parts_of_written {s : Statement Expr} {t : Table Expr} (h : t ∈ s.written) :
    Part.table t ∈ s.parts := by
  cases s with
  | insert i =>
    have htable : Part.table t ∈ HasParts.parts i.tables := Table.mem_parts h
    simp [parts, htable]
  | replace i =>
    have htable : Part.table t ∈ HasParts.parts i.tables := Table.mem_parts h
    simp [parts, htable]
  | update u =>
    have htable : Part.table t ∈ HasParts.parts u.tables := Table.mem_parts h
    simp [parts, htable]
  | delete d =>
    cases htargets : d.targets with
    | none =>
      have hsource : Part.table t ∈ HasParts.parts d.source :=
        Table.mem_parts_getD (by simpa [written, htargets] using h)
      simp [parts, hsource]
    | some ts =>
      have hts : Part.table t ∈ HasParts.parts d.targets :=
        Table.mem_parts_getD (by simpa [written, htargets] using h)
      simp [parts, hts]
  | create c => simp [parts, Table.mem_parts_getD h]
  | drop d =>
    have htable : Part.table t ∈ HasParts.parts d.names := Table.mem_parts h
    simp [parts, htable]
  | select q => exact absurd h List.not_mem_nil
  | showing keyword => exact absurd h List.not_mem_nil

/-- A written table is listed exactly if its name is qualified or no WITH clause of the text
declares it, or another reference happens to have the same entry. -/
theorem written_mem_tableList_iff {d : Dialect} {text : String} {script : Script Expr}
    {refs : References} (h : parseScript d text = .ok (script, refs)) {s : Statement Expr}
    (hs : s ∈ script.statements) {t : Table Expr} (ht : t ∈ s.written) {name : String}
    (hname : t.table = some name) :
    TableReference.entry ⟨s.verb, t.db, name⟩ ∈ refs.tableList ↔
      (t.db.isSome ∨ name ∉ refs.ctes) ∨
        ∃ r ∈ refs.tables, r ≠ ⟨s.verb, t.db, name⟩ ∧ ¬ References.Hides refs.ctes r ∧
          r.entry = TableReference.entry ⟨s.verb, t.db, name⟩ := by
  have hnoted : ⟨s.verb, t.db, name⟩ ∈ refs.tables :=
    (Parser.parseScript_covered h).complete s hs (.table ⟨s.verb, t.db, name⟩)
      ⟨.table t, Statement.mem_parts_of_written ht, Part.names_table.mpr ⟨name, hname, rfl⟩⟩
  have hvisible :
      ¬ References.Hides refs.ctes ⟨s.verb, t.db, name⟩ ↔ t.db.isSome ∨ name ∉ refs.ctes := by
    cases hdb : t.db <;> simp [References.Hides]
  rw [← hvisible, References.mem_tableList]
  constructor
  · rintro ⟨r, hr, hshown, he⟩
    by_cases hsame : r = ⟨s.verb, t.db, name⟩
    · exact .inl (hsame ▸ hshown)
    · exact .inr ⟨r, hr, hsame, hshown, he.symm⟩
  · rintro (hshown | ⟨r, hr, -, hshown, he⟩)
    · exact ⟨_, hnoted, hshown, rfl⟩
    · exact ⟨r, hr, hshown, he.symm⟩

/-- A query that is declared under the target's name inside the statement hides the target. -/
theorem insert_target_hidden :
    ∃ script refs,
      parseScript .mySql "INSERT INTO t WITH t AS (SELECT 1) SELECT * FROM t" = .ok (script, refs) ∧
      (∃ s ∈ script.statements, ∃ t ∈ s.written, s.verb = "insert" ∧ t.db = none ∧
        t.table = some "t") ∧
      TableReference.entry ⟨"insert", none, "t"⟩ ∉ refs.tableList := by
  obtain ⟨script, refs, h, hf⟩ := parseScript_of_toOption .mySql
    "INSERT INTO t WITH t AS (SELECT 1) SELECT * FROM t"
    (fun script refs => (refs.tableList, script.statements.any fun s =>
      s.written.any fun t => s.verb == "insert" && t.db == none && t.table == some "t"))
    (v := ([], true)) (by decide +kernel)
  obtain ⟨hlist, hwritten⟩ := Prod.mk.inj hf
  refine ⟨script, refs, h, ?_, by simp [hlist]⟩
  simpa [and_assoc] using hwritten

/-- A target beside a query of another name is listed. -/
theorem delete_target_listed :
    ∃ script refs,
      parseScript .mySql
        "WITH old AS (SELECT id FROM archive) DELETE FROM orders WHERE id IN (SELECT id FROM old)" =
        .ok (script, refs) ∧
      refs.ctes = ["old"] ∧ TableReference.entry ⟨"delete", none, "orders"⟩ ∈ refs.tableList := by
  obtain ⟨script, refs, h, hf⟩ := parseScript_of_toOption .mySql
    "WITH old AS (SELECT id FROM archive) DELETE FROM orders WHERE id IN (SELECT id FROM old)"
    (fun script refs => (refs.ctes, script.statements.any fun s =>
      s.written.any fun t => s.verb == "delete" && t.db == none && t.table == some "orders"))
    (v := (["old"], true)) (by decide +kernel)
  obtain ⟨hctes, hwritten⟩ := Prod.mk.inj hf
  obtain ⟨s, hs, t, ht, hverb, hdb, hname⟩ : ∃ s ∈ script.statements, ∃ t ∈ s.written,
      s.verb = "delete" ∧ t.db = none ∧ t.table = some "orders" := by
    simpa [and_assoc] using hwritten
  refine ⟨script, refs, h, hctes, ?_⟩
  have hiff := written_mem_tableList_iff h hs ht hname
  rw [hverb, hdb] at hiff
  exact hiff.mpr (.inl (.inr (by simp [hctes])))

end SqlWeave
