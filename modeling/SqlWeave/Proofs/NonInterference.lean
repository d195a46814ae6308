import SqlWeave.Proofs.Parser.Conjunction
import SqlWeave.Proofs.Parser.Joined
import SqlWeave.Proofs.TableList

/-! What a statement or a subquery does to the references of the text it is added to. The references
of the whole are those of its parts, one after the other, but aliases and names of queries hold for
the whole text: an entry of a part is kept exactly if no other part declares its name. -/

namespace SqlWeave

namespace References

/-- Every entry of the lists of `r` is in those of `joint`. -/
structure Retained (r joint : References) : Prop where
  tables : r.tableList ⊆ joint.tableList
  columns : r.columnList ⊆ joint.columnList

/-- `other` declares no name of `r` anew: none of its queries has the name of a table of `r`, and no
qualifier of a column of `r` stands for another table in `joint`. Where one does, some other
reference has the same entry. -/
structure Undisturbed (r other joint : References) : Prop where
  tables : ∀ t ∈ r.tables, ¬ Hides r.ctes t → Hides other.ctes t →
    ∃ t' ∈ joint.tables, ¬ Hides joint.ctes t' ∧ t'.entry = t.entry
  columns : ∀ c ∈ r.columns, ∀ q, c.table = some q → joint.resolve q ≠ r.resolve q →
    ∃ c' ∈ joint.columns, joint.columnEntry c' = r.columnEntry c

theorem retained_iff {r other joint : References} (htables : r.tables ⊆ joint.tables)
    (hcolumns : r.columns ⊆ joint.columns)
    (hctes : ∀ n, n ∈ joint.ctes ↔ n ∈ r.ctes ∨ n ∈ other.ctes) :
    Retained r joint ↔ Undisturbed r other joint := by
  have hhides (t : TableReference) : Hides joint.ctes t ↔ Hides r.ctes t ∨ Hides other.ctes t := by
    simp only [Hides, hctes, and_or_left]
  constructor
  · intro h
    refine ⟨fun t ht hshown _ => ?_, fun c hc q _ _ => ?_⟩
    · obtain ⟨t', ht', hshown', he⟩ :=
        mem_tableList.mp (h.tables (mem_tableList.mpr ⟨t, ht, hshown, rfl⟩))
      exact ⟨t', ht', hshown', he.symm⟩
    · obtain ⟨c', hc', he⟩ := mem_columnList.mp (h.columns (mem_columnList.mpr ⟨c, hc, rfl⟩))
      exact ⟨c', hc', he.symm⟩
  · intro h
    refine ⟨fun e he => ?_, fun e he => ?_⟩
    · obtain ⟨t, ht, hshown, rfl⟩ := mem_tableList.mp he
      rw [mem_tableList]
      by_cases hother : Hides other.ctes t
      · obtain ⟨t', ht', hshown', he⟩ := h.tables t ht hshown hother
        exact ⟨t', ht', hshown', he.symm⟩
      · exact ⟨t, htables ht, fun hhidden => ((hhides t).mp hhidden).elim hshown hother, rfl⟩
    · obtain ⟨c, hc, rfl⟩ := mem_columnList.mp he
      rw [mem_columnList]
      by_cases hsame : c.table.map joint.resolve = c.table.map r.resolve
      · exact ⟨c, hcolumns hc, by rw [columnEntry, columnEntry, hsame]⟩
      · cases htable : c.table with
        | none =>
          rw [htable] at hsame
          exact absurd rfl hsame
        | some q =>
          have hresolve : joint.resolve q ≠ r.resolve q := by
            rw [htable] at hsame
            exact fun heq => hsame (congrArg some heq)
          obtain ⟨c', hc', he⟩ := h.columns c hc q htable hresolve
          exact ⟨c', hc', he.symm⟩

theorem retained_append_left (r other : References) :
    Retained r (r.append other) ↔ Undisturbed r other (r.append other) :=
  retained_iff (List.subset_append_left _ _) (List.subset_append_left _ _) fun n => by
    simp only [append, List.mem_append, or_comm]

theorem retained_append_right (r other : References) :
    Retained r (other.append r) ↔ Undisturbed r other (other.append r) :=
  retained_iff (List.subset_append_right _ _) (List.subset_append_right _ _) fun n => by
    simp only [append, List.mem_append]

end References

open SqlWeave.Parser

/-- Two texts that are joined by a line with a semicolon note what they note by themselves, and so
does a SELECT with a subquery added to its condition. What each of them lists is kept exactly if the
other does not disturb it. -/
theorem retained_iff_undisturbed (d : Dialect) :
    (∀ s₁ s₂ sc₁ sc₂ r₁ r₂, ClosedBefore d '\n' s₁ → parseScript d s₁ = .ok (sc₁, r₁) →
      parseScript d s₂ = .ok (sc₂, r₂) →
      ∃ sc, parseScript d (s₁ ++ separator ++ s₂) = .ok (sc, r₁.append r₂) ∧
        (References.Retained r₁ (r₁.append r₂) ↔ References.Undisturbed r₁ r₂ (r₁.append r₂)) ∧
        (References.Retained r₂ (r₁.append r₂) ↔ References.Undisturbed r₂ r₁ (r₁.append r₂))) ∧
    ∀ s p q query r noted, EndsInWhere d s p r → ClosedBefore d ')' p →
      ReadsSelect d q query noted →
      ClosedBefore d ')' q →
      ∃ sc sc' added, ReadsQuery d q query added ∧
        parseScript d (s ++ whereWord ++ p) = .ok (sc, r) ∧
        parseScript d (s ++ whereWord ++ conjoined p q) = .ok (sc', r.append added) ∧
        (References.Retained r (r.append added) ↔
          References.Undisturbed r added (r.append added)) := by
  constructor
  · intro s₁ s₂ sc₁ sc₂ r₁ r₂ hclosed h₁ h₂
    exact ⟨_, parseScript_joined (.inr rfl) hclosed h₁ h₂, References.retained_append_left r₁ r₂,
      References.retained_append_right r₂ r₁⟩
  · intro s p q query r noted hwhere hp hq hclosed
    obtain ⟨added, hquery⟩ := hq.query
    obtain ⟨q₁, h₁⟩ := parseScript_where hwhere
    obtain ⟨q₂, h₂⟩ := parseScript_where (hwhere.conjoined hp hquery hclosed)
    exact ⟨_, _, added, hquery, h₁, h₂, References.retained_append_left r added⟩

def Statement.isBareSelect : Statement Expr → Bool
  | .select q => decide q.last.Bare
  | _ => false

theorem Statement.isBareSelect_iff {s : Statement Expr} :
    s.isBareSelect = true ↔ ∃ q, s = .select q ∧ q.last.Bare := by
  cases s <;> simp [isBareSelect]

/-- Two SELECTs that name different tables, and a subquery on a table of its own. -/
theorem unrelated_tables_retained :
    (∃ sc₁ r₁ sc joint, parseScript .mySql "SELECT a.x FROM t AS a" = .ok (sc₁, r₁) ∧
      parseScript .mySql ("SELECT a.x FROM t AS a" ++ separator ++ "SELECT y FROM u") =
        .ok (sc, joint) ∧
      References.Retained r₁ joint) ∧
    ∃ sc r sc' joint, parseScript .mySql ("SELECT * FROM t" ++ whereWord ++ "x = 1") = .ok (sc, r) ∧
      parseScript .mySql ("SELECT * FROM t" ++ whereWord ++ conjoined "x = 1" "SELECT y FROM u") =
        .ok (sc', joint) ∧ References.Retained r joint := by
  constructor
  · obtain ⟨sc₁, r₁, h₁, hr₁⟩ := parseScript_of_toOption .mySql "SELECT a.x FROM t AS a"
      (fun _ r => (r.columns, r.aliases)) (v := ([⟨"select", some "a", "x"⟩], [("a", "t")]))
        (by decide +kernel)
    obtain ⟨sc₂, r₂, h₂, hr₂⟩ := parseScript_of_toOption .mySql "SELECT y FROM u"
      (fun _ r => (r.aliases, r.ctes)) (v := ([], [])) (by decide +kernel)
    obtain ⟨hcolumns, haliases⟩ := Prod.mk.inj hr₁
    obtain ⟨haliases', hctes⟩ := Prod.mk.inj hr₂
    obtain ⟨sc, h, hiff, _⟩ :=
      (retained_iff_undisturbed .mySql).1 _ _ sc₁ sc₂ r₁ r₂ (by decide +kernel) h₁ h₂
    refine ⟨sc₁, r₁, sc, _, h₁, h, hiff.mpr ⟨?_, ?_⟩⟩
    · simp [References.Hides, hctes]
    · simp [hcolumns, References.resolve, References.append, haliases, haliases']
  · obtain ⟨x, t, ht, heof, hx⟩ := reads_of_toOption
      (nested ((tokensOf .mySql "SELECT * FROM t").length + 1)).statement .mySql "SELECT * FROM t"
      (fun x r => (x.isBareSelect, r.columns)) (v := (true, [⟨"select", none, "(.*)"⟩]))
        (by decide +kernel)
    obtain ⟨hselect, hcolumns⟩ := Prod.mk.inj hx
    obtain ⟨select, rfl, hbare⟩ := Statement.isBareSelect_iff.mp hselect
    obtain ⟨e, u, hu, heof', hcolumns'⟩ := reads_of_toOption
      ((nested ((tokensOf .mySql "x = 1").length + 1)).expr 0) .mySql "x = 1"
      (fun _ r => r.columns) (v := [⟨"select", none, "x"⟩]) (by decide +kernel)
    obtain ⟨query, v, hv, heof'', hctes⟩ := reads_of_toOption
      (nested ((tokensOf .mySql "SELECT y FROM u").length + 1)).query .mySql "SELECT y FROM u"
      (fun _ r => r.ctes) (v := []) (by decide +kernel)
    have hwhere : EndsInWhere .mySql "SELECT * FROM t" "x = 1" (t.references.append u.references) :=
      ⟨⟨select, e, _, _, ⟨t, ht, heof, rfl⟩, hbare, ⟨u, hu, heof', rfl⟩, rfl⟩, by decide +kernel⟩
    have hquery : ReadsSelect .mySql "SELECT y FROM u" query v.references :=
      ⟨v, Nested.statement_select_iff.mpr (.inl ⟨by decide +kernel, hv⟩), heof'', rfl⟩
    obtain ⟨sc, sc', _, ⟨w, hw, -, rfl⟩, h, h', hiff⟩ :=
      (retained_iff_undisturbed .mySql).2 _ _ _ _ _ _
      hwhere (by decide +kernel) hquery (by decide +kernel)
    obtain ⟨-, rfl⟩ := hw.det hv
    refine ⟨sc, _, sc', _, h, h', hiff.mpr ⟨?_, ?_⟩⟩
    · simp [References.Hides, hctes]
    · simp [References.append, hcolumns, hcolumns']

/-- A second statement that declares the same alias takes over the column of the first, and a WITH
clause in a subquery hides the table outside it. -/
theorem declared_names_interfere :
    (∃ sc₁ r₁ sc₂ r₂ sc joint, parseScript .mySql "SELECT a.x FROM t1 AS a" = .ok (sc₁, r₁) ∧
      parseScript .mySql "SELECT a.y FROM t2 AS a" = .ok (sc₂, r₂) ∧
      parseScript .mySql ("SELECT a.x FROM t1 AS a" ++ separator ++ "SELECT a.y FROM t2 AS a") =
        .ok (sc, joint) ∧
      ¬ References.Retained r₁ joint) ∧
    ∃ sc r sc₁ r₁ sc' joint, parseScript .mySql ("SELECT * FROM t" ++ whereWord ++ "1 = 1") =
      .ok (sc, r) ∧
      parseScript .mySql "WITH t AS (SELECT 1) SELECT * FROM t" = .ok (sc₁, r₁) ∧
      parseScript .mySql
        ("SELECT * FROM t" ++ whereWord ++
          conjoined "1 = 1" "WITH t AS (SELECT 1) SELECT * FROM t") = .ok (sc', joint) ∧
      ¬ References.Retained r joint := by
  constructor
  · obtain ⟨sc₁, r₁, h₁, hlist₁⟩ := parseScript_of_toOption .mySql "SELECT a.x FROM t1 AS a"
      (fun _ r => r.columnList) (v := ["select::t1::x"]) (by decide +kernel)
    obtain ⟨sc₂, r₂, h₂, -⟩ := parseScript_of_toOption .mySql "SELECT a.y FROM t2 AS a"
      (fun _ _ => ()) (v := ()) (by decide +kernel)
    obtain ⟨sc, joint, h, hlist⟩ := parseScript_of_toOption .mySql
      ("SELECT a.x FROM t1 AS a" ++ separator ++ "SELECT a.y FROM t2 AS a")
      (fun _ r => r.columnList) (v := ["select::t2::x", "select::t2::y"]) (by decide +kernel)
    refine ⟨sc₁, r₁, sc₂, r₂, sc, joint, h₁, h₂, h, fun hretained => ?_⟩
    have hmem : "select::t1::x" ∈ joint.columnList := hretained.columns (by simp [hlist₁])
    simp [hlist] at hmem
  · obtain ⟨sc, r, h, hlist⟩ :=
      parseScript_of_toOption .mySql ("SELECT * FROM t" ++ whereWord ++ "1 = 1")
      (fun _ r => r.tableList) (v := ["select::null::t"]) (by decide +kernel)
    obtain ⟨sc₁, r₁, h₁, -⟩ := parseScript_of_toOption .mySql "WITH t AS (SELECT 1) SELECT * FROM t"
      (fun _ _ => ()) (v := ()) (by decide +kernel)
    obtain ⟨sc', joint, h', hlist'⟩ := parseScript_of_toOption .mySql
      ("SELECT * FROM t" ++ whereWord ++ conjoined "1 = 1" "WITH t AS (SELECT 1) SELECT * FROM t")
      (fun _ r => r.tableList) (v := []) (by decide +kernel)
    refine ⟨sc, r, sc₁, r₁, sc', joint, h, h₁, h', fun hretained => ?_⟩
    have hmem : "select::null::t" ∈ joint.tableList := hretained.tables (by simp [hlist])
    simp [hlist'] at hmem

end SqlWeave
