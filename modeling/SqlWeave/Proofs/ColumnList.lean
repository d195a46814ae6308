import SqlWeave.Proofs.TableList
import SqlWeave.Session

/-! The column list of a text. It holds an entry for every column that the statements of the text
name, under the table its qualifier stands for, and for every select list that is a star or starts
with one. A star further on in a select list has no entry. -/

namespace SqlWeave

open HasParts (parts)
open SqlWeave.Parser (parseScript)

namespace References

/-- The entry of every column, of whatever table. -/
def starEntry (verb : String) : String := entry verb none "(.*)"

theorem columnEntry_star (r : References) (verb : String) :
    r.columnEntry (.of verb none "*") = starEntry verb := by
  simp [columnEntry, ColumnReference.of, starEntry]

theorem columnEntry_mem {r : References} {c : ColumnReference} (h : r.Has (.column c)) :
    r.columnEntry c ∈ r.columnList :=
  mem_columnList.mpr ⟨c, h, rfl⟩

end References

theorem Script.Holds.has {d : Dialect} {text : String} {script : Script Expr} {refs : References}
    (h : parseScript d text = .ok (script, refs)) {v : String} {q : Part} (hheld : script.Holds v q)
    {r : Reference} (hr : q.Refers v r) : refs.Has r := by
  obtain ⟨s, hs, hheld⟩ := hheld
  exact (Parser.parseScript_covered h).complete s hs r (hheld.names hr)

/-- Every column that the tree names has its entry. -/
theorem parseScript_columnList {d : Dialect} {text : String} {script : Script Expr}
    {refs : References} (h : parseScript d text = .ok (script, refs)) {v : String}
    {table : Option String} {name : String} (hheld : script.Holds v (.column table name)) :
    refs.columnEntry (.of v table name) ∈ refs.columnList :=
  References.columnEntry_mem (hheld.has h rfl)

/-- The column that a part is. -/
def Part.column? : Part → Option (Option String × String)
  | .column qualifier name => some (qualifier, name)
  | _ => none

theorem Part.eq_of_column? {p : Part} {c : Option String × String} (h : p.column? = some c) :
    p = .column c.1 c.2 := by
  cases p <;> cases h
  rfl

/-- The column of an assignment is listed under the table that its qualifier stands for. -/
theorem parseScript_columnList_update :
    ∃ script refs,
      parseScript .mySql
          "UPDATE orders AS o SET o.total = 1 WHERE o.id IN (SELECT a.id FROM archive AS a)" =
        .ok (script, refs) ∧
      script.Holds "update" (.column (some "o") "total") ∧
      refs.columnEntry (.of "update" (some "o") "total") = "update::orders::total" ∧
      refs.columnEntry (.of "update" (some "o") "total") ∈ refs.columnList := by
  obtain ⟨script, refs, h, hf⟩ := parseScript_of_toOption .mySql
    "UPDATE orders AS o SET o.total = 1 WHERE o.id IN (SELECT a.id FROM archive AS a)"
    (fun script refs => (refs.columnEntry (.of "update" (some "o") "total"),
      script.statements.any fun s =>
      s.verb == "update" && s.parts.any fun p => p.column? == some (some "o", "total")))
    (v := ("update::orders::total", true)) (by decide +kernel)
  obtain ⟨hentry, hassigned⟩ := Prod.mk.inj hf
  obtain ⟨s, hs, hverb, p, hp, hcolumn⟩ : ∃ s ∈ script.statements, s.verb = "update" ∧
      ∃ p ∈ s.parts, p.column? = some (some "o", "total") := by
    simpa using hassigned
  have hheld : script.Holds "update" (.column (some "o") "total") :=
    ⟨s, hs, p, hp, by rw [hverb, Part.eq_of_column? hcolumn]; exact .here⟩
  exact ⟨script, refs, h, hheld, hentry, parseScript_columnList h hheld⟩

/-! ## Stars -/

/-- The select list is a star or has one somewhere. -/
def Columns.hasStar : Columns Expr → Bool
  | .all => true
  | .list items => items.any (·.expr.isStar)

namespace Allowlist

/-- A list that does not allow one of the entries denies some entry. -/
theorem denied?_of_mem {a : Allowlist} {entries : List String} {e : String}
    (hempty : a.isEmpty = false) (he : e ∈ entries) (hallow : a.allows e = false) :
    ∃ e', a.denied? entries = some e' := by
  have hfound : (entries.find? (!a.allows ·)).isSome := by
    rw [List.find?_isSome]
    exact ⟨e, he, by simp [hallow]⟩
  rw [denied?, if_neg (by simp [hempty])]
  exact Option.isSome_iff_exists.mp hfound

end Allowlist

theorem mapError_ok {ε ε' α : Type} (f : ε → ε') (x : α) :
    Except.mapError f (.ok x : Except ε α) = .ok x := rfl

/-- A check of columns rejects an accepted text if the list denies an entry. -/
theorem Session.check_denied {s : Session} {o : Options} {d : Dialect} {sql : String}
    {script : Script Expr} {refs : References} (hfrontend : s.frontend o = .ok (.grammar d))
    (hkind : o.check = .column)
    (h : parseScript d (if o.trim then Text.trim sql else sql) = .ok (script, refs))
    {texts : List String} {allow : Allowlist} (hallow : Allowlist.ofTexts texts = .ok allow)
    (hempty : allow.isEmpty = false) {e : String} (he : allow.denied? refs.columnList = some e) :
    s.check sql texts o = .error (.denied .column e sql) := by
  have hread : s.read sql o = .ok ⟨script, refs.tableList, refs.columnList⟩ := by
    simp [Session.read, hfrontend, Frontend.grammar, h, bind, Except.bind, Except.map, mapError_ok]
  simp [Session.check, hallow, hempty, hread, Reading.entries, hkind, he, bind, Except.bind,
    mapError_ok, throw, throwThe, MonadExceptOf.throw]

theorem Statement.holds_selected (q : Query Expr) :
    (Statement.select q).Holds "select" (.columns q.head.columns) := by
  refine ⟨.expr (.query q), List.mem_singleton_self _,
    .expr (p := .columns q.head.columns) ?_ .here⟩
  simp [Node.parts]

/-- The query of a statement that is one. -/
def Statement.query? : Statement Expr → Option (Query Expr)
  | .select q => some q
  | _ => none

theorem Statement.eq_of_query? {s : Statement Expr} {q : Query Expr} (h : s.query? = some q) :
    s = .select q := by
  cases s <;> cases h
  rfl

/-- The queries of a script. -/
def Script.queries (script : Script Expr) : List (Query Expr) :=
  script.statements.filterMap Statement.query?

theorem Script.holds_selected {script : Script Expr} {q : Query Expr} (h : q ∈ script.queries) :
    script.Holds "select" (.columns q.head.columns) := by
  obtain ⟨s, hs, hq⟩ := List.mem_filterMap.mp h
  exact ⟨s, hs, Statement.eq_of_query? hq ▸ Statement.holds_selected q⟩

/-- A select list that is a star or starts with one has the entry of every column, under the verb it
stands under, and a check of columns that does not allow this entry rejects the text. -/
theorem leading_star_listed {d : Dialect} {text : String} {script : Script Expr} {refs : References}
    (h : parseScript d text = .ok (script, refs)) {v : String} {list : Columns Expr}
    (hheld : script.Holds v (.columns list)) (hstar : list.startsWithStar = true) :
    References.starEntry v ∈ refs.columnList ∧
      ∀ (s : Session) (o : Options) (sql : String) (texts : List String) (allow : Allowlist),
        s.frontend o = .ok (.grammar d) → o.check = .column →
        (if o.trim then Text.trim sql else sql) = text → Allowlist.ofTexts texts = .ok allow →
        allow.isEmpty = false → allow.allows (References.starEntry v) = false →
        ∃ e, s.check sql texts o = .error (.denied .column e sql) := by
  have hlisted : References.starEntry v ∈ refs.columnList := by
    rw [← refs.columnEntry_star]
    exact References.columnEntry_mem (hheld.has h ⟨hstar, rfl⟩)
  refine ⟨hlisted, fun s o sql texts allow hfrontend hkind hsql hallow hempty hdenied => ?_⟩
  obtain ⟨e, he⟩ := Allowlist.denied?_of_mem hempty hlisted hdenied
  exact ⟨e, Session.check_denied hfrontend hkind (hsql ▸ h) hallow hempty he⟩

/-- A list that allows the other column only rejects the text. -/
theorem leading_star_listed_rejected :
    ∃ script refs list,
      parseScript .mySql "SELECT *, _ FROM t" = .ok (script, refs) ∧
      script.Holds "select" (.columns list) ∧ list.startsWithStar = true ∧
      References.starEntry "select" ∈ refs.columnList ∧
      ∃ e, Session.standard.check "SELECT *, _ FROM t" ["_"] { check := .column, trim := false } =
        .error (.denied .column e "SELECT *, _ FROM t") := by
  obtain ⟨script, refs, h, hstar⟩ := parseScript_of_toOption .mySql "SELECT *, _ FROM t"
    (fun script _ => script.queries.any (·.head.columns.startsWithStar)) (v := true)
      (by decide +kernel)
  obtain ⟨q, hq, hstar⟩ := List.any_eq_true.mp hstar
  have hheld := Script.holds_selected hq
  obtain ⟨hlisted, hrejected⟩ := leading_star_listed h hheld hstar
  obtain ⟨allow, hallow, hdenied⟩ : ∃ allow, Allowlist.ofTexts ["_"] = .ok allow ∧
      (allow.isEmpty, allow.allows (References.starEntry "select")) = (false, false) :=
    ok_of_toOption (fun a : Allowlist => (a.isEmpty, a.allows (References.starEntry "select")))
      (by decide +kernel)
  obtain ⟨hempty, hdenied⟩ := Prod.mk.inj hdenied
  refine ⟨script, refs, _, h, hheld, hstar, hlisted, ?_⟩
  exact hrejected .standard { check := .column, trim := false } _ _ allow rfl rfl rfl hallow
    hempty hdenied

/-- A star after another column has no entry. -/
theorem later_star_unlisted :
    ∃ script refs list,
      parseScript .mySql "SELECT a, * FROM t" = .ok (script, refs) ∧
      script.Holds "select" (.columns list) ∧ list.hasStar = true ∧
      References.starEntry "select" ∉ refs.columnList := by
  obtain ⟨script, refs, h, hf⟩ := parseScript_of_toOption .mySql "SELECT a, * FROM t"
    (fun script refs => (refs.columnList, script.queries.any (·.head.columns.hasStar)))
    (v := (["select::null::a"], true)) (by decide +kernel)
  obtain ⟨hlist, hstar⟩ := Prod.mk.inj hf
  obtain ⟨q, hq, hstar⟩ := List.any_eq_true.mp hstar
  refine ⟨script, refs, _, h, Script.holds_selected hq, hstar, ?_⟩
  rw [hlist]
  decide

end SqlWeave
