import SqlWeave.Command
import SqlWeave.Proofs.Json.Pretty
import SqlWeave.Proofs.RenderModes
import SqlWeave.Proofs.Trimming

/-! The commands of the command line, one after the other: the tree of a text, as it is written, is
read again and rendered, unless it nests deeper than JSON text is read. -/

namespace SqlWeave

/-! ## The dialect of a session -/

namespace Session

theorem mem_of_lookup_dialects {ds : List Dialect} {s : Session} {key : String} {f : Frontend}
    (h : (ds.foldl (fun s d => s.register d.name (.grammar d)) s).frontends.lookup key = some f) :
    (∃ d ∈ ds, Text.asciiLower d.name = key) ∨ s.frontends.lookup key = some f := by
  induction ds generalizing s with
  | nil => exact .inr h
  | cons d ds ih =>
    rcases ih h with ⟨e, he, hname⟩ | hfound
    · exact .inl ⟨e, List.mem_cons_of_mem d he, hname⟩
    · change (insert _ _ s.frontends).lookup key = some f at hfound
      rw [lookup_insert] at hfound
      split at hfound
      · exact .inl ⟨d, List.mem_cons_self, Eq.symm ‹_›⟩
      · exact .inr hfound

/-- What can be read from a text has a dialect. -/
theorem dialect_of_read {sql : String} {o : Options} {r : Reading}
    (h : standard.read sql o = .ok r) :
    ∃ d, o.dialect? = some d := by
  cases hfrontend : standard.frontends.lookup (Text.asciiLower o.databaseName) with
  | none =>
    rw [read, frontend, hfrontend] at h
    cases h
  | some f =>
    rcases mem_of_lookup_dialects hfrontend with ⟨d, -, hname⟩ | hnone
    · refine ⟨d, ?_⟩
      rw [Options.dialect?, Dialect.ofName?, ← hname]
      exact Dialect.ofName?_name d
    · cases hnone

end Session

/-! ## What is written of a script -/

/-- A statement is tagged with its verb, in every order of fields. -/
theorem Statement.tag?_toJson {c : Json → Json} (hc : Json.Arranges c) (s : Statement Expr)
    {kind : String} (h : (c s.toJson).tag? = some kind) : kind = s.verb := by
  obtain ⟨gs, hgs, hfield⟩ :=
    hc.some_field (("type", .string s.verb) :: (s.map Expr.toJson).toFields)
  have hgs : c s.toJson = .object gs := hgs
  rw [hgs] at h
  obtain ⟨w, hw, hstring⟩ := Option.bind_eq_some_iff.mp h
  obtain ⟨v, hv, rfl⟩ := hfield "type" w hw
  rcases List.mem_cons.mp hv with heq | hv
  · obtain ⟨-, rfl⟩ := Prod.mk.inj heq
    rw [hc.string] at hstring
    exact (Option.some.inj hstring).symm
  · exact absurd hv Statement.no_type

theorem Statement.verb_mem {E : Type} (s : Statement E) : s.verb ∈ Statement.verbs := by
  cases s <;> simp [verb, verbs]

/-- What is written of a script is not taken for an expression. -/
theorem Script.not_isExpression (script : Script Expr) :
    Command.isExpression script.toJson.canonical = false := by
  rw [Command.isExpression]
  cases script with
  | single s =>
    cases htag : (Script.single s).toJson.canonical.tag? with
    | none => rfl
    | some kind =>
      obtain rfl := Statement.tag?_toJson Json.arranges_canonical s htag
      simpa using s.verb_mem
  | several ss =>
    rw [toJson, Json.arranges_canonical.array]
    rfl

example : Command.isExpression (.object [("type", .string "select")]) = false := by decide +kernel

/-! ## Rendering -/

theorem Registry.isStandard_standard : Registry.standard.IsStandard := by
  rintro (_ | _ | _) rules h
  all_goals exact (Option.some.inj h).symm

/-- Best effort writes every script, if there is such a dialect. -/
theorem Options.renderScript_total {o : Options} {d : Dialect} (hmode : o.mode = .bestEffort)
    (hd : o.dialect? = some d) (script : Script Expr) :
    ∃ text, o.renderScript script = .ok text := by
  obtain ⟨text, htext⟩ :=
    (Renderings.script_agrees (d := d) Registry.isStandard_standard script).modesAgree.total
  refine ⟨text, ?_⟩
  have hrenderer : o.renderer = .ok (Renderer.leniently d .standard) := by
    rw [renderer, dialect, hd, hmode]
    rfl
  rw [renderScript, hrenderer]
  change ((Renderer.leniently d .standard).script script).mapError Error.render = _
  rw [htext]
  rfl

/-! ## Reading and writing -/

theorem Session.read_plain {sql : String} {o : Options} {r : Reading}
    (h : standard.read sql o = .ok r) :
    ∀ st ∈ r.script.statements, AllPlain st.slots := by
  obtain ⟨d, hd⟩ := dialect_of_read h
  have hread := (read_eq (standard_frontend hd) sql o.trim).symm.trans h
  cases hparse : Parser.parseScript d (if o.trim then Text.trim sql else sql) with
  | error e =>
    rw [hparse] at hread
    cases hread
  | ok x =>
    rw [hparse] at hread
    cases hread
    exact Parser.parseScript_plain hparse

namespace Command

theorem astify_eq_ok {sql j : String} {o : Options} : astify sql o = .ok j ↔
    ∃ r, Session.standard.read sql o = .ok r ∧ j = r.script.toJson.pretty := by
  rw [astify]
  cases Session.standard.read sql o with
  | error e => exact ⟨nofun, fun ⟨_, h, _⟩ => nomatch h⟩
  | ok r =>
    constructor
    · rintro h
      cases h
      exact ⟨r, rfl, rfl⟩
    · rintro ⟨_, h, rfl⟩
      cases h
      rfl

/-- What is written of a plain script is rendered as the script is, or it nests too deep to be
read. -/
theorem sqlify_pretty {script : Script Expr} (hplain : ∀ st ∈ script.statements, AllPlain st.slots)
    (hnumbers : script.toJson.NumbersReadBack) (o : Options) : sqlify script.toJson.pretty o =
      if script.toJson.depth ≤ Json.maxNesting then (o.renderScript script).mapError .failed
      else .error .notJson := by
  rw [sqlify, Json.read?_pretty hnumbers]
  by_cases hdepth : script.toJson.depth ≤ Json.maxNesting
  · rw [if_pos hdepth, if_pos hdepth]
    simp only [script.not_isExpression,
      Script.ofJson_toJson_of_plain Json.arranges_canonical hplain]
    rfl
  · rw [if_neg hdepth, if_neg hdepth]
    rfl

/-- What is written of the tree of a text is rendered as the tree is, if its numbers are read back
and it nests at most as deep as is read; if it nests deeper, it cannot be read. -/
theorem sqlify_astify {sql j : String} {o : Options} (hmode : o.mode = .bestEffort)
    (h : astify sql o = .ok j) :
    ∃ r text, Session.standard.read sql o = .ok r ∧ o.renderScript r.script = .ok text ∧
      (r.script.toJson.NumbersReadBack →
        sqlify j o = if r.script.toJson.depth ≤ Json.maxNesting then .ok text
          else .error .notJson) := by
  obtain ⟨r, hread, rfl⟩ := astify_eq_ok.mp h
  obtain ⟨d, hd⟩ := Session.dialect_of_read hread
  obtain ⟨text, htext⟩ := Options.renderScript_total hmode hd r.script
  refine ⟨r, text, hread, htext, fun hnumbers => ?_⟩
  rw [sqlify_pretty (Session.read_plain hread) hnumbers, htext]
  rfl

theorem read_of_parseScript {o : Options} {d : Dialect} (hd : o.dialect? = some d) {sql : String}
    {script : Script Expr} {refs : References}
    (h : Parser.parseScript d (if o.trim then Text.trim sql else sql) = .ok (script, refs)) :
    Session.standard.read sql o = .ok ⟨script, refs.tableList, refs.columnList⟩ := by
  rw [Session.read_eq (Session.standard_frontend hd) sql o.trim, h]
  rfl

theorem sqlify_astify_comparison :
    ∃ j, astify "SELECT id FROM t WHERE id = 1" { database := some "postgresql" } = .ok j ∧
      sqlify j { database := some "postgresql" } =
        .ok "SELECT \"id\" FROM \"t\" WHERE \"id\" = 1" := by
  obtain ⟨script, refs, hparse, hvalues⟩ := parseScript_of_toOption .postgreSql
    (Text.trim "SELECT id FROM t WHERE id = 1")
    (fun script _ => (script.toJson.depth, script.toJson.numbers,
      (({ database := some "postgresql" } : Options).renderScript script).toOption))
    (v := (4, [.int 1], some "SELECT \"id\" FROM \"t\" WHERE \"id\" = 1")) (by decide +kernel)
  simp only [Prod.mk.injEq] at hvalues
  obtain ⟨hdepth, hnumbers, hrendered⟩ := hvalues
  have hread :
      Session.standard.read "SELECT id FROM t WHERE id = 1" { database := some "postgresql" } = _ :=
    read_of_parseScript (d := .postgreSql) (by decide) hparse
  have hone : script.toJson.NumbersReadBack := by
    intro n hn
    rw [hnumbers] at hn
    obtain rfl := List.mem_singleton.mp hn
    exact Json.Number.readsBack_int (by decide) (by decide)
  have hwritten := astify_eq_ok.mpr ⟨_, hread, rfl⟩
  obtain ⟨r, text, hr, htext, hback⟩ :=
    sqlify_astify (o := { database := some "postgresql" }) rfl hwritten
  cases hread.symm.trans hr
  rw [htext] at hrendered
  cases hrendered
  exact ⟨_, hwritten, (hback hone).trans (if_pos (by rw [hdepth]; decide))⟩

/-- Calls of a function, each the argument of the one before. -/
def nestedCalls (depth : Nat) : String :=
  "SELECT " ++ String.join (List.replicate depth "f(") ++ String.join (List.replicate depth ")")

/-- The tree of deep calls is written and rendered, but what is written cannot be read. -/
theorem deep_calls_unreadable :
    ∃ j r text, Session.standard.read (nestedCalls 42) { trim := false } = .ok r ∧
      astify (nestedCalls 42) { trim := false } = .ok j ∧
      ({ trim := false } : Options).renderScript r.script = .ok text ∧
        sqlify j { trim := false } = .error .notJson := by
  obtain ⟨script, refs, hparse, hvalues⟩ := parseScript_of_toOption .mySql (nestedCalls 42)
    (fun script _ => (script.toJson.depth, script.toJson.numbers)) (v := (129, []))
      (by decide +kernel)
  obtain ⟨hdepth, hnumbers⟩ := Prod.mk.inj hvalues
  have hread : Session.standard.read (nestedCalls 42) { trim := false } = _ :=
    read_of_parseScript (d := .mySql) (by decide) hparse
  obtain ⟨text, htext⟩ := Options.renderScript_total (o := { trim := false }) (d := .mySql) rfl
    (by decide) script
  have hnone : script.toJson.NumbersReadBack := by
    intro n hn
    rw [hnumbers] at hn
    cases hn
  refine ⟨_, _, text, hread, astify_eq_ok.mpr ⟨_, hread, rfl⟩, htext, ?_⟩
  rw [sqlify_pretty (Parser.parseScript_plain hparse) hnone, if_neg (by rw [hdepth]; decide)]

end Command

end SqlWeave
