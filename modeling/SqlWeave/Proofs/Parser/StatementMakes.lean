import SqlWeave.Proofs.Parser.QueryMakes
import SqlWeave.Proofs.Parser.Lockstep

/-! How statements are read. -/

namespace SqlWeave.Parser

open HasSlots (slots)

attribute [local simp] BuiltPart throughout_list

variable {K : TokenKind → Prop} {i : Nested}

/-! ## Readers without trees -/

instance : Control ifNotExists :=
  ⟨fun _ => .bind fun _ => .ite (.bind fun _ => .bind fun _ => .pure trivial) (.pure trivial)⟩

instance : Control insertWords where
  makes K := by
    refine .bind fun _ => .ite (.bind fun _ => .pure trivial) (.bind fun _ => ?_)
    exact .ite (.pure trivial) (.pure trivial)

instance (n : Nat) : Control (targetTail n) where
  makes K := by
    induction n with
    | zero => exact .outOfRounds
    | succ n ih =>
      refine .bind fun _ => .ite (.bind fun _ => .ite (.pure trivial) (.bind fun _ => ?_))
        (.pure trivial)
      exact .andThen ih fun _ _ => .pure trivial

instance (n depth : Nat) : Control (skipGroupWithin n depth) where
  makes K := by
    induction n generalizing depth with
    | zero => exact .outOfRounds
    | succ n ih =>
      refine .bind fun k => ?_
      split
      · exact .bind fun _ => ih _
      · exact .bind fun _ => .ite (.pure trivial) (ih _)
      · exact .unexpected
      · exact .bind fun _ => ih _

instance : Control closeGroup := ⟨fun K => .bind fun _ => Control.makes K⟩

instance : Control skipGroup := ⟨fun K => .bind fun _ => Control.makes K⟩

theorem skipGroupWithin_steady (n depth : Nat) : Steady (skipGroupWithin n depth) := by
  induction n generalizing depth with
  | zero => exact fun src s t h => absurd h not_returns_outOfRounds
  | succ n ih =>
    intro src s t h hs
    obtain ⟨k, u, hk, h⟩ := Returns.bind h
    obtain ⟨rfl, rfl⟩ := kind_returns hk
    split at h
    · exact steady_advance (ih _) h (by simp [*])
    · refine steady_advance (p := if depth ≤ 1 then Pure.pure () else skipGroupWithin n (depth - 1))
        ?_ h (by simp [*])
      split
      · exact steady_pure
      · exact ih _
    · exact absurd h not_returns_unexpected
    · exact steady_advance (ih _) h (by assumption)

theorem closeGroup_steady : Steady closeGroup := .rounds fun n => skipGroupWithin_steady n 1

theorem skipGroup_steady : Steady skipGroup := by
  intro src s t h _
  obtain ⟨_, u, hu, h⟩ := Returns.bind h
  obtain ⟨hmark, rfl⟩ := expect_returns hu
  exact closeGroup_steady src _ t h (by rw [advance_previous, hmark]; simp)

/-- A group in parentheses, if one comes next. -/
theorem group_steady : Steady (do if ← isAt .leftParen then skipGroup) := by
  intro src s t h hs
  obtain ⟨b, u, hu, h⟩ := Returns.bind h
  cases hu
  split at h
  · exact skipGroup_steady src s t h hs
  · exact steady_pure src s t h hs

instance : Control rawValue where
  makes K := by
    refine .bind fun _ => .ite (.written (Control.makes K) closeGroup_steady)
      (.bind fun _ => .ite .unexpected ?_)
    exact .written (.bind fun _ => .ite (Control.makes K) (.pure trivial)) group_steady

instance : Control optionKeyword? where
  makes K := by
    refine .bind fun k => ?_
    split
    · exact .bind fun _ => .pure trivial
    · exact .bind fun _ => .bind fun _ => .pure trivial
    · exact .bind fun _ => .pure trivial
    · exact .bind fun _ => .bind fun _ => .pure trivial
    · exact .bind fun _ => .bind fun _ => .pure trivial
    · exact .bind fun _ => .bind fun _ => .pure trivial
    · exact .pure trivial

instance (n : Nat) : Control (tableOptions n) where
  makes K := by
    induction n with
    | zero => exact .outOfRounds
    | succ n ih =>
      refine .bind fun keyword => ?_
      cases keyword with
      | none => exact .pure trivial
      | some keyword =>
        exact .bind fun _ => .bind fun _ => .bind fun _ => .andThen ih fun _ _ => .pure trivial

instance : Control semicolons := ⟨fun _ => .bind fun _ => .pure trivial⟩

instance : Control isAtStatementEnd := ⟨fun _ => .bind fun _ => .bind fun _ => .pure trivial⟩

instance : Control Nested.showTarget where
  makes K := by
    refine .bind fun _ => .bind fun _ => .bind fun k => ?_
    split
    · exact .bind fun _ => .pure trivial
    · exact .bind fun _ => .pure trivial
    · exact .unexpected

/-! ## Tables and columns -/

theorem deleteTargets_built (n : Nat) : Makes K (BuiltPart K) (deleteTargets n) := by
  induction n with
  | zero => exact .outOfRounds
  | succ n ih =>
    have htarget : Makes K (BuiltPart K) deleteTarget :=
      .bind fun _ => .bind fun _ => .bind fun _ => tableOf_built _
    refine .bind fun _ => .ite (.pure throughout_nil)
      (.andThen htarget fun t ht => .bind fun _ => .ite ?_ ?_)
    · exact .andThen ih fun ts hts => .pure (throughout_append.mpr ⟨ht, hts⟩)
    · exact .pure (throughout_append.mpr ⟨ht, throughout_nil⟩)

theorem tableConstraint_built (name : String) : Makes K (Expr.Built K) (tableConstraint name) := by
  refine .bind fun names => .pure
    (call_built name (List.forall_mem_map.mpr fun column _ => ?_) throughout_nil)
  exact Expr.built_mk.mpr ⟨trivial, built_ofText column⟩

theorem insertColumns_makes (table : String) :
    Makes K (fun columns => ∀ l, columns = some l → l ≠ []) (Nested.insertColumns table) := by
  refine .bind fun _ => .bind fun _ =>
    .ite (.andThen Makes.parenthesizedNames fun names hnames => ?_) (.pure fun _ he => by cases he)
  exact .bind fun _ => .pure fun _ hl => Option.some.inj hl ▸ hnames

/-- The targets that stand for the FROM tables are names only. -/
theorem impliedTargets_built (tables : List (Table Expr)) :
    BuiltPart K (Nested.impliedTargets tables) := by
  refine throughout_list.mpr fun target htarget => ?_
  obtain ⟨t, -, rfl⟩ := List.mem_map.mp htarget
  simp

theorem built_columnDefinition {d : ColumnDefinition Expr} : BuiltPart K d ↔
    (BuiltPart K d.column ∧ BuiltPart K d.type) ∧ (∀ e, d.defaultValue = some e → e.Built K) ∧
      ∀ e, d.comment = some e → e.Built K := by
  simp only [BuiltPart, slots_columnDefinition, throughout_append, allBuilt_wrappings, and_assoc]

namespace Nested.Built

section Parts

variable (h : i.Built K)
include h

theorem assignment : Makes K (BuiltPart K) i.assignment := by
  refine .bind fun _ => .bind fun _ => .ite (.bind fun _ => .pureBind ?_) (.pureBind ?_) <;>
    exact .bind fun _ => .bind fun _ => .andThen (h.expr 0) fun e he => .pure (by simp [he])

theorem assignments : Makes K (BuiltPart K) i.assignments :=
  (Makes.commaSeparated h.assignment).mono fun _ hxs => throughout_list.mpr hxs.2

theorem row : Makes K (Expr.Built K) i.row :=
  .bind fun _ => .andThen (h.exprsUpTo _) fun _ hes => .pure (list_built hes)

theorem insertSource : Makes K (BuiltPart K) i.insertSource := by
  have hquery {q : Query Expr} (hq : BuiltPart K q) :
      BuiltPart K (InsertSource.query (Expr.query q)) :=
    by
    have hbuilt := built_query.mpr hq
    exact throughout_cons.mpr ⟨⟨⟨⟨q, rfl⟩, fun _ he => Option.some.inj he ▸ hbuilt.1⟩,
      fun _ he => Option.some.inj he ▸ hbuilt.2⟩, throughout_nil⟩
  refine .bind fun _ => .ite ?_ (.bind fun _ => .ite ?_ (.bind fun _ => .ite ?_ .unexpected))
  · exact .andThen (Makes.commaSeparated h.row) fun es hes => .pure (allBuilt_exprs.mpr hes.2)
  · exact .andThen h.query fun q hq => .pure (hquery hq)
  · exact .andThen h.parenthesizedQuery fun q hq => .pure (hquery (q := q.parenthesized) hq)

theorem onDuplicate? : Makes K (BuiltPart K) i.onDuplicate? := by
  refine .bind fun _ => .ite (.bind fun _ => .bind fun _ => .bind fun _ => ?_)
    (.pure throughout_nil)
  exact .andThen h.assignments fun xs hxs => .pure (by rwa [BuiltPart, slots_some])

/-! ## Definitions -/

theorem columnConstraint {d : ColumnDefinition Expr} (hd : BuiltPart K d) :
    Makes K (fun x => ∀ d, x = some d → BuiltPart K d) (i.columnConstraint d) := by
  have hkept {d' : ColumnDefinition Expr} (hd' : BuiltPart K d') :
      Makes K (fun x => ∀ d, x = some d → BuiltPart K d) (pure (some d')) :=
    .pure fun _ heq => Option.some.inj heq ▸ hd'
  obtain ⟨hbase, hdefault, hcomment⟩ := built_columnDefinition.mp hd
  refine .bind fun k => ?_
  split
  · exact .bind fun _ => .bind fun _ => hkept hd
  · exact .bind fun _ => hkept hd
  · refine .bind fun _ => .andThen (h.expr 7) fun e he => hkept ?_
    exact built_columnDefinition.mpr ⟨hbase, fun _ heq => Option.some.inj heq ▸ he, hcomment⟩
  · exact .bind fun _ => .bind fun _ => hkept hd
  · exact .bind fun _ => .bind fun _ => hkept hd
  · exact .bind fun _ => .bind fun _ => hkept hd
  · refine .ite (.bind fun _ => hkept hd)
      (.ite (.bind fun _ => ?_) (.pure fun _ heq => by cases heq))
    refine .andThen h.primary fun e he => hkept ?_
    exact built_columnDefinition.mpr ⟨hbase, hdefault, fun _ heq => Option.some.inj heq ▸ he⟩
  · exact .pure fun _ heq => by cases heq

theorem columnConstraints (n : Nat) {d : ColumnDefinition Expr} (hd : BuiltPart K d) :
    Makes K (BuiltPart K) (i.columnConstraints n d) := by
  induction n generalizing d with
  | zero => exact .outOfRounds
  | succ n ih =>
    refine .andThen (h.columnConstraint hd) fun x hx => ?_
    cases x with
    | none => exact .pure hd
    | some d => exact ih (hx d rfl)

theorem columnDefinition : Makes K (BuiltPart K) i.columnDefinition := by
  refine .bind fun name => .bind fun _ => .andThen h.dataType fun type htype => .bind fun n => ?_
  exact h.columnConstraints n (built_columnDefinition.mpr ⟨⟨built_ofText name, htype⟩,
    (fun _ he => by cases he), (fun _ he => by cases he)⟩)

theorem createDefinition : Makes K (Expr.Built K) i.createDefinition := by
  refine .bind fun _ => .ite (.bind fun _ => ?body) ?body
  refine .bind fun _ => .ite (.bind fun _ => tableConstraint_built _) (.bind fun _ => .ite ?_ ?_)
  · refine .bind fun _ => .bind fun _ =>
      .ite (.bind fun _ => tableConstraint_built _) (tableConstraint_built _)
  · exact .andThen h.columnDefinition fun d hd => .pure (Expr.built_mk.mpr ⟨trivial, hd⟩)

theorem createDefinitions? : Makes K (BuiltPart K) i.createDefinitions? := by
  refine .bind fun _ => .ite ?_ (.pure throughout_nil)
  refine .andThen (Makes.commaSeparated h.createDefinition) fun es hes => .bind fun _ => .pure ?_
  rw [BuiltPart, slots_some]
  exact allBuilt_exprs.mpr hes.2

end Parts

/-! ## Statements -/

section Statements

variable (h : i.Built K)
include h

theorem insert (verb : String) : Makes K (BuiltPart K) (i.insert verb) := by
  refine .bind fun _ => .bind fun _ => .bind fun _ =>
    .andThen tableName_built fun table htable => ?_
  refine .andThen (insertColumns_makes _) fun columns hcolumns =>
    .andThen h.insertSource fun source hsource => ?_
  refine .andThen h.onDuplicate? fun onDuplicate honDuplicate =>
    .andThen h.returning? fun returning hreturning => ?_
  refine .pure ?_
  simp only [BuiltPart, slots_insert, throughout_append, allBuilt_nameLists, slots_some]
  exact ⟨⟨⟨⟨throughout_append.mpr ⟨htable, throughout_nil⟩, hcolumns⟩, hsource⟩, honDuplicate⟩,
    hreturning⟩

theorem update {withs : Option (List (Cte Expr))} (hwiths : BuiltPart K withs) :
    Makes K (BuiltPart K) (i.update withs) := by
  refine .bind fun _ => .bind fun _ => .andThen h.tableList fun tables htables => .bind fun _ => ?_
  refine .andThen h.assignments fun assignments hassignments =>
    .andThen h.tables? fun source hsource => ?_
  refine .andThen h.condition? fun condition hcondition =>
    .andThen h.orderBy? fun orderBy horderBy => ?_
  refine .andThen h.limit? fun limit hlimit => .andThen h.returning? fun returning hreturning =>
    .pure ?_
  simp only [BuiltPart, slots_update, throughout_append, allBuilt_optionals]
  exact ⟨⟨⟨⟨⟨⟨⟨hwiths, htables⟩, hassignments⟩, hsource⟩, hcondition⟩, horderBy⟩, hlimit⟩,
    hreturning⟩

theorem delete {withs : Option (List (Cte Expr))} (hwiths : BuiltPart K withs) :
    Makes K (BuiltPart K) (i.delete withs) := by
  refine .bind fun _ => .bind fun _ => .bind fun n =>
    .andThen (deleteTargets_built n) fun targets htargets => ?_
  refine .bind fun _ => .andThen h.tableList fun tables htables => ?_
  refine .andThen h.condition? fun condition hcondition =>
    .andThen h.orderBy? fun orderBy horderBy => ?_
  refine .andThen h.limit? fun limit hlimit => .andThen h.returning? fun returning hreturning =>
    .pure ?_
  have hkept : BuiltPart K (if targets.isEmpty then Nested.impliedTargets tables else targets) := by
    split
    · exact impliedTargets_built tables
    · exact htargets
  simp only [BuiltPart, slots_delete, throughout_append, allBuilt_optionals, slots_some, slots_none]
  exact ⟨⟨⟨⟨⟨⟨⟨hwiths, throughout_nil⟩, hkept⟩, htables⟩, hcondition⟩, horderBy⟩, hlimit⟩,
    hreturning⟩

theorem createTable (c : Create Expr) : Makes K (BuiltPart K) (i.createTable c) := by
  refine .bind fun _ => .andThen tableName_built fun table htable => ?_
  refine .andThen h.createDefinitions? fun definitions hdefinitions => .bind fun _ => .bind fun _ =>
    .bind fun _ => ?_
  have htables : BuiltPart K [table] := throughout_append.mpr ⟨htable, throughout_nil⟩
  refine .ite (.andThen h.query fun q hq => .pureBind (.pure ?_)) (.pureBind (.pure ?_)) <;>
    simp only [BuiltPart, slots_create, throughout_append, allBuilt_optionals, slots_some]
  · exact ⟨⟨htables, hdefinitions⟩, fun _ heq => Option.some.inj heq ▸ built_query.mpr hq⟩
  · exact ⟨⟨htables, hdefinitions⟩, fun _ he => by cases he⟩

theorem createView {c : Create Expr} (hc : c.definitions = none) :
    Makes K (BuiltPart K) (i.createView c) := by
  refine .bind fun _ => .andThen tableName_built fun table htable => .bind fun _ => ?_
  refine .andThen h.query fun q hq => .pure ?_
  simp only [BuiltPart, slots_create, throughout_append, allBuilt_optionals, slots_some, hc,
    slots_none]
  exact ⟨⟨throughout_append.mpr ⟨htable, throughout_nil⟩, throughout_nil⟩,
    fun _ heq => Option.some.inj heq ▸ built_query.mpr hq⟩

theorem create : Makes K (BuiltPart K) i.create := by
  refine .bind fun _ => .bind fun _ => .bind fun _ => .ite (.bind fun _ => ?object) ?object
  refine .bind fun _ => .bind fun k => ?_
  split
  · exact .unexpected
  · refine .bind fun _ => .ite (h.createTable _) (.ite (h.createView rfl) ?_)
    exact .bind fun _ => .bind fun _ => .pure throughout_nil

omit h in
theorem withStatement_eq : i.withStatement =
    retrying i.withClause (· == .keyword .SELECT) (do return .select (← i.query)) fun withs k =>
      match k with
      | .keyword .UPDATE => do return .update (← i.update (some withs))
      | .keyword .DELETE => do return .delete (← i.delete (some withs))
      | _ => unexpected "SELECT, UPDATE or DELETE" := by
  refine bind_congr fun start => bind_congr fun withs => bind_congr fun k => ?_
  split
  · rfl
  · rfl
  · rfl
  · rename_i hselect hupdate hdelete
    have hagain : ¬ (k == .keyword .SELECT) = true := by simpa using hselect
    rw [if_neg hagain]
    dsimp only
    split
    · exact absurd rfl hupdate
    · exact absurd rfl hdelete
    · rfl

omit h in
theorem drop_built : Makes K (BuiltPart K) Nested.drop := by
  refine .bind fun _ => .bind fun _ => .bind fun k => ?_
  split
  · exact .unexpected
  · refine .bind fun _ => .bind fun _ => .ite (.bind fun _ => ?names) ?names
    exact .andThen (Makes.commaSeparated tableName_built) fun ts hts =>
      .pure (throughout_list.mpr hts.2)

theorem withStatement : Makes K (fun st => AllBuilt K st.slots) i.withStatement := by
  rw [withStatement_eq]
  refine .retrying h.withClause (.andThen h.query fun q hq => .pure hq) fun withs k hwiths _ => ?_
  have hsome : BuiltPart K (some withs) := by rwa [BuiltPart, slots_some]
  split
  · exact .andThen (h.update hsome) fun u hu => .pure hu
  · exact .andThen (h.delete hsome) fun d hd => .pure hd
  · exact .unexpected

theorem statement : Makes K (fun st => AllBuilt K st.slots) i.statement := by
  refine .bind fun k => ?_
  split
  · exact .andThen h.query fun q hq => .pure hq
  · exact h.withStatement
  · exact .andThen (h.insert _) fun _ hx => .pure hx
  · exact .andThen (h.insert _) fun _ hx => .pure hx
  · exact .andThen (h.update throughout_nil) fun _ hx => .pure hx
  · exact .andThen (h.delete throughout_nil) fun _ hx => .pure hx
  · exact .andThen h.create fun _ hx => .pure hx
  · exact .andThen drop_built fun _ hx => .pure hx
  · exact .bind fun _ => .pure throughout_nil
  · exact .unexpected

theorem statements (n : Nat) :
    Makes K (fun sts => ∀ st ∈ sts, AllBuilt K st.slots) (i.statements n) := by
  induction n with
  | zero => exact .outOfRounds
  | succ n ih =>
    refine .bind fun _ => .bind fun _ =>
      .ite (.pure (List.forall_mem_nil _)) (.andThen h.statement fun st hst => ?_)
    refine .bind fun _ => .ite (.andThen ih fun sts hsts => .pure ?_) .unexpected
    exact List.forall_mem_cons.mpr ⟨hst, hsts⟩

theorem script : Makes K (fun x => ∀ st ∈ x.statements, AllBuilt K st.slots) i.script := by
  refine .bind fun n => .andThen (h.statements n) fun sts hsts => ?_
  cases sts with
  | nil => exact .unexpected
  | cons st sts => exact .pure (by rwa [Script.statements_ofStatements])

end Statements

end Nested.Built

/-! ## Whole texts -/

open Token (tokenize)

section Within

variable {d d' : Dialect} {before text after : String}

/-- A text of the same tokens is read in the same way: the same tree and references, or the same
fault at corresponding tokens. -/
theorem parseScript_within
    (htokens : tokenize d' (before ++ text ++ after) =
      (tokenize d text).map (moved (size before) (before ++ text ++ after)))
    (hreturning : d.supportsReturning = d'.supportsReturning ∨
      ∀ a ∈ tokenize d text, a.kind ≠ .keyword .RETURNING) :
    (∃ r, parseScript d text = .ok r ∧ parseScript d' (before ++ text ++ after) = .ok r) ∨
      ∃ fault, ∃ a ∈ tokenize d text, parseScript d text = .error ⟨fault, a.span⟩ ∧
        parseScript d' (before ++ text ++ after) =
          .error ⟨fault, (moved (size before) (before ++ text ++ after) a).span⟩ := by
  have hlinked := Correspondence.within_linked (K := fun _ => True) (fun _ _ => trivial)
    hreturning htokens
  have halike := (nested_built ((startState d text).rest.length + 1)).script.alike _ hlinked
  have hreaders :
      readersFor (startState d' (before ++ text ++ after)) = readersFor (startState d text) :=
    congrArg nested hlinked.rounds_eq
  rw [parseScript, parseScript, hreaders]
  exact halike.noted

end Within

/-- Whatever is accepted, its statements are built of the tokens of the text. -/
theorem parseScript_built {d : Dialect} {text : String} {script : Script Expr} {r : References}
    (h : parseScript d text = .ok (script, r)) {K : TokenKind → Prop}
    (hK : ∀ a ∈ tokenize d text, K a.kind) :
    ∀ st ∈ script.statements, AllBuilt K st.slots := by
  obtain ⟨t, ht, -⟩ := parseScript_eq_ok.mp h
  exact ((nested_built _).script.returns (startState_onText hK) ht).1

/-- The same of a text that is read as an expression; its own operator binds as tightly as was
asked. -/
theorem parseExpr_leading {d : Dialect} {text : String} {least : Nat} {e : Expr} {r : References}
    (h : parseExpr d text least = .ok (e, r)) {K : TokenKind → Prop}
    (hK : ∀ a ∈ tokenize d text, K a.kind) :
    e.Built K ∧ e.leads least = true := by
  obtain ⟨t, ht, -⟩ := parseExpr_eq_ok.mp h
  exact (((nested_built _).leading least).returns (startState_onText hK) ht).1

theorem parseExpr_built {d : Dialect} {text : String} {least : Nat} {e : Expr} {r : References}
    (h : parseExpr d text least = .ok (e, r)) {K : TokenKind → Prop}
    (hK : ∀ a ∈ tokenize d text, K a.kind) :
    e.Built K :=
  (parseExpr_leading h hK).1

/-- Whatever is accepted, its statements are plain. -/
theorem parseScript_plain {d : Dialect} {text : String} {script : Script Expr} {r : References}
    (h : parseScript d text = .ok (script, r)) : ∀ st ∈ script.statements, AllPlain st.slots :=
  fun st hst => (parseScript_built h (K := fun _ => True) (fun _ _ => trivial) st hst).plain

end SqlWeave.Parser
