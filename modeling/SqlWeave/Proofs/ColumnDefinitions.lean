import Mathlib.Algebra.Ring.Int.Defs
import SqlWeave.Proofs.Spelling.ColumnDefinition
import SqlWeave.Proofs.Parser.StatementMakes
import SqlWeave.Proofs.RoundTrip

/-! Column definitions of CREATE TABLE. The reader forms them in a way that the renderer can spell,
and where a definition is readable it is read from its rendering again, whatever order its
constraints stood in. -/

namespace SqlWeave

open SqlWeave.Parser (Control Finds Makes Nested Returns nested nested_built parseScript
  parseScript_eq_ok readersFor startState)
open Token (Piece)

variable {r : Renderer} {opening closing : Char} {n : Nat} {ks : List Piece}
  {d : ColumnDefinition Expr}

/-! ## Constraints -/

section Constraints

variable {K : TokenKind → Prop} {i : Nested} (h : i.Built K)
include h

theorem columnConstraint_formed (hd : d.Formed r) :
    Makes K (fun x => ∀ d ∈ x, d.Formed r) (i.columnConstraint d) := by
  have hkept {d' : ColumnDefinition Expr} (hd' : d'.Formed r) :
      Makes K (fun x => ∀ d ∈ x, d.Formed r) (pure (some d')) :=
    .pure fun _ heq => Option.some.inj heq ▸ hd'
  obtain ⟨hcolumn, htype, hnullable, hdefault, hauto, hunique, hprimary⟩ := hd
  refine .bind fun k => ?_
  split
  · exact .bind fun _ => .bind fun _ =>
      hkept ⟨hcolumn, htype, by simp, hdefault, hauto, hunique, hprimary⟩
  · exact .bind fun _ => hkept ⟨hcolumn, htype, by simp, hdefault, hauto, hunique, hprimary⟩
  · refine .bind fun _ => .andThen (h.leading 7) fun e he => hkept ?_
    exact ⟨hcolumn, htype, hnullable, fun _ heq => Option.some.inj heq ▸ he.2, hauto, hunique,
      hprimary⟩
  · exact .bind fun _ => .bind fun _ =>
      hkept ⟨hcolumn, htype, hnullable, hdefault, hauto, hunique, by simp⟩
  · exact .bind fun _ => .bind fun _ =>
      hkept ⟨hcolumn, htype, hnullable, hdefault, hauto, by simp, hprimary⟩
  · exact .bind fun _ => .bind fun _ =>
      hkept ⟨hcolumn, htype, hnullable, hdefault, hauto, hunique, hprimary⟩
  · rename_i word
    by_cases hword : Text.sameAscii word "auto_increment" || Text.sameAscii word "autoincrement"
    · rw [if_pos hword]
      refine .bind fun _ => hkept ⟨hcolumn, htype, hnullable, hdefault, fun _ heq => ?_, hunique,
        hprimary⟩
      obtain rfl := Option.some.inj heq
      have hplain : ∀ w ∈ ["auto_increment", "autoincrement"],
          w.toList.all (·.toNat < 0x80) = true ∧ w.toList.map Char.toLower = w.toList := by
        decide +kernel
      refine (Bool.or_eq_true_iff.mp hword).imp (fun hword => ?_) fun hword => ?_
      · exact Text.lower_of_sameAscii hword (hplain _ (by simp)).1 (hplain _ (by simp)).2
      · exact Text.lower_of_sameAscii hword (hplain _ (by simp)).1 (hplain _ (by simp)).2
    · rw [if_neg hword]
      refine .ite (.bind fun _ => .andThen h.primary fun e _ => hkept ?_)
        (.pure fun _ heq => by cases heq)
      exact ⟨hcolumn, htype, hnullable, hdefault, hauto, hunique, hprimary⟩
  · exact .pure fun _ heq => by cases heq

theorem columnConstraints_formed (m : Nat) (hd : d.Formed r) :
    Makes K (·.Formed r) (i.columnConstraints m d) := by
  induction m generalizing d with
  | zero => exact .outOfRounds
  | succ m ih =>
    refine .andThen (columnConstraint_formed h hd) fun x hx => ?_
    cases x with
    | none => exact .pure hd
    | some d => exact ih (hx d rfl)

end Constraints

/-! ## Definitions and statements -/

theorem columnDefinition_formed (hr : r.Standard opening closing) :
    Finds r.config.dialect (nested n).columnDefinition ks fun d _ => d.Formed r := by
  refine .control fun name _ => .control fun _ ks =>
    .bind ((dataType_finds hr n).mono fun type rest htype => ?_)
  obtain ⟨taken, -, htype⟩ := htype
  refine .rounds (.makes (columnConstraints_formed (nested_built n) _ ⟨⟨name, rfl⟩,
    fun hreadable => ?_, ?_, ?_, ?_, ?_, ?_⟩))
  · obtain ⟨text, js, hspelled, -⟩ := htype.spelled hreadable
    exact ⟨text, js, hspelled⟩
  all_goals exact fun _ heq => by cases heq

/-- The definition that an expression is. -/
def Expr.columnDefinition? (e : Expr) : Option (ColumnDefinition Expr) :=
  match e.node with
  | .columnDefinition d => some d
  | _ => none

/-- The columns that a statement defines. -/
def Statement.columnDefinitions : Statement Expr → List (ColumnDefinition Expr)
  | .create c => (c.definitions.getD []).filterMap Expr.columnDefinition?
  | _ => []

def Script.columnDefinitions (s : Script Expr) : List (ColumnDefinition Expr) :=
  s.statements.flatMap Statement.columnDefinitions

theorem createDefinition_formed (hr : r.Standard opening closing) :
    Finds r.config.dialect (nested n).createDefinition ks fun e _ =>
      ∀ d ∈ e.columnDefinition?, d.Formed r := by
  have hconstraint (name : String) :
      Makes (fun _ => True) (fun e => ∀ d ∈ e.columnDefinition?, d.Formed r)
        (Parser.tableConstraint name) :=
    .bind fun _ => .pure fun _ heq => by cases heq
  refine .control fun _ _ => .ite (.control fun _ _ => ?_) ?_
  all_goals
    refine .control fun _ _ => .ite (.control fun _ _ => .makes (hconstraint _))
      (.control fun _ _ => .ite ?_ ?_)
    · refine .control fun _ _ => .control fun _ _ => .ite (.control fun _ _ => ?_) ?_
      all_goals exact .makes (hconstraint _)
    · exact .bind ((columnDefinition_formed hr).mono fun d _ hd => .pure fun d' heq =>
        Option.some.inj heq ▸ hd)

theorem createDefinitions_formed (hr : r.Standard opening closing) :
    Finds r.config.dialect (nested n).createDefinitions? ks fun defs _ =>
      ∀ d ∈ (defs.getD []).filterMap Expr.columnDefinition?, d.Formed r := by
  have hitems (ks : List Piece) :
      Finds r.config.dialect (Parser.commaSeparated (nested n).createDefinition) ks
      (Parser.Found (fun _ e _ => ∀ d ∈ e.columnDefinition?, d.Formed r) ks) :=
    .commaSeparated fun _ => createDefinition_formed hr
  refine .control fun _ _ => .ite ?_ (.pure fun _ hd => by cases hd)
  refine .bind ((hitems _).mono fun es _ hes => .control fun _ _ => .pure fun d hd => ?_)
  obtain ⟨e, he, hd⟩ := List.mem_filterMap.mp hd
  exact hes.forall_mem e he d hd

theorem createTable_formed (hr : r.Standard opening closing) (c : Create Expr) :
    Finds r.config.dialect ((nested n).createTable c) ks fun c _ =>
      ∀ d ∈ (Statement.create c).columnDefinitions, d.Formed r := by
  have h := nested_built (K := fun _ => True) n
  refine .control fun _ _ => .bind ((Finds.makes Parser.tableName_built).mono fun _ _ _ => ?_)
  refine .bind ((createDefinitions_formed hr).mono fun defs _ hdefs =>
    .rounds (.control fun _ _ => .control fun _ _ => ?_))
  refine .ite (.bind ((Finds.makes h.query).mono fun _ _ _ => .pureBind (.pure hdefs)))
    (.pureBind (.pure hdefs))

theorem create_formed (hr : r.Standard opening closing) :
    Finds r.config.dialect (nested n).create ks fun c _ =>
      ∀ d ∈ (Statement.create c).columnDefinitions, d.Formed r := by
  have h := nested_built (K := fun _ => True) n
  have hnone {c : Create Expr} (hc : c.definitions = none) :
      ∀ d ∈ (Statement.create c).columnDefinitions, d.Formed r := by
    rw [Statement.columnDefinitions, hc]
    exact List.forall_mem_nil _
  have hview (c : Create Expr) (hc : c.definitions = none) :
      Makes (fun _ => True) (fun c => ∀ d ∈ (Statement.create c).columnDefinitions, d.Formed r)
        ((nested n).createView c) :=
    .bind fun _ => .andThen Parser.tableName_built fun _ _ => .bind fun _ =>
      .andThen h.query fun _ _ => .pure (hnone hc)
  refine .control fun _ _ => .control fun _ _ => .control fun _ _ =>
    .ite (.control fun _ _ => ?_) ?_
  all_goals
    refine .control fun _ _ => .look ?_
    split
    · exact .unexpected
    · refine .control fun _ _ => .ite (createTable_formed hr _) (.ite (.makes (hview _ rfl)) ?_)
      exact .control fun _ _ => .control fun _ _ => .pure (hnone rfl)

/-- A statement that defines nothing. -/
theorem makes_other {α : Type} {K : TokenKind → Prop} {p : Parser α} {post : α → Prop}
    {f : α → Statement Expr} (hp : Makes K post p) (hf : ∀ x, (f x).columnDefinitions = []) :
    Makes K (fun st => ∀ d ∈ st.columnDefinitions, d.Formed r) (do return f (← p)) :=
  .andThen hp fun x _ => .pure (by simp [hf])

theorem withStatement_formed {K : TokenKind → Prop} {i : Nested} (h : i.Built K) :
    Makes K (fun st => ∀ d ∈ st.columnDefinitions, d.Formed r) i.withStatement := by
  rw [Parser.Nested.Built.withStatement_eq]
  refine .retrying h.withClause (makes_other (f := .select) h.query fun _ => rfl)
    fun withs k hwiths _ => ?_
  have hsome : BuiltPart K (some withs) := by rwa [BuiltPart, slots_some]
  split
  · exact makes_other (f := .update) (h.update hsome) fun _ => rfl
  · exact makes_other (f := .delete) (h.delete hsome) fun _ => rfl
  · exact .unexpected

theorem statement_formed (hr : r.Standard opening closing) :
    Finds r.config.dialect (nested n).statement ks fun st _ =>
      ∀ d ∈ st.columnDefinitions, d.Formed r := by
  have h := nested_built (K := fun _ => True) n
  refine .look ?_
  split
  · exact .makes (makes_other (f := .select) h.query fun _ => rfl)
  · exact .makes (withStatement_formed h)
  · exact .makes (makes_other (f := .insert) (h.insert _) fun _ => rfl)
  · exact .makes (makes_other (f := .replace) (h.insert _) fun _ => rfl)
  · exact .makes (makes_other (f := .update) (h.update throughout_nil) fun _ => rfl)
  · exact .makes (makes_other (f := .delete) (h.delete throughout_nil) fun _ => rfl)
  · exact .bind ((create_formed hr).mono fun c _ hc => .pure hc)
  · exact .makes (makes_other (f := .drop) Parser.Nested.Built.drop_built fun _ => rfl)
  · exact .makes (makes_other (f := .showing) (Control.makes _) fun _ => rfl)
  · exact .unexpected

theorem statements_formed (hr : r.Standard opening closing) (m : Nat) :
    Finds r.config.dialect ((nested n).statements m) ks fun sts _ =>
      ∀ d ∈ sts.flatMap Statement.columnDefinitions, d.Formed r := by
  induction m generalizing ks with
  | zero => exact .outOfRounds
  | succ m ih =>
    refine .control fun _ _ => .look ?_
    refine .ite (.pure (List.forall_mem_nil _))
      (.bind ((statement_formed hr).mono fun st _ hst => .control fun _ _ => ?_))
    refine .ite (.bind (ih.mono fun sts _ hsts => .pure ?_)) .unexpected
    rw [List.flatMap_cons]
    exact List.forall_mem_append.mpr ⟨hst, hsts⟩

theorem script_formed (hr : r.Standard opening closing) :
    Finds r.config.dialect (nested n).script ks fun x _ =>
      ∀ d ∈ x.columnDefinitions, d.Formed r := by
  refine .rounds (.bind ((statements_formed hr _).mono fun sts _ hsts => ?_))
  cases sts with
  | nil => exact .unexpected
  | cons st sts => exact .pure (by rwa [Script.columnDefinitions, Script.statements_ofStatements])

/-! ## Definitions that can be checked -/

theorem Phrase.Core.readsBack (hr : r.Standard opening closing) {e : Expr}
    (h : Phrase.Core r.config.dialect (.expr e)) :
    e.ReadsBack r := by
  obtain ⟨text, ks, hspelled⟩ : Phrase.Spelled r (.expr e) := h.spelled hr
  exact ⟨text, ks, hspelled.rendered, hspelled.lexes, hspelled.continues⟩

theorem Expr.string_readsBackAlone (value : String) : (Expr.string value).ReadsBackAlone r :=
  ⟨_, _, r.expr_mk _, .string value, fun n hn rest _ => by
    obtain ⟨m, rfl⟩ : ∃ m, n = m + 1 := ⟨n - 1, by simp at hn; omega⟩
    exact .look (.step (.pure _))⟩

/-- A literal that every dialect spells without loss. -/
def Expr.isLiteral (e : Expr) : Bool :=
  match e.node with
  | .number (.int n) false => 0 ≤ n && n < 2 ^ 64
  | .text .string _ false | .bool _ false | .null => true
  | _ => false

/-- Whether a definition is readable at first sight: its type has no arguments, its default is a
literal and its comment a string. -/
def ColumnDefinition.isSimple (d : ColumnDefinition Expr) : Bool :=
  (match d.column.column with
    | .star => false
    | _ => true) &&
  Token.isWord d.type.name && (d.type.scale.isNone || d.type.length.isSome) &&
    d.type.args.isEmpty &&
  d.defaultValue.all Expr.isLiteral &&
  d.comment.all (fun e =>
    match e.node with
    | .text .string _ false => true
    | _ => false) &&
  d.collate.all (fun name => Token.isWord name &&
    (Keyword.lookup? name).all Keyword.isUnreserved) &&
  (d.defaultValue.isNone || d.collate.isNone || d.autoIncrement.isSome || d.unique.isSome ||
    d.primaryKey.isSome ||
    d.comment.isSome)

theorem Expr.core_of_isLiteral {d : Dialect} {e : Expr} (h : e.isLiteral = true) :
    Phrase.Core d (.expr e) := by
  obtain ⟨node⟩ := e
  unfold isLiteral at h
  split at h
  · rename_i n hnode
    obtain rfl : node = .number (.int n) false := hnode
    rw [Bool.and_eq_true, decide_eq_true_iff, decide_eq_true_iff] at h
    obtain ⟨n, rfl⟩ := Int.eq_ofNat_of_zero_le h.1
    exact .number n (by exact_mod_cast h.2)
  · rename_i value hnode
    obtain rfl : node = .text .string value false := hnode
    exact .string value
  · rename_i value hnode
    obtain rfl : node = .bool value false := hnode
    exact .bool value
  · rename_i hnode
    obtain rfl : node = .null := hnode
    exact .null
  · cases h

theorem ColumnDefinition.readable_of_isSimple (hr : r.Standard opening closing)
    (h : d.isSimple = true) : d.Readable r := by
  simp only [isSimple, Bool.and_eq_true, Option.all_eq_true] at h
  obtain ⟨⟨⟨⟨⟨⟨⟨hnamed, hword⟩, hscale⟩, hargs⟩, hdefault⟩, hcomment⟩, hcollate⟩, hapart⟩ := h
  refine ⟨fun hstar => ?_, .mk (.inl hword) (fun hsome => ?_) (by simp [List.isEmpty_iff.mp hargs]),
    fun e he => (Expr.core_of_isLiteral (hdefault e he)).readsBack hr, fun e he =>
      ?_, hcollate, fun hdefault hcollate => ?_⟩
  · rw [hstar] at hnamed
    cases hnamed
  · simpa [Option.isSome_iff_ne_none.mp hsome] using hscale
  · obtain ⟨node⟩ := e
    have hstring := hcomment _ he
    split at hstring
    · rename_i value hnode
      obtain rfl : node = .text .string value false := hnode
      exact Expr.string_readsBackAlone value
    · cases hstring
  · simpa [Option.isSome_iff_ne_none.mp hdefault, Option.isSome_iff_ne_none.mp hcollate, or_assoc]
      using hapart

/-! ## Whole texts -/

/-- A column that a script defines is read from its rendering as it is, if it is readable. -/
theorem columnDefinition_reads_back {d : Dialect} (hd : d.identifierQuote ≠ .bare)
    (mode : RenderMode) {text : String} {script : Script Expr} {refs : References}
    (hparse : parseScript d text = .ok (script, refs)) {definition : ColumnDefinition Expr}
    (hmem : definition ∈ script.columnDefinitions)
    (hreadable : definition.Readable { config := ⟨d, mode⟩ }) :
    ∃ sql u,
      ({ config := ⟨d, mode⟩ } : Renderer).expr (.mk (.columnDefinition definition)) = .ok sql ∧
      Returns (readersFor (startState d sql)).columnDefinition ⟨sql, d⟩ (startState d sql)
        definition u ∧
      u.current.kind = .eof := by
  obtain ⟨opening, closing, hr⟩ := Renderer.standard_of_delimited hd mode
  obtain ⟨t, ht, -⟩ := parseScript_eq_ok.mp hparse
  obtain ⟨ks, hks, -⟩ := startState_standsIn d text
  obtain ⟨-, -, hformed⟩ := script_formed hr _ _ _ _ hks ht
  obtain ⟨sql, js, hsql, hlegible⟩ :=
    columnDefinition_spelled hr (hformed definition hmem) hreadable
  have hstands := startState_stands hlegible.lexes
  have hdeep : js.length < (startState d sql).rest.length + 1 := by
    rw [hstands.rest_length]
    exact Nat.lt_succ_self _
  obtain ⟨u, hu, hend⟩ := hlegible.reads _ hdeep [] rfl _ _ (by rwa [List.append_nil])
  exact ⟨sql, u, hsql, hu, hend.kind⟩

/-- What is computed of the only column of a text. -/
theorem columnDefinition_of_toOption {α : Type} (text : String) (f : ColumnDefinition Expr → α)
    {v : α}
    (h : (parseScript .mySql text).toOption.map (fun x => x.1.columnDefinitions.map f) = some [v]) :
    ∃ script refs definition, parseScript .mySql text = .ok (script, refs) ∧
      definition ∈ script.columnDefinitions ∧ f definition = v := by
  obtain ⟨script, refs, hparse, hf⟩ :=
    parseScript_of_toOption .mySql text (fun script _ => script.columnDefinitions.map f) h
  obtain ⟨definition, hdefinitions, hv⟩ := List.map_eq_singleton_iff.mp hf
  exact ⟨script, refs, definition, hparse, by simp [hdefinitions], hv⟩

theorem columnDefinition_reads_back_reordered :
    ∃ script refs definition sql u,
      parseScript .mySql
        "CREATE TABLE t (a VARCHAR(10) COLLATE c COMMENT 'it''s' DEFAULT 'x' NOT NULL)" =
        .ok (script, refs) ∧ definition ∈ script.columnDefinitions ∧
      ({ config := ⟨.mySql, .strict⟩ } : Renderer).expr (.mk (.columnDefinition definition)) =
        .ok sql ∧
      sql = "`a` VARCHAR(10) NOT NULL DEFAULT 'x' COMMENT 'it''s' COLLATE c" ∧
      Returns (readersFor (startState .mySql sql)).columnDefinition ⟨sql, .mySql⟩
        (startState .mySql sql) definition u ∧
      u.current.kind = .eof := by
  obtain ⟨opening, closing, hr⟩ := Renderer.standard_of_delimited (d := .mySql) (by decide) .strict
  obtain ⟨script, refs, definition, hparse, hmem, hcomputed⟩ := columnDefinition_of_toOption
    "CREATE TABLE t (a VARCHAR(10) COLLATE c COMMENT 'it''s' DEFAULT 'x' NOT NULL)"
    (fun d => (d.isSimple, (({ config := ⟨.mySql, .strict⟩ } : Renderer).expr
      (.mk (.columnDefinition d))).toOption))
    (v := (true, some "`a` VARCHAR(10) NOT NULL DEFAULT 'x' COMMENT 'it''s' COLLATE c"))
      (by decide +kernel)
  obtain ⟨hsimple, hsql⟩ := Prod.mk.inj hcomputed
  obtain ⟨sql, u, hrendered, hu, hend⟩ :=
    columnDefinition_reads_back (by decide) .strict hparse hmem
    (ColumnDefinition.readable_of_isSimple hr hsimple)
  rw [hrendered] at hsql
  exact ⟨script, refs, definition, sql, u, hparse, hmem, hrendered, Option.some.inj hsql, hu, hend⟩

/-- A collation that is written behind the default is read as part of it. -/
theorem columnDefinition_collation_moved :
    ∃ script refs definition sql,
      parseScript .mySql "CREATE TABLE t (a VARCHAR(10) COLLATE c DEFAULT 'x')" =
        .ok (script, refs) ∧
      definition ∈ script.columnDefinitions ∧
      ({ config := ⟨.mySql, .strict⟩ } : Renderer).expr (.mk (.columnDefinition definition)) =
        .ok sql ∧
      ∀ u, ¬ Returns (readersFor (startState .mySql sql)).columnDefinition ⟨sql, .mySql⟩
        (startState .mySql sql) definition u := by
  obtain ⟨script, refs, definition, hparse, hmem, hcomputed⟩ := columnDefinition_of_toOption
    "CREATE TABLE t (a VARCHAR(10) COLLATE c DEFAULT 'x')"
    (fun d => (d.collate, (({ config := ⟨.mySql, .strict⟩ } : Renderer).expr
      (.mk (.columnDefinition d))).toOption))
    (v := (some "c", some "`a` VARCHAR(10) DEFAULT 'x' COLLATE c")) (by decide +kernel)
  obtain ⟨hcollate, hsql⟩ := Prod.mk.inj hcomputed
  obtain ⟨sql, hrendered, rfl⟩ :=
    ok_of_toOption id (v := "`a` VARCHAR(10) DEFAULT 'x' COLLATE c") (by simpa using hsql)
  obtain ⟨other, t, ht, -, hother⟩ := Parser.reads_of_toOption
    (readersFor (startState .mySql "`a` VARCHAR(10) DEFAULT 'x' COLLATE c")).columnDefinition .mySql
    "`a` VARCHAR(10) DEFAULT 'x' COLLATE c" (fun d _ => d.collate) (v := none) (by decide +kernel)
  refine ⟨script, refs, definition, _, hparse, hmem, hrendered, fun u hu => ?_⟩
  obtain ⟨rfl, -⟩ := Prod.mk.inj (Except.ok.inj (hu.symm.trans ht))
  cases hcollate.symm.trans hother

end SqlWeave
