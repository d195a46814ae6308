import SqlWeave.Proofs.Tree.Congruence
import SqlWeave.Proofs.Wire.Query

/-! Reading back expressions and scripts. A tree whose slots are all readable is read back from the
form in which it is written. -/

namespace SqlWeave

open HasSlots (slots)
open Json (Fields)

/-! ## Nodes -/

theorem Expr.toJson_mk (n : Node Expr) : (Expr.mk n).toJson = (n.map Expr.toJson).toJson := by
  rw [toJson, fold_mk, Node.map_map]
  rfl

/-- Every node but an unknown one is written with its kind as its tag. -/
theorem Expr.toJson_known {n : Node Expr} (h : ∀ v, n ≠ .unknown v) :
    (Expr.mk n).toJson = Wire.tagged n.kind (n.map Expr.toJson).toFields := by
  rw [toJson_mk]
  cases n with
  | unknown v => exact absurd rfl (h v)
  | _ => rfl

/-- The kind of the node has a record, and this reads the node from its fields. -/
def Node.ReadsBack (c : Json → Json) (depth : Nat) (inner : Wire.Nested) (n : Node Expr) : Prop :=
  ∃ ks r, inner.nodeRecord? n.kind = some r ∧ ("type" :: "ast" :: ks).Nodup ∧
    Reads c depth ks r (n.map Expr.toJson).toFields n

variable {c : Json → Json}

section Nodes

variable {depth : Nat} {inner : Wire.Nested} (hc : Json.Arranges c)
include hc

theorem castTarget {x : DataType Expr} (h : Ready c depth inner (slots x)) :
    Recovers c depth (Wire.Read.firstOf inner.dataType.ofJson)
      (.object (x.map Expr.toJson).toFields) x := by
  intro hdepth
  have hread : inner.dataType.ofJson (c (.object (x.map Expr.toJson).toFields)) = .ok x :=
    ((h.dataType hc).object hc (by decide)) hdepth
  obtain ⟨gs, hgs, -⟩ := hc.object _ ((by decide : List.Nodup _).sublist (h.dataType hc).keys)
  rw [hgs] at hread ⊢
  exact hread

theorem Ready.call {name : String} {args : Option Expr} {window : Option (WindowSpec Expr)}
    {suffix : Option String} {p : Bool}
    (h : Ready c depth inner (Node.call name args window suffix p : Node Expr).slots) :
    (Node.call name args window suffix p).ReadsBack c depth inner := by
  obtain ⟨hargs, hwindow⟩ := ready_append.mp h
  exact ⟨_, _, rfl, by decide, (Reads.required (.name hc name)).map Node.call
    |>.seq (.orNull hc args hargs.optionals)
    |>.seq (hwindow.over? hc)
    |>.seq (.text? hc suffix)
    |>.seq (.bool hc p)⟩

theorem Ready.aggregate {name : String} {arg : Expr} {distinct : Bool}
    {orderBy : Option (List (OrderItem Expr))} {separator : Option Expr}
    {window : Option (WindowSpec Expr)} {p : Bool}
    (h : Ready c depth inner (Node.aggregate name arg distinct orderBy separator window p : Node
    Expr).slots) :
    (Node.aggregate name arg distinct orderBy separator window p).ReadsBack c depth inner := by
  obtain ⟨harg, h⟩ := ready_cons.mp h
  obtain ⟨h, hwindow⟩ := ready_append.mp h
  obtain ⟨horderBy, hseparator⟩ := ready_append.mp h
  have hargs : Reads c depth ["expr", "distinct", "orderby", "separator"] inner.aggregateArgs
      ([("expr", arg.toJson)] ++ Wire.flag "distinct" distinct ++
        Wire.orderItems? "orderby" (orderBy.map (·.map (·.map Expr.toJson))) ++
        Wire.value? "separator" (separator.map Expr.toJson)) (arg, distinct, orderBy, separator) :=
    (Reads.required (harg.2 arg rfl)).map _
      |>.seq (.flag hc distinct)
      |>.seq (horderBy.orderItems? hc)
      |>.seq (.optional separator hseparator.optionals)
  exact ⟨_, _, rfl, by decide, (Reads.required (.name hc name)).map _
    |>.seq (.required (hargs.object hc (by decide)))
    |>.seq (hwindow.over? hc)
    |>.seq (.bool hc p)⟩

theorem Ready.cast {keyword : String} {e : Expr} {symbol : String} {target : DataType Expr}
    {p : Bool} (h : Ready c depth inner (Node.cast keyword e symbol target p : Node Expr).slots) :
    (Node.cast keyword e symbol target p).ReadsBack c depth inner := by
  obtain ⟨he, htarget⟩ := ready_cons.mp h
  exact ⟨_, _, rfl, by decide, (Reads.defaulted (.string hc keyword)).map Node.cast
    |>.seq (.required (he.2 e rfl))
    |>.seq (.defaulted (.string hc symbol))
    |>.seq (.required (castTarget hc htarget))
    |>.seq (.bool hc p)⟩

theorem Ready.case {subject : Option Expr} {arms : List (CaseArm Expr)} {p : Bool}
    (h : Ready c depth inner (Node.case subject arms p : Node Expr).slots) :
    (Node.case subject arms p).ReadsBack c depth inner := by
  obtain ⟨hsubject, harms⟩ := ready_append.mp h
  have hargs : Recovers c depth (Wire.Read.list inner.caseArm)
      (.array ((arms.map fun a => a.map Expr.toJson).map CaseArm.toJson)) arms := by
    rw [List.map_map]
    exact (Recovers.list hc fun a ha => (harms.of_mem ha).caseArm hc).mono (Nat.le_succ depth)
  exact ⟨_, _, rfl, by decide, (Reads.orNull hc subject hsubject.optionals).map Node.case
    |>.seq (.required hargs)
    |>.seq (.bool hc p)⟩

theorem Ready.mapLiteral {keyword : String} {entries : List (Expr × Expr)}
    (h : Ready c depth inner (Node.mapLiteral keyword entries : Node Expr).slots) :
    (Node.mapLiteral keyword entries).ReadsBack c depth inner := by
  have hentry : ∀ e ∈ entries, Recovers c depth inner.mapEntry.ofJson
      (.object [("key", e.1.toJson), ("value", e.2.toJson)]) e := fun e he => by
    have he := Ready.of_mem (l := entries) h he
    exact (Reads.required (Ready.expr (ready_append.mp he).1)).map Prod.mk
      |>.seq (.required (Ready.expr (ready_append.mp he).2))
      |>.object hc (by decide)
  exact ⟨_, _, rfl, by decide, (Reads.required (.string hc keyword)).map Node.mapLiteral
    |>.seq (.many_map hc entries hentry)⟩

theorem Ready.fullText {matchWord : Option String} {columns : List (ColumnRef Expr)}
    {againstWord : Option String} {phrase : Expr} {mode : Option String}
    (h : Ready c depth inner (Node.fullText matchWord columns againstWord phrase mode : Node
      Expr).slots) :
    (Node.fullText matchWord columns againstWord phrase mode).ReadsBack c depth inner := by
  obtain ⟨hslots, hphrase⟩ := ready_append.mp h
  have hcolumns : Reads c depth ["columns"] (Wire.Record.many "columns" inner.columnRef.ofJson)
      [("columns", .array ((columns.map (·.map Expr.toJson)).map fun x => .object x.toFields))]
        columns :=
    .many_map hc columns fun x hx => ((hslots.of_mem hx).columnRef hc).object hc (by decide)
  exact ⟨_, _, rfl, by decide, (Reads.nullable hc matchWord).map Node.fullText
    |>.seq hcolumns
    |>.seq (.nullable hc againstWord)
    |>.seq (.required (Ready.expr hphrase))
    |>.seq (.text? hc mode)⟩

omit hc in
theorem Ready.flatten {input path outer recursive mode : Option Expr}
    (h : Ready c depth inner (Node.flatten input path outer recursive mode : Node Expr).slots) :
    (Node.flatten input path outer recursive mode).ReadsBack c depth inner := by
  obtain ⟨h, hmode⟩ := ready_append.mp h
  obtain ⟨h, hrecursive⟩ := ready_append.mp h
  obtain ⟨h, houter⟩ := ready_append.mp h
  obtain ⟨hinput, hpath⟩ := ready_append.mp h
  exact ⟨_, _, rfl, by decide, (Reads.optional input hinput.optionals).map Node.flatten
    |>.seq (.optional path hpath.optionals)
    |>.seq (.optional outer houter.optionals)
    |>.seq (.optional recursive hrecursive.optionals)
    |>.seq (.optional mode hmode.optionals)⟩

theorem Ready.jsonMember {key value : Expr} {onNull : Option Expr}
    (h : Ready c depth inner (Node.jsonMember key value onNull : Node Expr).slots) :
    (Node.jsonMember key value onNull).ReadsBack c depth inner := by
  obtain ⟨hkey, h⟩ := ready_cons.mp h
  obtain ⟨hvalue, honNull⟩ := ready_cons.mp h
  have hmember := (Reads.required (k := "key") (hkey.2 key rfl)).map Node.jsonMember
    |>.seq (.required (k := "value") (hvalue.2 value rfl))
    |>.seq (.optional (k := "on") onNull honNull.optionals)
  exact ⟨_, _, rfl, by decide, .required (hmember.object hc (by decide))⟩

theorem Ready.namedArg {name symbol : String} {value : Expr}
    (h : Ready c depth inner (Node.namedArg name symbol value : Node Expr).slots) :
    (Node.namedArg name symbol value).ReadsBack c depth inner := by
  have hargument := (h (.argument value) List.mem_cons_self).2 value rfl
  have hname : Reads c depth ["name"] _ _ name := .required (.name hc name)
  have harg := hname.map Node.namedArg
    |>.seq (.required (k := "symbol") (.string hc symbol))
    |>.seq (.required (k := "expr") hargument)
  exact ⟨_, _, rfl, by decide, .required (harg.object hc (by decide))⟩

theorem Ready.extract {field : String} {source : Expr}
    (h : Ready c depth inner (Node.extract field source : Node Expr).slots) :
    (Node.extract field source).ReadsBack c depth inner := by
  have hfield : Reads c depth ["field"] _ _ field := .required (.name hc field)
  have hargs := hfield.map Node.extract
    |>.seq (.required (k := "source") (Ready.expr h))
  exact ⟨_, _, rfl, by decide, .required (hargs.object hc (by decide))⟩

theorem Ready.array {keyword : Option String} {brackets : Bool} {items : List Expr}
    (h : Ready c depth inner (Node.array keyword brackets items : Node Expr).slots) :
    (Node.array keyword brackets items).ReadsBack c depth inner := by
  have hreads : Reads c depth ["keyword", "brackets", "expr_list"] inner.array
      (Wire.text? "keyword" keyword ++ [("brackets", .bool brackets)] ++
        [("expr_list", .array (items.map Expr.toJson))]) (.array keyword brackets items) :=
    (Reads.text? hc keyword).map Node.array
      |>.seq (.defaulted (.flag hc brackets))
      |>.seq (.many hc items (Ready.exprs h))
  rw [List.append_assoc] at hreads
  exact ⟨_, _, rfl, by decide, hreads⟩

theorem text_readsBack (kind : TextKind) (value : String) (p : Bool) :
    (Node.text kind value p).ReadsBack c depth inner := by
  have htext : Reads c depth ["value", "parentheses"] (Wire.Nested.textLiteral kind)
      ([("value", .string value)] ++ Wire.parensFlag p) (Node.text kind value p) :=
    (Reads.required (.name hc value)).map (Node.text kind)
      |>.seq (.bool hc p)
  cases kind <;> exact ⟨_, _, rfl, by decide, htext⟩

theorem Ready.readsBack {n : Node Expr} (h : Ready c depth inner n.slots)
    (hquery : ∀ q, n ≠ .query q) (hunknown : ∀ v, n ≠ .unknown v) : n.ReadsBack c depth inner := by
  cases n with
  | column x => exact ⟨_, _, rfl, by decide, (Ready.columnRef hc h).map Node.column⟩
  | binary op l r p =>
    obtain ⟨hl, hr⟩ := ready_cons.mp h
    exact ⟨_, _, rfl, by decide, (Reads.required (.string hc op)).map Node.binary
      |>.seq (.required (hl.2 l rfl))
      |>.seq (.required (Ready.expr hr))
      |>.seq (.bool hc p)⟩
  | unary op e p =>
    exact ⟨_, _, rfl, by decide, (Reads.required (.string hc op)).map Node.unary
      |>.seq (.required (Ready.expr h))
      |>.seq (.bool hc p)⟩
  | call name args window suffix p => exact h.call hc
  | aggregate name arg distinct orderBy separator window p => exact h.aggregate hc
  | cast keyword e symbol target p => exact h.cast hc
  | case subject arms p => exact h.case hc
  | windowCall name args window =>
    obtain ⟨hargs, hwindow⟩ := ready_append.mp h
    exact ⟨_, _, rfl, by decide, (Reads.required (.name hc name)).map Node.windowCall
      |>.seq (.orNull hc args hargs.optionals)
      |>.seq (.required ((Ready.windowSpec hc hwindow).object hc (by decide)))⟩
  | subscript base indices =>
    obtain ⟨hbase, hindices⟩ := ready_cons.mp h
    exact ⟨_, _, rfl, by decide, (Reads.required (hbase.2 base rfl)).map Node.subscript
      |>.seq (.required ((Recovers.oneOrMany hc hindices.exprs).mono (Nat.le_succ depth)))⟩
  | list items separator p =>
    exact ⟨_, _, rfl, by decide, (Reads.many hc items (Ready.exprs h)).map Node.list
      |>.seq (.text? hc separator)
      |>.seq (.bool hc p)⟩
  | query q => exact absurd rfl (hquery q)
  | «variable» v =>
    exact ⟨_, _, rfl, by decide, ((Reads.nullable hc v.sigil).map Variable.mk
      |>.seq (.required (.name hc v.name))
      |>.seq (.unlessEmpty (w := Wire.strings) v.members (.names hc v.members))
      |>.seq (.text? hc v.quote)
      |>.seq (.text? hc v.suffix)).map Node.variable⟩
  | mapLiteral keyword entries => exact h.mapLiteral hc
  | fullText matchWord columns againstWord phrase mode => exact h.fullText hc
  | columnDefinition d =>
    exact ⟨_, _, rfl, by decide, (Ready.columnDefinition hc h).map Node.columnDefinition⟩
  | interval amount unit =>
    exact ⟨_, _, rfl, by decide, (Reads.required (Ready.expr h)).map Node.interval
      |>.seq (.required (.name hc unit))⟩
  | extract field source => exact h.extract hc
  | collate operand name symbol =>
    exact ⟨_, _, rfl, by decide, (Reads.orNull hc operand (Ready.optionals h)).map Node.collate
      |>.seq (.required (.name hc name))
      |>.seq (.text? hc symbol)⟩
  | dataType t => exact ⟨_, _, rfl, by decide, (Ready.dataType hc h).map Node.dataType⟩
  | assign l symbol r =>
    obtain ⟨hl, hr⟩ := ready_cons.mp h
    exact ⟨_, _, rfl, by decide, (Reads.required (hl.2 l rfl)).map Node.assign
      |>.seq (.required (.string hc symbol))
      |>.seq (.required (Ready.expr hr))⟩
  | array keyword brackets items => exact h.array hc
  | struct keyword items =>
    exact ⟨_, _, rfl, by decide, (Reads.text? hc keyword).map Node.struct
      |>.seq (.many hc items (Ready.exprs h))⟩
  | lambda params body =>
    exact ⟨_, _, rfl, by decide, (Reads.required (.names hc params)).map Node.lambda
      |>.seq (.required (Ready.expr h))⟩
  | unnest e => exact ⟨_, _, rfl, by decide, (Reads.required (Ready.expr h)).map Node.unnest⟩
  | json keyword items =>
    exact ⟨_, _, rfl, by decide, (Reads.text? hc keyword).map Node.json
      |>.seq (.many hc items (Ready.exprs h))⟩
  | jsonStep symbol e =>
    exact ⟨_, _, rfl, by decide, (Reads.required (.string hc symbol)).map Node.jsonStep
      |>.seq (.required (Ready.expr h))⟩
  | jsonMember key value onNull => exact h.jsonMember hc
  | anyValue arg window =>
    obtain ⟨harg, hwindow⟩ := ready_cons.mp h
    have harg : Reads c depth ["expr"] inner.wrapped [("expr", arg.toJson)] arg :=
      .required (harg.2 arg rfl)
    exact ⟨_, _, rfl, by decide, (Reads.required (harg.object hc (by decide))).map Node.anyValue
      |>.seq (hwindow.over? hc)⟩
  | flatten input path outer recursive mode => exact h.flatten
  | tableCall name args aliasName =>
    obtain ⟨hargs, halias⟩ := ready_cons.mp h
    exact ⟨_, _, rfl, by decide, (Reads.required (.qualifiedName hc name)).map Node.tableCall
      |>.seq (.required (hargs.2 args rfl))
      |>.seq (.optional aliasName halias.optionals)⟩
  | namedArg name symbol value => exact h.namedArg hc
  | windows ws => exact ⟨_, _, rfl, by decide, (Ready.namedWindows hc h).map Node.windows⟩
  | showing keyword =>
    exact ⟨_, _, rfl, by decide, (Reads.required (.name hc keyword)).map Node.showing⟩
  | insert i => exact ⟨_, _, rfl, by decide, (Ready.insert hc h).map Node.insert⟩
  | tables ts =>
    have htables : ∀ t ∈ ts, Recovers c depth inner.table.ofJson (t.map Expr.toJson).toJson t :=
      fun t ht => (Ready.of_mem (l := ts) h ht).table hc
    exact ⟨_, _, rfl, by decide, (Reads.many_map hc ts htables).map Node.tables⟩
  | wrapped e => exact ⟨_, _, rfl, by decide, (Reads.required (Ready.expr h)).map Node.wrapped⟩
  | number n p =>
    exact ⟨_, _, rfl, by decide, (Reads.required (.number hc n)).map Node.number
      |>.seq (.bool hc p)⟩
  | text kind value p => exact text_readsBack hc kind value p
  | bool b p =>
    exact ⟨_, _, rfl, by decide, (Reads.required (.bool hc b)).map Node.bool
      |>.seq (.bool hc p)⟩
  | null => exact ⟨_, _, rfl, by decide, .pure _⟩
  | star => exact ⟨_, _, rfl, by decide, .pure _⟩
  | unknown v => exact absurd rfl (hunknown v)

/-- A node that is read back from its fields is written as an object and read back from that. -/
theorem Node.ReadsBack.ofObject {n : Node Expr} (h : n.ReadsBack c depth inner)
    (hunknown : ∀ v, n ≠ .unknown v) :
    ∃ gs, c (Expr.mk n).toJson = .object gs ∧
      (Json.depthFields gs ≤ depth → inner.readExpr (.object gs) = .ok (.mk n)) := by
  obtain ⟨ks, r, hr, hnodup, hreads⟩ := h
  obtain ⟨hast, hks⟩ := List.nodup_cons.mp (List.nodup_cons.mp hnodup).2
  have hkeys :
      (("type", Json.string n.kind) :: (n.map Expr.toJson).toFields).map Prod.fst |>.Sublist
        ("type" :: "ast" :: ks) := (hreads.keys.cons _).cons_cons _
  obtain ⟨gs, hgs, hget⟩ := hc.object _ (hnodup.sublist hkeys)
  have hne {key : String} (hkey : key ∈ ks) : key ≠ "type" := by
    rintro rfl
    exact (List.nodup_cons.mp hnodup).1 (List.mem_cons_of_mem _ hkey)
  have hast : gs.get? "ast" = none := by
    rw [hget, Fields.get?_cons, if_neg (by decide),
      Fields.get?_eq_none fun hmem => hast (hreads.keys.subset hmem)]
    rfl
  have htype : gs.get? "type" = some (.string n.kind) := by
    rw [hget, Fields.get?_cons, if_pos rfl, Option.map_some, hc.string]
  refine ⟨gs, by rw [Expr.toJson_known hunknown, Wire.tagged, hgs], fun hdepth => ?_⟩
  have hread :=
    hreads.read hks gs (fun key hkey => by rw [hget, Fields.get?_cons, if_neg (hne hkey)]) hdepth 0
  simp only [Wire.Nested.readExpr, Json.hoist_object hast, Json.tag?, Json.get?, htype, Option.bind,
    Json.string?, hr, Wire.Record.ofJson, Wire.Record.ofFields, hread]
  rfl

end Nodes

/-! ## Clauses of statements -/

section Clauses

variable {depth : Nat} {inner : Wire.Nested} (hc : Json.Arranges c)
include hc

theorem Ready.update {x : Update Expr} (h : Ready c depth inner (slots x)) :
    Reads c depth ["with", "table", "set", "from", "where", "orderby", "limit", "returning"]
      inner.update
      (x.map Expr.toJson).toFields x := by
  simp only [slots_update, ready_append] at h
  obtain ⟨⟨⟨⟨⟨⟨⟨hwiths, htables⟩, hassignments⟩, hsource⟩, hcondition⟩, horderBy⟩, hlimit⟩,
      hreturning⟩ := h
  rw [Update.toFields, List.append_cons]
  exact (hwiths.withs? hc).map Update.mk
    |>.seq (htables.tables hc)
    |>.seq (hassignments.assignments hc)
    |>.seq (hsource.tables? hc)
    |>.seq (hcondition.condition hc)
    |>.seq (horderBy.orderItems? hc)
    |>.seq (hlimit.limit? hc)
    |>.seq (hreturning.returning? hc)

theorem Ready.delete {x : Delete Expr} (h : Ready c depth inner (slots x)) :
    Reads c depth ["with", "columns", "table", "from", "where", "orderby", "limit", "returning"]
      inner.delete
      (x.map Expr.toJson).toFields x := by
  simp only [slots_delete, ready_append] at h
  obtain ⟨⟨⟨⟨⟨⟨⟨hwiths, hcolumns⟩, htargets⟩, hsource⟩, hcondition⟩, horderBy⟩, hlimit⟩,
      hreturning⟩ := h
  simp only [Delete.toFields, Delete.map, Option.map_map, Function.comp_def, List.map_map]
  exact (hwiths.withs? hc).map Delete.mk
    |>.seq (.list? hc x.columns fun cs hcs t ht => ((hcolumns.of_some hcs).of_mem ht).column hc)
    |>.seq (htargets.tables? hc)
    |>.seq (hsource.source hc)
    |>.seq (hcondition.condition hc)
    |>.seq (horderBy.orderItems? hc)
    |>.seq (hlimit.limit? hc)
    |>.seq (hreturning.returning? hc)

theorem tableOption_recovers (x : TableOption) :
    Recovers c depth Wire.Nested.tableOption.ofJson x.toJson x :=
  (Reads.required (.name hc x.keyword)).map TableOption.mk
    |>.seq (.text? hc x.symbol)
    |>.seq (.required (.name hc x.value))
    |>.object hc (by decide)

theorem Ready.create {x : Create Expr} (h : Ready c depth inner (slots x)) :
    Reads c depth ["keyword", "replace", "temporary", "if_not_exists", "table", "database",
        "create_definitions", "table_options", "query_expr"] inner.create
          (x.map Expr.toJson).toFields x := by
  simp only [slots_create, ready_append] at h
  obtain ⟨⟨htables, hdefinitions⟩, hquery⟩ := h
  exact (Reads.required (.name hc x.keyword)).map Create.mk
    |>.seq (.flag hc x.orReplace)
    |>.seq (.flag hc x.temporary)
    |>.seq (.flag hc x.ifNotExists)
    |>.seq (htables.tables? hc)
    |>.seq (.text? hc x.database)
    |>.seq (hdefinitions.exprs? hc)
    |>.seq (.list? hc x.options fun _ _ o _ => tableOption_recovers hc o)
    |>.seq (.optional x.query hquery.optionals)

/-- The second key of a field is never written. -/
theorem aliased_flag {key other : String} (b : Bool) (hne : other ≠ key) :
    Reads c depth [key, other] (Wire.Record.aliased key other Wire.Read.flag false)
      (Wire.flag key b) b where
  keys := by
    cases b
    · exact List.nil_sublist _
    · exact List.Sublist.cons_cons _ (List.nil_sublist _)
  read _ gs hkeys hdepth position := by
    have hother : gs.get? other = none := by
      rw [hkeys other (by simp)]
      cases b
      · rfl
      · rw [Wire.flag, if_pos rfl, Fields.get?_cons, if_neg hne]
        rfl
    have hhas : gs.has other = false := by rw [Fields.has_eq_isSome, hother]; rfl
    have hplain := (Reads.flag hc b).read (by simp) gs
      (fun k hk => hkeys k (by simp at hk; simp [hk])) hdepth position
    simpa [Wire.Record.aliased, hhas, Wire.Record.flag] using hplain

theorem Ready.drop {x : Drop Expr} (h : Ready c depth inner (slots x)) :
    Reads c depth ["keyword", "if_exists", "prefix", "name"] inner.drop
      (x.map Expr.toJson).toFields x :=
  (Reads.required (.name hc x.keyword)).map Drop.mk
    |>.seq (aliased_flag hc x.ifExists (by decide))
    |>.seq (Ready.tables hc h)

end Clauses

/-! ## Expressions -/

section Trees

variable (hc : Json.Arranges c)
include hc

/-- An expression is read back at every depth that its form needs. -/
theorem Expr.recovers {e : Expr} (h : ∀ s, e.Holds s → s.Readable c) (depth : Nat) :
    Recovers c depth (Wire.nested (depth + 1)).expr e.toJson e := by
  induction e using Expr.slot_induction generalizing depth with
  | step n ih =>
    have hready (depth : Nat) : Ready c depth (Wire.nested (depth + 1)) n.slots := fun s hs =>
      ⟨h s (.here hs), fun e he => ih s hs e he (fun t ht => h t (.inside hs he ht)) depth⟩
    by_cases hunknown : ∃ v, n = .unknown v
    · obtain ⟨v, rfl⟩ := hunknown
      obtain ⟨hv, hhoist, htag⟩ := h (.value v) (.here List.mem_cons_self)
      intro _
      have hform : c (Expr.mk (.unknown v)).toJson = v := by rw [Expr.toJson_mk]; exact hv
      rw [hform]
      show (Wire.nested depth).readExpr v = _
      simp only [Wire.Nested.readExpr, hhoist, htag]
    · have hknown : ∀ v, n ≠ .unknown v := fun v hv => hunknown ⟨v, hv⟩
      have hback (depth : Nat) : n.ReadsBack c depth (Wire.nested (depth + 1)) := by
        by_cases hquery : ∃ q, n = .query q
        · obtain ⟨q, rfl⟩ := hquery
          exact ⟨_, _, rfl, by decide, (query_reads hc (q := q) hready depth).map Node.query⟩
        · exact (hready depth).readsBack hc (fun q hq => hquery ⟨q, hq⟩) hknown
      obtain ⟨gs, hgs, hread⟩ := (hback (depth - 1)).ofObject hc hknown
      rw [Recovers, hgs, Json.depth]
      cases depth with
      | zero => exact fun hdepth => absurd hdepth (Nat.not_succ_le_zero _)
      | succ depth => exact fun hdepth => hread (Nat.le_of_succ_le_succ hdepth)

theorem Expr.ofJson_toJson {e : Expr} (h : ∀ s, e.Holds s → s.Readable c) :
    Expr.ofJson (c e.toJson) = .ok e :=
  e.recovers hc h ((c e.toJson).depth + 1) (Nat.le_succ _)

/-! ## Statements and scripts -/

/-- The readers of a script read a statement back. -/
theorem statement_recovers {st : Statement Expr} (depth : Nat)
    (h : ∀ s : Slot, s.Within st.slots → s.Readable c) :
    Recovers c (depth + 1) ((Wire.nested (depth + 1)).statement Wire.Read.scriptVerb) st.toJson
      st := by
  have hready (depth : Nat) : Ready c depth (Wire.nested (depth + 1)) st.slots := fun s hs =>
    ⟨h s (.inl hs), fun e he => e.recovers hc (fun t ht => h t (.inr ⟨s, hs, e, he, ht⟩)) depth⟩
  cases st with
  | select q =>
    exact Reads.tagged hc rfl rfl ((query_reads hc (q := q) hready depth).map Statement.select)
      (by decide)
  | insert i =>
    exact Reads.tagged hc rfl rfl ((Ready.insert hc (hready depth)).map Statement.insert)
      (by decide)
  | replace i =>
    exact Reads.tagged hc rfl rfl ((Ready.insert hc (hready depth)).map Statement.replace)
      (by decide)
  | update u =>
    exact Reads.tagged hc rfl rfl ((Ready.update hc (hready depth)).map Statement.update)
      (by decide)
  | delete d =>
    exact Reads.tagged hc rfl rfl ((Ready.delete hc (hready depth)).map Statement.delete)
      (by decide)
  | create x =>
    exact Reads.tagged hc rfl rfl ((Ready.create hc (hready depth)).map Statement.create)
      (by decide)
  | drop d =>
    exact Reads.tagged hc rfl rfl ((Ready.drop hc (hready depth)).map Statement.drop) (by decide)
  | showing keyword =>
    exact Reads.tagged hc rfl rfl ((Reads.required (.name hc keyword)).map Statement.showing)
      (by decide)

theorem Script.ofJson_toJson {script : Script Expr} (h : ∀ s, script.HoldsSlot s → s.Readable c) :
    Script.ofJson (c script.toJson) = .ok script := by
  cases script with
  | single st =>
    have hread := statement_recovers hc ((c st.toJson).depth + 1)
      (fun s (hs : s.Within st.slots) => h s ⟨st, List.mem_singleton.mpr rfl, hs⟩) (by omega)
    obtain ⟨gs, hgs, -⟩ :=
      hc.some_field (("type", .string st.verb) :: (st.map Expr.toJson).toFields)
    have hlist : ∃ e, Wire.Read.list
        ((Wire.readersFor (c st.toJson)).statement Wire.Read.scriptVerb) (c st.toJson) =
        .error e := by
      rw [Statement.toJson, Wire.tagged, hgs]
      exact ⟨_, rfl⟩
    obtain ⟨e, hlist⟩ := hlist
    simp only [Script.toJson, Script.ofJson, hlist]
    simp only [Wire.readersFor, hread]
  | several sts =>
    have hread : ∀ st ∈ sts, Recovers c ((c (Script.several sts).toJson).depth + 2)
        ((Wire.readersFor (c (Script.several sts).toJson)).statement Wire.Read.scriptVerb)
          st.toJson st :=
      fun st hst => statement_recovers hc _ fun s hs => h s ⟨st, hst, hs⟩
    have hlist : Wire.Read.list ((Wire.readersFor (c (Script.several sts).toJson)).statement
        Wire.Read.scriptVerb)
        (c (Script.several sts).toJson) = .ok sts := (Recovers.list hc hread) (Nat.le_add_right _ 3)
    simp only [Script.ofJson, hlist]

end Trees

end SqlWeave
