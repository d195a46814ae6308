import SqlWeave.Proofs.Wire.Part

/-! Reading back limits, chains of SELECTs and insertions. -/

namespace SqlWeave

open HasSlots (slots)
open Json (Fields)

variable {c : Json → Json} {depth : Nat} {inner : Wire.Nested}

/-! ## Limits -/

section Limits

/-- What a shape is normalized to is what the reader of limits returns. -/
theorem limit_of_shape {v : Json} {shape : LimitShape Expr} {l : Limit Expr}
    (h : Recovers c depth (Wire.Read.limitShape inner.expr) v (some shape))
    (hl : shape.normalize = some l) :
    Recovers c depth (Wire.Read.limit inner.expr) v (some l) := by
  intro hdepth
  simp only [Wire.Read.limit, h hdepth, bind, Except.bind, Option.bind, hl]
  rfl

variable (hc : Json.Arranges c)
include hc

/-- A part of a FETCH clause: what its value is read as, and the words after it. -/
theorem limitPart_toTriple {before after : List String} {e : Expr}
    (h : Recovers c depth inner.expr e.toJson e)
    (hdepth : (c (Limit.toTriple before e.toJson after)).depth ≤ depth) :
    Wire.Read.limitPart inner.expr (some (c (Limit.toTriple before e.toJson after))) =
      .ok (some e) ∧
      Wire.Read.suffixWords (c (Limit.toTriple before e.toJson after)) = after := by
  obtain ⟨gs, hgs, hget⟩ := hc.object
    [("prefix", Wire.strings before), ("value", e.toJson), ("suffix", Wire.strings after)] (by simp)
  rw [Limit.toTriple, hgs] at hdepth ⊢
  have htype : gs.get? "type" = none := by rw [hget]; rfl
  have hvalue : gs.get? "value" = some (c e.toJson) := by rw [hget]; rfl
  have hsuffix : gs.get? "suffix" = some (c (Wire.strings after)) := by rw [hget]; rfl
  rw [Json.depth] at hdepth
  have hread : inner.expr (c e.toJson) = .ok e :=
    h (Nat.le_trans (Fields.depth_of_get? hvalue) (Nat.le_of_succ_le hdepth))
  have hnames : Wire.Read.names (c (Wire.strings after)) = .ok after := Recovers.names hc after
    (Nat.le_trans (Fields.depth_of_get? hsuffix) (Nat.le_of_succ_le hdepth))
  constructor
  · have huntyped : Fields.has gs "type" = false := by rw [Fields.has_eq_isSome, htype]; rfl
    simp only [Wire.Read.limitPart, Wire.Read.unwrapValue, huntyped, Bool.false_eq_true,
      if_false, hvalue, Option.getD_some, hread]
    rfl
  · simp only [Wire.strings, hc.array, Wire.Read.names, Except.ok.injEq] at hnames
    simp only [Wire.Read.suffixWords, Json.get?, hsuffix, Wire.strings, hc.array, hnames]

/-- A limit of the form in which only its values are written. -/
theorem limitShape_separated {s : String} {es : List Expr}
    (h : ∀ e ∈ es, Recovers c depth inner.expr e.toJson e) :
    Recovers c depth (Wire.Read.limitShape inner.expr)
      (.object [("separator", .string s), ("value", .array (es.map Expr.toJson))])
      (some (.separated s es)) := by
  intro hdepth
  obtain ⟨gs, hgs, hget⟩ := hc.object
    [("separator", .string s), ("value", .array (es.map Expr.toJson))] (by simp)
  rw [hgs] at hdepth ⊢
  have hfetch : gs.get? "fetch" = none := by rw [hget]; rfl
  have hoffset : gs.get? "offset" = none := by rw [hget]; rfl
  have hseparator : gs.get? "separator" = some (c (.string s)) := by rw [hget]; rfl
  have hvalue : gs.get? "value" = some (c (.array (es.map Expr.toJson))) := by rw [hget]; rfl
  rw [Json.depth] at hdepth
  have hmapM := Recovers.mapM hc h
    (Nat.le_succ_of_le (Nat.le_trans (Fields.depth_of_get? hvalue) (Nat.le_of_succ_le hdepth)))
  simp only [Wire.Read.limitShape, Wire.Read.limitFields, Wire.Read.present, hfetch, hoffset,
    hseparator, hvalue, hc.string, hc.array, Option.filter_none, Option.isSome_none, Bool.or_self,
      Bool.false_eq_true, if_false, hmapM]
  rfl

/-- A limit of the form in which the words after the count are written too. -/
theorem limitShape_fetch {before words : List String} {count : Expr} {offset : Option Expr}
    (hcount : Recovers c depth inner.expr count.toJson count)
    (hoffset : ∀ e, offset = some e → Recovers c depth inner.expr e.toJson e) :
    Recovers c depth (Wire.Read.limitShape inner.expr)
      (.object [("fetch", Limit.toTriple before count.toJson words),
        ("offset",
          ((offset.map Expr.toJson).map fun o => Limit.toTriple ["OFFSET"] o ["ROWS"]).getD .null)])
      (some (.fetchOffset (some count) words offset)) := by
  intro hdepth
  obtain ⟨gs, hgs, hget⟩ := hc.object
    [("fetch", Limit.toTriple before count.toJson words),
      ("offset",
        ((offset.map Expr.toJson).map fun o => Limit.toTriple ["OFFSET"] o ["ROWS"]).getD .null)]
    (by simp)
  rw [hgs] at hdepth ⊢
  rw [Json.depth] at hdepth
  have hbelow {key : String} {v : Json} (hv : gs.get? key = some v) : v.depth ≤ depth :=
    Nat.le_trans (Fields.depth_of_get? hv) (Nat.le_of_succ_le hdepth)
  have htriple (before after : List String) (v : Json) :
      (c (Limit.toTriple before v after)).isNull = false := by
    obtain ⟨hs, hhs, -⟩ := hc.object [("prefix", Wire.strings before), ("value", v),
      ("suffix", Wire.strings after)]
      (by simp)
    rw [Limit.toTriple, hhs]
    rfl
  have hfetch : gs.get? "fetch" = some (c (Limit.toTriple before count.toJson words)) := by
    rw [hget]; rfl
  obtain ⟨hread, hwords⟩ := limitPart_toTriple hc hcount (hbelow hfetch)
  have hcountPart :
      Wire.Read.present gs "fetch" = some (c (Limit.toTriple before count.toJson words)) := by
    simp [Wire.Read.present, hfetch, Option.filter_some, htriple]
  have hoffsetPart :
      Wire.Read.limitPart inner.expr (Wire.Read.present gs "offset") = .ok offset := by
    cases offset with
    | none =>
      have hnull : gs.get? "offset" = some .null := by
        rw [hget]
        exact congrArg some hc.null
      have hpresent : Wire.Read.present gs "offset" = none := by rw [Wire.Read.present, hnull]; rfl
      rw [hpresent]
      rfl
    | some offset =>
      have hstart : gs.get? "offset" =
          some (c (Limit.toTriple ["OFFSET"] offset.toJson ["ROWS"])) := by rw [hget]; rfl
      have hpresent : Wire.Read.present gs "offset" =
          some (c (Limit.toTriple ["OFFSET"] offset.toJson ["ROWS"])) := by
        simp [Wire.Read.present, hstart, Option.filter_some, htriple]
      rw [hpresent]
      exact (limitPart_toTriple hc (hoffset offset rfl) (hbelow hstart)).1
  simp only [Wire.Read.limitShape, Wire.Read.limitFields, hcountPart, Option.isSome_some,
    Bool.true_or, if_true, hread, hoffsetPart, Option.map_some, hwords, Option.getD_some]
  rfl

theorem Ready.limit {l : Limit Expr} (h : Ready c depth inner (slots l)) :
    Recovers c depth (Wire.Read.limit inner.expr) (l.map Expr.toJson).toJson (some l) := by
  obtain ⟨count, offset, comma, suffix⟩ := l
  rw [slots_limit, ready_cons, ready_append] at h
  obtain ⟨⟨hsettled, -⟩, hcount, hoffset⟩ := h
  have hoffset' : ∀ e, offset = some e → Recovers c depth inner.expr e.toJson e :=
    fun e he => (hoffset.of_some he).expr
  have hseparated {separator : String} {es : List Expr}
      (hes : ∀ e ∈ es, Recovers c depth inner.expr e.toJson e) :=
    limitShape_separated hc (s := separator) hes
  rcases count with _ | count
  · have hcomma : comma = false := by
      cases comma
      · rfl
      · exact absurd (hsettled.comma rfl).1 (by simp)
    have hsuffix : suffix = [] := Decidable.byContradiction fun hne =>
      absurd (hsettled.suffix hne).1 (by simp)
    subst hcomma hsuffix
    rcases offset with _ | offset
    · exact absurd hsettled.some (by simp)
    · exact limit_of_shape (hseparated (List.forall_mem_singleton.mpr (hoffset' offset rfl))) rfl
  · have hcount' : Recovers c depth inner.expr count.toJson count := (hcount.of_some rfl).expr
    rcases suffix with _ | ⟨word, words⟩
    · rcases offset with _ | offset
      · have hcomma : comma = false := by
          cases comma
          · rfl
          · exact absurd (hsettled.comma rfl).2.1 (by simp)
        subst hcomma
        exact limit_of_shape (hseparated (List.forall_mem_singleton.mpr hcount')) rfl
      · cases comma with
        | false =>
          exact limit_of_shape (hseparated (List.forall_mem_cons.mpr
            ⟨hcount', List.forall_mem_singleton.mpr (hoffset' offset rfl)⟩)) rfl
        | true =>
          exact limit_of_shape (hseparated (List.forall_mem_cons.mpr
            ⟨hoffset' offset rfl, List.forall_mem_singleton.mpr hcount'⟩)) rfl
    · have hcomma : comma = false := by
        cases comma
        · rfl
        · exact absurd (hsettled.comma rfl).2.2 (by simp)
      subst hcomma
      have hsuffix := (hsettled.suffix (List.cons_ne_nil _ _)).2
      exact limit_of_shape (limitShape_fetch hc hcount' hoffset') (congrArg some hsuffix)

end Limits

/-! ## Chains of SELECTs -/

def selectKeys : List String :=
  ["with", "distinct", "columns", "from", "where", "groupby", "having", "window", "orderby",
    "limit", "set_op", "_next", "parentheses"]

def Query.written (q : Query Expr) : Json := .object (q.map Expr.toJson).toFields

/-- The rest of a chain, as a chain. -/
def Query.next? (rest : List (Select Expr)) : Option (Query Expr) :=
  match rest with
  | [] => none
  | s :: ss => some ⟨s, ss⟩

theorem Query.toFields_map (head : Select Expr) (rest : List (Select Expr)) :
    ((Query.mk head rest).map Expr.toJson).toFields =
      (head.map Expr.toJson).toFields ((Query.next? rest).map Query.written) := by
  cases rest <;> rfl

section Queries

variable (hc : Json.Arranges c)
include hc

theorem Ready.limit? {x : Option (Limit Expr)} (h : Ready c depth inner (slots x)) :
    Reads c depth ["limit"] inner.limit? (Wire.limit? (x.map (·.map Expr.toJson))) x := by
  cases x with
  | none => exact .field none nofun fun _ => rfl
  | some l => exact .defaulted ((h.of_some rfl).limit hc)

theorem Ready.windows? {x : Option (List (NamedWindow Expr))} (h : Ready c depth inner (slots x)) :
    Reads c depth ["window"] (Wire.Record.optional "window" inner.namedWindows.ofJson)
      (Wire.value? "window" ((x.map (·.map (·.map Expr.toJson))).map fun ws =>
        .object [("expr", .array (ws.map NamedWindow.toJson))])) x := by
  rw [Option.map_map]
  exact .object? hc x (by decide) fun ws hws => (h.of_some hws).namedWindows hc

theorem Ready.select {s : Select Expr} (h : Ready c depth inner (slots s)) {n : Option (Query Expr)}
    (hnext : ∀ q, n = some q → c q.written ≠ .null ∧ Recovers c depth inner.query q.written q) :
    Reads c depth selectKeys inner.select ((s.map Expr.toJson).toFields (n.map Query.written))
      ⟨s, (n.map fun q => q.head :: q.rest).getD []⟩ := by
  simp only [slots_select, ready_append] at h
  obtain ⟨⟨⟨⟨⟨⟨⟨⟨hwiths, hcolumns⟩, htables⟩, hcondition⟩, hgroupBy⟩, hhaving⟩, hwindows⟩,
      horderBy⟩, hlimit⟩ := h
  exact (hwiths.withs? hc).map _
    |>.seq (.flag hc s.distinct)
    |>.seq (.defaulted (hcolumns.columns hc))
    |>.seq (htables.source hc)
    |>.seq (hcondition.condition hc)
    |>.seq (hgroupBy.exprs? hc)
    |>.seq (.optional s.having hhaving.optionals)
    |>.seq (hwindows.windows? hc)
    |>.seq (horderBy.orderItems? hc)
    |>.seq (hlimit.limit? hc)
    |>.seq (.text? hc s.setOperator)
    |>.seq (.optional n hnext)
    |>.seq (.bool hc s.parens)

/-- Each SELECT of a chain is one level deeper than the one before. -/
theorem query_reads {q : Query Expr}
    (h : ∀ depth, Ready c depth (Wire.nested (depth + 1)) (slots q)) (depth : Nat) :
    Reads c depth selectKeys (Wire.nested (depth + 1)).select (q.map Expr.toJson).toFields q := by
  obtain ⟨head, rest⟩ := q
  simp only [slots_query, ready_append] at h
  induction rest generalizing head depth with
  | nil => exact (h depth).1.select hc (n := none) (fun _ hq => by cases hq)
  | cons s rest ih =>
    have hrest (depth : Nat) := (h depth).2
    simp only [slots_cons, ready_append] at hrest
    have hnext (depth : Nat) := ih depth s fun depth => ⟨(hrest depth).1, (hrest depth).2⟩
    rw [Query.toFields_map]
    refine (h depth).1.select hc (n := some ⟨s, rest⟩) fun q hq => ?_
    cases hq
    refine ⟨(hnext 0).not_null hc (by decide), fun hdepth => ?_⟩
    cases depth with
    | zero => exact absurd hdepth (Nat.not_le.mpr ((hnext 0).depth_pos hc (by decide)))
    | succ depth => exact ((hnext depth).ofJson hc (by decide)) hdepth

end Queries

/-! ## Insertions -/

section Insertions

variable (hc : Json.Arranges c)
include hc

theorem Ready.assignment {x : Assignment Expr} (h : Ready c depth inner (slots x)) :
    Recovers c depth inner.assignment.ofJson (x.map Expr.toJson).toJson x :=
  (Reads.required (.name hc x.column)).map Assignment.mk
    |>.seq (.required h.expr)
    |>.seq (.text? hc x.table)
    |>.object hc (by decide)

theorem Ready.assignments {xs : List (Assignment Expr)} (h : Ready c depth inner (slots xs)) :
    Reads c depth ["set"] inner.assignments [("set", Wire.assignments (xs.map (·.map Expr.toJson)))]
      xs := by
  rw [Wire.assignments, List.map_map]
  exact .required ((Recovers.oneOrMany hc fun a ha => (h.of_mem ha).assignment hc).mono
    (Nat.le_succ _))

theorem Ready.insertSource {x : InsertSource Expr} (h : Ready c depth inner (slots x)) :
    c (x.map Expr.toJson).toJson ≠ .null ∧
      Recovers c depth inner.insertSource (x.map Expr.toJson).toJson x := by
  cases x with
  | rows items =>
    obtain ⟨gs, hgs, hget⟩ :=
      hc.object [("type", .string "values"), ("values", .array (items.map Expr.toJson))] (by simp)
    have hwritten : c ((InsertSource.rows items).map Expr.toJson).toJson = .object gs := hgs
    rw [Recovers, hwritten]
    refine ⟨nofun, fun hdepth => ?_⟩
    have htag : gs.get? "type" = some (.string "values") := by
      rw [hget]; exact congrArg some (hc.string _)
    have hvalues : gs.get? "values" = some (c (.array (items.map Expr.toJson))) := by rw [hget]; rfl
    rw [Json.depth] at hdepth
    have hmapM := Recovers.mapM hc (h.exprs (l := items))
      (Nat.le_succ_of_le (Nat.le_trans (Fields.depth_of_get? hvalues) (Nat.le_of_succ_le hdepth)))
    simp only [Wire.Nested.insertSource, Json.tag?, Json.get?, htag, Option.bind, Json.string?,
      if_true, hvalues, hc.array, hmapM]
    rfl
  | query e =>
    obtain ⟨⟨hnull, harray, htag⟩, hread⟩ := h (.source e) List.mem_cons_self
    refine ⟨hnull, fun hdepth => ?_⟩
    simp only [InsertSource.map, InsertSource.toJson] at hdepth ⊢
    unfold Wire.Nested.insertSource
    split
    · rename_i vs heq
      exact absurd heq (harray vs)
    · rw [if_neg htag, hread e rfl hdepth]
      rfl

theorem Ready.insert {x : Insert Expr} (h : Ready c depth inner (slots x)) :
    Reads c depth ["table", "columns", "values", "prefix", "on_duplicate_update", "returning"]
      inner.insert
      (x.map Expr.toJson).toFields x := by
  simp only [slots_insert, ready_append] at h
  obtain ⟨⟨⟨⟨htables, hcolumns⟩, hsource⟩, hduplicate⟩, hreturning⟩ := h
  simp only [Insert.toFields, Insert.map, Option.map_map, Function.comp_def]
  exact (htables.tables hc).map Insert.mk
    |>.seq (.namesOrNull hc x.columns hcolumns.nameLists)
    |>.seq (.optional x.source fun s hs => (hsource.of_some hs).insertSource hc)
    |>.seq (.text? hc x.into)
    |>.seq (.object? hc x.onDuplicate (by decide) fun as has =>
      (hduplicate.of_some has).assignments hc)
    |>.seq (hreturning.returning? hc)

end Insertions

end SqlWeave
