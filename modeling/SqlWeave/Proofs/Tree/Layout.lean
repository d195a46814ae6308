import SqlWeave.Proofs.Token.Standing
import SqlWeave.Proofs.Tree.Built
import SqlWeave.Render.Expr
import SqlWeave.Tree.Query

/-! The parentheses of an expression. The layout of a node tells in which order its subexpressions
are written and where its own syntax has parentheses: around the arguments of a call, around a
subquery that brings none, in a window. Tokens show an expression if every node that is marked as
parenthesized has a pair of parentheses around exactly its tokens, besides those of the layouts, and
there are no other parentheses. What is read from text has a shape in which nothing is left out of
its text. -/

namespace SqlWeave

open Token (Quoting)
open Render (isMembership operatorText upper?)

/-- What is written of a node: a parenthesis of its own syntax, or a subexpression. -/
inductive Mark where
  | opening
  | closing
  | part (e : Expr)

namespace Layout

def enclosed (ms : List Mark) : List Mark := .opening :: (ms ++ [.closing])

def parts (es : List Expr) : List Mark := es.map .part

def optional (e : Option Expr) : List Mark := parts e.toList

def orderItems (items : Option (List (OrderItem Expr))) : List Mark :=
  parts ((items.getD []).map (·.expr))

/-- A specification stands in parentheses, the name of a window does not. -/
def window (w : WindowSpec Expr) : List Mark :=
  let items := orderItems w.partitionBy ++ orderItems w.orderBy
  if w.name.isSome then items else enclosed items

def overWindow (w : Option (WindowSpec Expr)) : List Mark := w.toList.flatMap window

def dataType (t : DataType Expr) : List Mark :=
  if t.length.isSome || !t.args.isEmpty then enclosed (parts t.args) else []

/-- A query that must stand in parentheses brings its own, or gets some. -/
def subquery (e : Expr) : List Mark :=
  match e.node with
  | .query q => if q.parens then [.part e] else enclosed [.part e]
  | .list .. => [.part e]
  | _ => enclosed [.part e]

/-- What stands behind an operator. IN puts parentheses around a list or a query that brings
none. -/
def side (operator : String) (e : Expr) : List Mark :=
  match e.node with
  | .list _ _ parens => if isMembership operator && !parens then enclosed [.part e] else [.part e]
  | .query q => if isMembership operator && !q.parens then enclosed [.part e] else [.part e]
  | _ => [.part e]

def cte (c : Cte Expr) : List Mark :=
  (if c.columns.isSome then enclosed [] else []) ++ subquery c.body

def columns : Columns Expr → List Mark
  | .all => []
  | .list items => parts (items.map (·.expr))

def table (t : Table Expr) : List Mark :=
  match t.expr with
  | none => []
  | some e =>
    match e.node with
    | .query _ => subquery e
    | _ => [.part e]

def joinCondition (t : Table Expr) : List Mark :=
  match t.condition, t.usingColumns with
  | some e, _ => [.part e]
  | none, some _ => enclosed []
  | none, none => []

/-- FETCH has the offset before the count, and so has a LIMIT with a comma. -/
def limit (d : Dialect) (l : Limit Expr) : List Mark :=
  if l.count.isSome && !l.fetchSuffix.isEmpty || d.limitStyle == .fetchOffset || l.comma &&
    d.supportsLimitComma then
    optional l.offset ++ optional l.count
  else optional l.count ++ optional l.offset

def select (d : Dialect) (s : Select Expr) : List Mark :=
  (s.withs.getD []).flatMap cte ++ columns s.columns ++
    (s.tables.getD []).flatMap (fun t => table t ++ joinCondition t) ++ optional s.condition ++
    parts (s.groupBy.getD []) ++ optional s.having ++
      (s.windows.getD []).flatMap (fun w => window w.spec) ++
    orderItems s.orderBy ++ s.limit.toList.flatMap (limit d)

end Layout

namespace Node

open Layout

/-- The layout of a node. Kinds that are not read from text have no parentheses in it. -/
def layout (d : Dialect) : Node Expr → List Mark
  | .binary operator left right _ => .part left :: side (operatorText operator) right
  | .call _ args w _ _ => args.toList.flatMap (fun e => enclosed [.part e]) ++ overWindow w
  | .aggregate _ arg _ order separator w _ =>
    enclosed (.part arg :: (orderItems order ++ Layout.optional separator)) ++ overWindow w
  | .cast _ e symbol t _ =>
    if symbol = "::" then .part e :: Layout.dataType t else enclosed (.part e :: Layout.dataType t)
  | .windowCall _ args w => enclosed (Layout.optional args) ++ window w
  | .query q => (q.head :: q.rest).flatMap (Layout.select d)
  | .fullText _ columns _ phrase _ =>
    enclosed (Layout.parts (columns.map fun c => .mk (.column c))) ++ enclosed [.part phrase]
  | .columnDefinition c =>
    Layout.dataType c.type ++ Layout.optional c.defaultValue ++ Layout.optional c.comment
  | .extract _ source => enclosed [.part source]
  | .dataType t => Layout.dataType t
  | .unnest e => enclosed [.part e]
  | n => Layout.parts (n.slots.filterMap Slot.expr?)

/-- Whether the node is marked as written inside parentheses. -/
def isParenthesized : Node Expr → Bool
  | .column c => c.parens
  | .binary _ _ _ parens | .unary _ _ parens | .call _ _ _ _ parens | .aggregate _ _ _ _ _ _ parens
  | .cast _ _ _ _ parens | .case _ _ parens | .list _ _ parens | .number _ parens | .text _ _ parens
  | .bool _ parens => parens
  | .query q => q.parens
  | _ => false

/-- The references to columns in a node, those apart that stand in its subexpressions. -/
def columnRefs : Node Expr → List (ColumnRef Expr)
  | .column c => [c]
  | .fullText _ columns _ _ _ => columns
  | .columnDefinition d => [d.column]
  | _ => []

/-- A pair of parentheses around the tokens of a node that is marked so. -/
def wrap (n : Node Expr) (ks : List TokenKind) : List TokenKind :=
  if n.isParenthesized then .symbol .leftParen :: (ks ++ [.symbol .rightParen]) else ks

theorem count_wrap (n : Node Expr) (ks : List TokenKind) :
    (n.wrap ks).count (.symbol .leftParen) = (if n.isParenthesized then 1 else 0) +
      ks.count (.symbol .leftParen) := by
  unfold wrap
  split <;> simp [Nat.add_comm]

end Node

/-- Whether a parenthesis is opened where the mark stands. -/
def Mark.opens : Mark → Bool
  | .opening => true
  | .closing => false
  | .part e => e.node.isParenthesized

/-- The tokens of a column's name: a star, the name between delimiters, or what it is by itself. -/
def ColumnName.Shown (d : Dialect) : ColumnName Expr → List TokenKind → Prop
  | .star, ks => ks = [.symbol .star]
  | .name text, ks =>
    ks = [.quotedIdentifier text] ∨ ks ++ [.eof] = Token.kinds d.quoting text.toList
  | .computed _, _ => False

/-- A column has one name between delimiters for each qualifier, and then its own. No dialect
delimits a star. -/
def Node.Named (d : Dialect) : Node Expr → List TokenKind → Prop
  | .column c, ks => ∃ name, c.column.Shown d name ∧
      ks = c.qualifiers.flatMap (fun qualifier => [Token.nameKind qualifier, .symbol .dot]) ++ name
  | _, _ => True

/-- The tokens hold the parentheses of the marks and of the nodes in them, and no others. -/
inductive Around (d : Dialect) : List Mark → List TokenKind → Prop
  | done : Around d [] []
  | token {ms : List Mark} {k : TokenKind} {ks : List TokenKind} (hk : k.isParenthesis = false)
      (h : Around d ms ks) :
      Around d ms (k :: ks)
  | opening {ms : List Mark} {ks : List TokenKind} (h : Around d ms ks) :
      Around d (.opening :: ms) (.symbol .leftParen :: ks)
  | closing {ms : List Mark} {ks : List TokenKind} (h : Around d ms ks) :
      Around d (.closing :: ms) (.symbol .rightParen :: ks)
  | part {n : Node Expr} {ms : List Mark} {inner ks : List TokenKind}
      (hinner : Around d (n.layout d) inner) (hnamed : n.Named d inner) (h : Around d ms ks) :
      Around d (.part (.mk n) :: ms) (n.wrap inner ++ ks)

/-- The tokens are those of the expression, with all parentheses that it is marked with. -/
def Shows (d : Dialect) (e : Expr) (ks : List TokenKind) : Prop :=
  ∃ inner, Around d (e.node.layout d) inner ∧ e.node.Named d inner ∧ ks = e.node.wrap inner

namespace Around

variable {d : Dialect} {ms ns : List Mark} {ks js : List TokenKind} {e : Expr}

theorem append (h : Around d ms ks) (h' : Around d ns js) : Around d (ms ++ ns) (ks ++ js) := by
  induction h with
  | done => exact h'
  | token hk _ ih => exact .token hk ih
  | opening _ ih => exact .opening ih
  | closing _ ih => exact .closing ih
  | part hinner hnamed _ _ ih =>
    rw [List.cons_append, List.append_assoc]
    exact .part hinner hnamed ih

theorem plain (h : ∀ k ∈ ks, k.isParenthesis = false) : Around d [] ks := by
  induction ks with
  | nil => exact .done
  | cons k ks ih =>
    exact .token (h k List.mem_cons_self) (ih fun j hj => h j (List.mem_cons_of_mem k hj))

theorem enclosed (h : Around d ms ks) :
    Around d (Layout.enclosed ms) (.symbol .leftParen :: (ks ++ [.symbol .rightParen])) :=
  .opening (h.append (.closing .done))

theorem shown (h : Shows d e ks) : Around d [.part e] ks := by
  obtain ⟨n⟩ := e
  obtain ⟨inner, hinner, hnamed, rfl⟩ := h
  have hpart : Around d [.part (.mk n)] (n.wrap inner ++ []) := .part hinner hnamed .done
  rwa [List.append_nil] at hpart

/-- The tokens of a part stand among those of the whole. -/
theorem of_mem (h : Around d ms ks) (he : .part e ∈ ms) :
    ∃ before after inner, Shows d e inner ∧ ks = before ++ inner ++ after := by
  induction h with
  | done => cases he
  | @token ms k ks _ _ ih =>
    obtain ⟨before, after, inner, hinner, rfl⟩ := ih he
    exact ⟨k :: before, after, inner, hinner, rfl⟩
  | @opening ms ks _ ih =>
    obtain ⟨before, after, inner, hinner, rfl⟩ := ih (by simpa using he)
    exact ⟨.symbol .leftParen :: before, after, inner, hinner, rfl⟩
  | @closing ms ks _ ih =>
    obtain ⟨before, after, inner, hinner, rfl⟩ := ih (by simpa using he)
    exact ⟨.symbol .rightParen :: before, after, inner, hinner, rfl⟩
  | @part n ms inner ks hinner hnamed _ _ ih =>
    rcases List.mem_cons.mp he with heq | he
    · cases heq
      exact ⟨[], ks, _, ⟨inner, hinner, hnamed, rfl⟩, rfl⟩
    · obtain ⟨before, after, more, hmore, rfl⟩ := ih he
      exact ⟨n.wrap inner ++ before, after, more, hmore, by simp⟩

/-- Each mark at which a parenthesis is opened has one among the tokens. -/
theorem openings_le (h : Around d ms ks) :
    ms.countP Mark.opens ≤ ks.count (.symbol .leftParen) := by
  induction h with
  | done => exact Nat.le_refl 0
  | token _ _ ih => exact Nat.le_trans ih ((List.sublist_cons_self ..).count_le _)
  | opening _ ih =>
    rw [List.countP_cons_of_pos rfl, List.count_cons_self]
    exact Nat.add_le_add_right ih 1
  | closing _ ih => simpa [Mark.opens] using ih
  | @part n ms inner ks _ _ _ _ ih =>
    have hopens : Mark.opens (.part (.mk n)) = n.isParenthesized := rfl
    rw [List.countP_cons, List.count_append, n.count_wrap, hopens]
    omega

end Around

/-! ## Every subexpression is laid out -/

namespace Layout

open HasSlots (slots)

variable {e : Expr} {ms ns : List Mark} {ss ts : List Slot}

/-- What stands in the slots stands in the layout. -/
def Covers (ms : List Mark) (ss : List Slot) : Prop := Slot.All (fun e => .part e ∈ ms) ss

theorem Covers.mono (h : Covers ms ss) (hsub : ∀ e, .part e ∈ ms → .part e ∈ ns) : Covers ns ss :=
  fun s hs e he => hsub e (h s hs e he)

theorem Covers.append (h : Covers ms ss) (h' : Covers ns ts) : Covers (ms ++ ns) (ss ++ ts) :=
  Slot.all_append.mpr ⟨h.mono fun _ => List.mem_append_left ns,
    h'.mono fun _ => List.mem_append_right ms⟩

theorem covers_list {α : Type} [SizeOf α] [HasSlots α] {f : α → List Mark} {xs : List α}
    (h : ∀ x ∈ xs, Covers (f x) (slots x)) : Covers (xs.flatMap f) (slots xs) := by
  intro s hs e he
  obtain ⟨x, hx, hs⟩ := List.mem_flatMap.mp hs
  exact List.mem_flatMap.mpr ⟨x, hx, h x hx s hs e he⟩

theorem covers_option {α : Type} [SizeOf α] [HasSlots α] {f : α → List Mark} {x : Option α}
    (h : ∀ y, Covers (f y) (slots y)) : Covers (x.toList.flatMap f) (slots x) := by
  cases x with
  | none => exact Slot.all_nil
  | some y => simpa using h y

@[simp] theorem part_mem_parts {es : List Expr} : .part e ∈ parts es ↔ e ∈ es := by
  simp [parts]

@[simp] theorem part_mem_enclosed : .part e ∈ enclosed ms ↔ .part e ∈ ms := by
  simp [enclosed]

theorem covers_parts (es : List Expr) : Covers (parts es) (slots es) := by
  intro s hs e he
  obtain ⟨x, hx, hs⟩ := List.mem_flatMap.mp hs
  cases List.mem_singleton.mp hs
  cases he
  exact part_mem_parts.mpr hx

theorem Covers.enclosed (h : Covers ms ss) : Covers (enclosed ms) ss :=
  h.mono fun _ => part_mem_enclosed.mpr

theorem covers_optional (x : Option Expr) : Covers (optional x) (Slot.optionals x) := by
  cases x with
  | none => exact Slot.all_nil
  | some e => simp [Covers, optional, Slot.optionals, Slot.expr?]

theorem covers_orderItems (items : Option (List (OrderItem Expr))) :
    Covers (orderItems items) (slots items) := by
  cases items with
  | none => exact Slot.all_nil
  | some items =>
    intro s hs e he
    rw [slots_some] at hs
    obtain ⟨i, hi, hs⟩ := List.mem_flatMap.mp hs
    cases List.mem_singleton.mp hs
    cases he
    exact part_mem_parts.mpr (List.mem_map_of_mem hi)

theorem covers_window (w : WindowSpec Expr) : Covers (window w) (slots w) := by
  have hitems := (covers_orderItems w.partitionBy).append (covers_orderItems w.orderBy)
  unfold window
  split
  · exact hitems
  · exact hitems.enclosed

theorem covers_over (w : Option (WindowSpec Expr)) : Covers (overWindow w) (slots w) :=
  covers_option covers_window

theorem covers_dataType (t : DataType Expr) : Covers (dataType t) (slots t) := by
  unfold dataType
  split
  · exact (covers_parts t.args).enclosed
  · rename_i hnone
    have hargs : t.args = [] := by simp at hnone; exact hnone.2
    rw [slots_dataType, hargs]
    exact Slot.all_nil

theorem part_mem_subquery (e : Expr) : .part e ∈ subquery e := by
  unfold subquery
  split
  · split <;> simp
  · simp
  · simp

theorem part_mem_side (operator : String) (e : Expr) : .part e ∈ side operator e := by
  unfold side
  split
  · split <;> simp
  · split <;> simp
  · simp

theorem covers_cte (c : Cte Expr) : Covers (cte c) (slots c) := by
  simp [Covers, cte, Slot.expr?, part_mem_subquery]

theorem covers_columns (cs : Columns Expr) : Covers (columns cs) (slots cs) := by
  cases cs with
  | all => exact Slot.all_nil
  | list items =>
    intro s hs e he
    obtain ⟨i, hi, hs⟩ := List.mem_flatMap.mp hs
    cases List.mem_singleton.mp hs
    cases he
    exact part_mem_parts.mpr (List.mem_map_of_mem hi)

theorem covers_table (t : Table Expr) : Covers (table t ++ joinCondition t) (slots t) := by
  have hexpr : Covers (table t) (Slot.optionals t.expr) := by
    unfold table
    cases t.expr with
    | none => exact Slot.all_nil
    | some e =>
      simp only [Covers, Slot.optionals, Option.toList_some, List.map_cons, List.map_nil,
        Slot.all_cons, Slot.expr?, Option.some.injEq, forall_eq', Slot.all_nil, and_true]
      split
      · exact part_mem_subquery e
      · simp
  have hcondition :
      Covers (joinCondition t) (Slot.optionals t.condition ++ Slot.nameLists t.usingColumns) := by
    unfold joinCondition
    cases t.condition with
    | none => simp [Covers, Slot.optionals]
    | some e => simp [Covers, Slot.optionals, Slot.expr?]
  rw [slots_table, List.append_assoc]
  exact hexpr.append hcondition

theorem covers_limit (d : Dialect) (l : Limit Expr) : Covers (limit d l) (slots l) := by
  have hpart (x : Option Expr) : Covers (optional x) (slots x) := by
    cases x <;> simp [Covers, optional, Slot.expr?]
  have hcount := hpart l.count
  have hoffset := hpart l.offset
  simp only [slots_limit, Covers, Slot.all_cons, Slot.expr?, Slot.all_append, reduceCtorEq,
    false_implies, implies_true, true_and]
  unfold limit
  split
  · exact ⟨hcount.mono fun _ => List.mem_append_right _,
      hoffset.mono fun _ => List.mem_append_left _⟩
  · exact ⟨hcount.mono fun _ => List.mem_append_left _,
      hoffset.mono fun _ => List.mem_append_right _⟩

theorem covers_getD {α : Type} [SizeOf α] [HasSlots α] {f : α → List Mark} {xs : Option (List α)}
    (h : ∀ x, Covers (f x) (slots x)) : Covers ((xs.getD []).flatMap f) (slots xs) := by
  cases xs with
  | none => exact Slot.all_nil
  | some xs => simpa using covers_list fun x _ => h x

theorem covers_select (d : Dialect) (s : Select Expr) : Covers (select d s) (slots s) := by
  have hgroupBy : Covers (parts (s.groupBy.getD [])) (slots s.groupBy) := by
    cases s.groupBy with
    | none => exact Slot.all_nil
    | some es => simpa using covers_parts es
  rw [slots_select]
  exact (covers_getD covers_cte).append (covers_columns _) |>.append (covers_getD covers_table)
    |>.append (covers_optional _) |>.append hgroupBy |>.append (covers_optional _)
    |>.append (covers_getD fun w => covers_window w.spec) |>.append (covers_orderItems _)
    |>.append (covers_option (covers_limit d))

end Layout

/-- No subexpression stands in the name of a column that is none itself. -/
theorem ColumnName.all_slots {P : Expr → Prop} {name : ColumnName Expr}
    (h : ∀ e, name ≠ .computed e) :
    Slot.All P name.slots := by
  cases name with
  | star => exact Slot.all_nil
  | name text => exact Slot.all_cons.mpr ⟨fun _ he => (nomatch he), Slot.all_nil⟩
  | computed e => exact absurd rfl (h e)

open Layout in
/-- The layout of a node has all of its subexpressions. -/
theorem Node.layout_covers (d : Dialect) {n : Node Expr}
    (hcolumns : ∀ c ∈ n.columnRefs, ∀ e, c.column ≠ .computed e) :
    Covers (n.layout d) n.slots := by
  have hslots (ss : List Slot) : Covers (Layout.parts (ss.filterMap Slot.expr?)) ss := by
    intro s hs e he
    exact part_mem_parts.mpr (List.mem_filterMap.mpr ⟨s, hs, he⟩)
  have hexpr (e : Expr) : Covers [.part e] [.expr e] := by simp [Covers, Slot.expr?]
  have hcolumn {ms : List Mark} {c : ColumnRef Expr} (hc : c ∈ n.columnRefs) :
      Covers ms (HasSlots.slots c) :=
    ColumnName.all_slots (hcolumns c hc)
  cases n
  case binary operator left right parens =>
    simp [Covers, layout, Node.slots, Slot.expr?, part_mem_side]
  case call name args w suffix parens =>
    refine Covers.append ?_ (covers_over w)
    cases args with
    | none => exact Slot.all_nil
    | some e => simp [Covers, Slot.optionals, Slot.expr?]
  case aggregate name arg distinct order separator w parens =>
    have hargs := (hexpr arg).append ((covers_orderItems order).append (covers_optional separator))
    have hall := hargs.enclosed.append (covers_over w)
    simpa only [Node.slots, Node.layout, List.append_assoc, List.cons_append, List.nil_append]
      using hall
  case cast keyword e symbol t parens =>
    have hparts := (hexpr e).append (covers_dataType t)
    unfold layout
    simp only
    split
    · exact hparts
    · exact hparts.enclosed
  case windowCall name args w => exact (covers_optional args).enclosed.append (covers_window w)
  case query q =>
    have hselects :
        Covers ((q.head :: q.rest).flatMap (Layout.select d)) (HasSlots.slots (q.head :: q.rest)) :=
      covers_list fun s _ => covers_select d s
    exact hselects
  case fullText matchWord columns againstWord phrase mode =>
    refine Covers.append (fun s hs e he => ?_) (hexpr phrase).enclosed
    obtain ⟨c, hc, hs⟩ := List.mem_flatMap.mp hs
    exact hcolumn hc s hs e he
  case columnDefinition c =>
    have hwrapped (x : Option Expr) : Covers (Layout.optional x) (Slot.wrappings x) := by
      cases x <;> simp [Covers, Layout.optional, Slot.wrappings, Slot.expr?]
    have hname : Covers [] (HasSlots.slots c.column) := hcolumn (List.mem_singleton_self _)
    exact hname.append (covers_dataType c.type) |>.append (hwrapped c.defaultValue) |>.append
      (hwrapped c.comment)
  case extract field source => exact (hexpr source).enclosed
  case dataType t => exact covers_dataType t
  case unnest e => exact (hexpr e).enclosed
  all_goals exact hslots _

/-- The nodes of a subexpression are nodes of the whole. -/
theorem Expr.HasNode.below {n m : Node Expr} {s : Slot} {e : Expr} (hs : s ∈ n.slots)
    (he : s.expr? = some e) (h : e.HasNode m) : (Expr.mk n).HasNode m := by
  rcases h with rfl | ⟨t, e', ht, he', rfl⟩
  · exact .inr ⟨s, e, .here hs, he, rfl⟩
  · exact .inr ⟨t, e', .inside hs he ht, he', rfl⟩

/-- What holds of a node and of all nodes below it holds of every node. -/
theorem Expr.forall_hasNode {P : Node Expr → Prop} {n : Node Expr} :
    (∀ m, (Expr.mk n).HasNode m → P m) ↔
      P n ∧ Slot.All (fun e => ∀ m, e.HasNode m → P m) n.slots := by
  constructor
  · exact fun h => ⟨h n (.inl rfl), fun s hs e he m hm => h m (.below hs he hm)⟩
  · rintro ⟨hn, hslots⟩ m (rfl | ⟨s, e, hs, he, rfl⟩)
    · exact hn
    · rcases Expr.holds_mk.mp hs with hs | ⟨t, ht, e', he', hs⟩
      · exact hslots s hs e he _ (.inl rfl)
      · exact hslots t ht e' he' _ (.inr ⟨s, e, hs, he, rfl⟩)

/-- The tokens of a node at any depth stand among those of the expression. -/
theorem Shows.hasNode {d : Dialect} {e : Expr} {ks : List TokenKind} {n : Node Expr}
    (hcolumns : ∀ n, e.HasNode n → ∀ c ∈ n.columnRefs, ∀ e, c.column ≠ .computed e)
    (h : Shows d e ks) (hn : e.HasNode n) :
    ∃ before inner after, Around d (n.layout d) inner ∧ n.Named d inner ∧
      ks = before ++ n.wrap inner ++ after := by
  have hpart {m : Node Expr} {ks : List TokenKind} {s : Slot} {e' : Expr}
      (hm : ∀ c ∈ m.columnRefs, ∀ e, c.column ≠ .computed e) (h : Shows d (.mk m) ks)
      (hs : s ∈ m.slots) (he : s.expr? = some e') : ∃ before after inner, Shows d e' inner ∧
        ks = before ++ inner ++ after := by
    obtain ⟨inner, hinner, -, rfl⟩ := h
    obtain ⟨before, after, more, hmore, rfl⟩ := hinner.of_mem (m.layout_covers d hm s hs e' he)
    unfold Node.wrap
    split
    · exact ⟨.symbol .leftParen :: before, after ++ [.symbol .rightParen], more, hmore, by simp⟩
    · exact ⟨before, after, more, hmore, rfl⟩
  rcases hn with rfl | ⟨s, e', hs, he, rfl⟩
  · obtain ⟨inner, hinner, hnamed, rfl⟩ := h
    exact ⟨[], inner, [], hinner, hnamed, by simp⟩
  · induction hs generalizing ks with
    | @here m hs =>
      obtain ⟨before, after, more, ⟨inner, hinner, hnamed, rfl⟩, rfl⟩ :=
        hpart (hcolumns m (.inl rfl)) h hs he
      exact ⟨before, inner, after, hinner, hnamed, rfl⟩
    | @inside m t e'' ht ht' hinside ih =>
      obtain ⟨before, after, more, hmore, rfl⟩ := hpart (hcolumns m (.inl rfl)) h ht ht'
      obtain ⟨front, inner, back, hinner, hnamed, rfl⟩ :=
        ih (fun n hn => hcolumns n (.below ht ht' hn)) hmore
      exact ⟨before ++ front, inner, back ++ after, hinner, hnamed, by simp⟩

/-! ## Shapes of parts

A part that is read has nothing that its text would leave out, its words are tokens without
parentheses, and brackets stand in it only where they delimit no names. -/

section Shapes

variable (q : Quoting)

structure ColumnRef.Shaped (c : ColumnRef Expr) : Prop where
  name : ∀ e, c.column ≠ .computed e
  collate : c.collate = none

structure OrderItem.Shaped (i : OrderItem Expr) : Prop where
  direction : Token.Plain q (upper? i.direction)
  nulls : Token.Plain q (upper? i.nulls)

/-- A window has a name or a specification. -/
structure WindowSpec.Shaped (w : WindowSpec Expr) : Prop where
  named : w.name.isSome = true → w.partitionBy = none ∧ w.orderBy = none
  order : ∀ i ∈ w.orderBy.getD [], i.Shaped q

/-- A type has a length or arguments. -/
structure DataType.Shaped (t : DataType Expr) : Prop where
  length : t.length.isSome = true → t.args = []
  array : t.array = true → q.bracketNames = false
  suffix : ∀ word ∈ t.suffix, Token.Plain q (Text.upper word)

/-- A condition stands only behind a join. -/
structure Table.Shaped (t : Table Expr) : Prop where
  dual : t.isDual = true → t.expr = none
  join : Token.Plain q (upper? t.join)
  alone : t.join = none → t.condition = none ∧ t.usingColumns = none

structure Select.Shaped (s : Select Expr) : Prop where
  first : ∀ t ∈ (s.tables.getD []).head?, t.join = none
  tables : ∀ t ∈ s.tables.getD [], t.Shaped q
  windows : ∀ w ∈ s.windows.getD [], w.spec.Shaped q
  order : ∀ i ∈ s.orderBy.getD [], i.Shaped q
  limit : ∀ l ∈ s.limit, ∀ word ∈ l.fetchSuffix, Token.Plain q word
  operator : Token.Plain q (upper? s.setOperator)

/-- A chain is marked at its head only. -/
structure Query.Shaped (x : Query Expr) : Prop where
  selects : ∀ s ∈ x.head :: x.rest, s.Shaped q
  parens : ∀ s ∈ x.rest, s.parens = false

/-- A name that is read is no expression. -/
theorem ColumnName.ofText_ne_computed (text : String) (e : Expr) :
    (ofText text : ColumnName Expr) ≠ .computed e := by
  unfold ofText
  split <;> exact fun h => nomatch h

/-! ## Shapes of nodes -/

/-- What stands between the parentheses of a call. -/
def Expr.IsArguments (e : Expr) : Prop := ∃ items, e = .list items

/-- The operators in front of an operand, and EXISTS. -/
def frontOperators : List String := ["-", "+", "~", "!", "NOT", "EXISTS"]

def Node.Shaped : Node Expr → Prop
  | .column c => c.Shaped
  | .unary operator _ _ => operator ∈ frontOperators
  | .call _ args w suffix _ => (∀ e ∈ args, e.IsArguments) ∧ (∀ v ∈ w, v.Shaped q) ∧ suffix = none
  | .aggregate name _ _ order _ w _ =>
    Token.Plain q (Text.upper name) ∧ (∀ i ∈ order.getD [], i.Shaped q) ∧ ∀ v ∈ w, v.Shaped q
  | .cast keyword _ _ t _ => Token.Plain q (Text.upper keyword) ∧ t.Shaped q
  | .windowCall name args w =>
    Token.Plain q (Text.upper name) ∧ (∀ e ∈ args, e.IsArguments) ∧ w.Shaped q
  | .subscript .. => q.bracketNames = false
  | .list _ separator _ => separator = none
  | .query x => x.Shaped q
  | .variable v => Token.Plain q (Render.sessionVariable v)
  | .mapLiteral keyword _ => Token.Plain q (Text.upper keyword) ∧ q.bracketNames = false
  | .fullText matchWord columns againstWord _ _ =>
    Token.Plain q (Render.searchWords matchWord againstWord).1 ∧
      Token.Plain q (Render.searchWords matchWord againstWord).2 ∧
      ∀ c ∈ columns, c.Shaped
  | .columnDefinition c => ∃ name t, c = .ofName name t ∧ t.Shaped q
  | .collate _ _ symbol => symbol = none
  | .dataType t => t.Shaped q
  | .assign _ symbol _ => symbol = ":"
  | .array keyword brackets _ =>
    Token.Plain q (upper? keyword) ∧ brackets = true ∧ q.bracketNames = false
  | .struct keyword _ => keyword = none
  | .number n _ => Token.Plain q n.text
  | .text kind value _ => Token.Plain q (Render.textLiteral kind value)
  | .binary .. | .case .. | .interval .. | .extract .. | .unnest .. | .bool .. | .null => True
  | _ => False

/-! ## Shapes of expressions -/

/-- Every node of the expression has the shape of what is read. -/
def Expr.Shaped (e : Expr) : Prop := ∀ n, e.HasNode n → n.Shaped q

abbrev AllShaped {α : Type} [SizeOf α] [HasSlots α] (x : α) : Prop :=
  Slot.All (Expr.Shaped q) (HasSlots.slots x)

variable {q}

/-- Only a tree from elsewhere has a column with an expression for its name. -/
theorem Node.Shaped.named {n : Node Expr} (h : n.Shaped q) :
    ∀ c ∈ n.columnRefs, ∀ e, c.column ≠ .computed e := by
  cases n
  case column c => exact List.forall_mem_singleton.mpr h.name
  case fullText => exact fun c hc => (h.2.2 c hc).name
  case columnDefinition c =>
    obtain ⟨name, t, rfl, -⟩ := h
    exact List.forall_mem_singleton.mpr (ColumnName.ofText_ne_computed name)
  all_goals exact List.forall_mem_nil _

theorem Expr.shaped_mk {n : Node Expr} :
    (Expr.mk n).Shaped q ↔ n.Shaped q ∧ Slot.All (Expr.Shaped q) n.slots :=
  forall_hasNode

theorem allShaped_list {α : Type} [SizeOf α] [HasSlots α] {xs : List α} :
    AllShaped q xs ↔ ∀ x ∈ xs, AllShaped q x := by
  constructor
  · exact fun h x hx => h.of_mem hx
  · intro h s hs
    obtain ⟨x, hx, hs⟩ := List.mem_flatMap.mp hs
    exact h x hx s hs

theorem allShaped_expr {e : Expr} : AllShaped q e ↔ e.Shaped q :=
  ⟨fun h => h _ (List.mem_singleton_self _) e rfl, fun h => .of_expr h⟩

theorem allShaped_exprs {es : List Expr} : AllShaped q es ↔ ∀ e ∈ es, e.Shaped q :=
  allShaped_list.trans (forall₂_congr fun _ _ => allShaped_expr)

theorem allShaped_option {x : Option Expr} : AllShaped q x ↔ ∀ e ∈ x, e.Shaped q := by
  cases x with
  | none => exact ⟨fun _ _ he => (nomatch he), fun _ => Slot.all_nil⟩
  | some e =>
    have hsome : AllShaped q (some e) ↔ AllShaped q e := by rw [AllShaped, slots_some]
    exact (hsome.trans allShaped_expr).trans ⟨fun h _ he => Option.some.inj he ▸ h,
      fun h => h e rfl⟩

theorem Query.Shaped.parenthesized {x : Query Expr} (h : x.Shaped q) :
    x.parenthesized.Shaped q := by
  obtain ⟨hselects, hparens⟩ := h
  obtain ⟨hhead, hrest⟩ := List.forall_mem_cons.mp hselects
  refine ⟨List.forall_mem_cons.mpr ⟨?_, hrest⟩, hparens⟩
  exact ⟨hhead.first, hhead.tables, hhead.windows, hhead.order, hhead.limit, hhead.operator⟩

theorem Expr.Shaped.parenthesized {e : Expr} (h : e.Shaped q) : e.parenthesized.Shaped q := by
  have htuple : (Expr.tuple [e]).Shaped q :=
    shaped_mk.mpr ⟨rfl, allShaped_exprs.mpr (List.forall_mem_singleton.mpr h)⟩
  obtain ⟨n⟩ := e
  obtain ⟨hn, hslots⟩ := shaped_mk.mp h
  cases n
  case column c => exact shaped_mk.mpr ⟨⟨hn.name, hn.collate⟩, hslots⟩
  case query x => exact shaped_mk.mpr ⟨hn.parenthesized, hslots⟩
  all_goals first | exact htuple | exact shaped_mk.mpr ⟨hn, hslots⟩

end Shapes

end SqlWeave
