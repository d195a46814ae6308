import SqlWeave.Proofs.Wire.Depth
import SqlWeave.Render.Expr

/-! The older shapes of a limit. Four of them say the same about a count and an offset, and so does
the fifth, but for its comma; or none of the five can be read. -/

namespace SqlWeave

open Json (Fields)

/-- An object that says of what type it is, or a plain value other than null. -/
def Json.IsNode : Json → Prop
  | .object fields => ∃ kind, Fields.get? fields "type" = some (.string kind)
  | .bool _ | .number _ | .string _ => True
  | .null | .array _ => False

namespace LimitShape

/-- The shapes of a limit without a comma. -/
def older (count offset : Json) : List Json :=
  [.object [("separator", .string "offset"), ("value", .array [count, offset])],
    .array [offset, count],
    .array [.object [("value", offset)], .object [("value", count)]],
    .object [("fetch", .object [("value", count)]), ("offset", .object [("value", offset)])]]

/-- The shape of a limit with a comma. -/
def withComma (count offset : Json) : Json :=
  .object [("separator", .string ","), ("value", .array [offset, count])]

/-- What the limit that is read from a value is rendered as. -/
def rendered (r : Renderer) (v : Json) : Except ReadError (Render.Result String) := do
  let limit := (← ofJson v).bind normalize
  return r.limit (limit.map (·.map r.item))

variable {c o v : Json}

/-! ## Reading the parts -/

/-- A node has no wrapper that could be taken off. -/
theorem unwrapValue_node (h : c.IsNode) : Wire.Read.unwrapValue c = c := by
  cases c with
  | object fields =>
    obtain ⟨kind, htype⟩ := h
    have hhas : Fields.has fields "type" = true := by
      rw [Fields.has_eq_isSome, htype, Option.isSome_some]
    simp only [Wire.Read.unwrapValue, hhas, if_true]
  | _ => rfl

theorem mapM_pair {α ε : Type} (read : Json → Except ε α) (v w : Json) :
    [v, w].mapM read = do return [← read v, ← read w] := by
  rw [List.mapM_cons, List.mapM_cons, List.mapM_nil]
  cases read v with
  | error e => rfl
  | ok x => cases read w <;> rfl

/-! ## What a shape expresses -/

/-- From the value a limit of the count and the offset is read, or nothing if one of them cannot be
read. -/
structure Expresses (v c o : Json) (limit : Expr → Expr → Limit Expr) : Prop where
  accepts : ∀ count offset, Expr.ofJson c = .ok count → Expr.ofJson o = .ok offset →
    ∃ shape, ofJson v = .ok (some shape) ∧ shape.normalize = some (limit count offset)
  refuses : (∃ e, Expr.ofJson c = .error e) ∨ (∃ e, Expr.ofJson o = .error e) →
    ∃ e, ofJson v = .error e

variable {limit : Expr → Expr → Limit Expr} (shape : Expr → Expr → LimitShape Expr)

theorem expresses_countFirst
    (h : ofJson v = do return some (shape (← Expr.ofJson c) (← Expr.ofJson o)))
    (hnormal : ∀ count offset, (shape count offset).normalize = some (limit count offset)) :
    Expresses v c o limit where
  accepts count offset hcount hoffset := by
    rw [hcount, hoffset] at h
    exact ⟨shape count offset, h, hnormal count offset⟩
  refuses hfails := by
    rw [h]
    cases hcount : Expr.ofJson c with
    | error e => exact ⟨e, rfl⟩
    | ok count =>
      obtain ⟨e, he⟩ | ⟨e, he⟩ := hfails
      · rw [he] at hcount
        cases hcount
      · rw [he]
        exact ⟨e, rfl⟩

theorem expresses_offsetFirst (h : ofJson v = do
      let offset ← Expr.ofJson o
      return some (shape (← Expr.ofJson c) offset))
    (hnormal : ∀ count offset, (shape count offset).normalize = some (limit count offset)) :
    Expresses v c o limit where
  accepts count offset hcount hoffset := by
    rw [hcount, hoffset] at h
    exact ⟨shape count offset, h, hnormal count offset⟩
  refuses hfails := by
    rw [h]
    cases hoffset : Expr.ofJson o with
    | error e => exact ⟨e, rfl⟩
    | ok offset =>
      obtain ⟨e, he⟩ | ⟨e, he⟩ := hfails
      · rw [he]
        exact ⟨e, rfl⟩
      · rw [he] at hoffset
        cases hoffset

/-! ## Each shape -/

/-- A list of values with a separator, read in the order in which they stand. -/
theorem ofJson_separated (separator : String) (first second : Json) :
    ofJson (.object [("separator", .string separator), ("value", .array [first, second])]) = do
      return some (.separated separator [← Expr.ofJson first, ← Expr.ofJson second]) := by
  set v : Json :=
    .object [("separator", .string separator), ("value", .array [first, second])] with hv
  have hdepth : v.depth = max first.depth (max second.depth 0) + 1 + 1 := by
    simp [hv, Json.depth, Json.depthFields, Json.depthItems]
  have hfirst : (Wire.readersFor v).expr first = Expr.ofJson first := Expr.ofJson_nested (by omega)
  have hsecond : (Wire.readersFor v).expr second = Expr.ofJson second :=
    Expr.ofJson_nested (by omega)
  have hitems := mapM_pair (Wire.readersFor v).expr first second
  rw [hfirst, hsecond] at hitems
  have hshape : ofJson v = do
      return some (.separated separator (← [first, second].mapM (Wire.readersFor v).expr)) := rfl
  rw [hshape, hitems]
  cases Expr.ofJson first with
  | error e => rfl
  | ok x => cases Expr.ofJson second <;> rfl

/-- A list of values alone, with or without wrappers. -/
theorem ofJson_pair (first second : Json) :
    ofJson (.array [first, second]) = do
      let x ← Expr.ofJson (Wire.Read.unwrapValue first)
      return some (.list [x, ← Expr.ofJson (Wire.Read.unwrapValue second)]) := by
  set v : Json := .array [first, second] with hv
  have hitem {w : Json} (hw : w ∈ [first, second]) :
      (Wire.readersFor v).expr (Wire.Read.unwrapValue w) =
        Expr.ofJson (Wire.Read.unwrapValue w) := by
    have hdepth : w.depth ≤ Json.depthItems [first, second] := Json.depth_le_items hw
    refine Expr.ofJson_nested (Wire.Alike.unwrapValue ?_)
    rw [hv, Json.depth]
    omega
  have hitems := mapM_pair (fun w => (Wire.readersFor v).expr (Wire.Read.unwrapValue w))
    first second
  rw [hitem List.mem_cons_self, hitem (List.mem_cons_of_mem _ List.mem_cons_self)] at hitems
  have hshape : ofJson v = do
      return some (.list (← [first, second].mapM fun w =>
        (Wire.readersFor v).expr (Wire.Read.unwrapValue w))) := rfl
  rw [hshape, hitems]
  cases Expr.ofJson (Wire.Read.unwrapValue first) with
  | error e => rfl
  | ok x => cases Expr.ofJson (Wire.Read.unwrapValue second) <;> rfl

/-- The two parts of a FETCH clause. -/
theorem ofJson_parts (count offset : Json) :
    ofJson (.object [("fetch", .object [("value", count)]),
      ("offset", .object [("value", offset)])]) = do
      return some (.fetchOffset (some (← Expr.ofJson count)) [] (some (← Expr.ofJson offset))) := by
  set v : Json :=
    .object [("fetch", .object [("value", count)]), ("offset", .object [("value", offset)])] with hv
  have hdepth : v.depth = max (max count.depth 0 + 1) (max (max offset.depth 0 + 1) 0) + 1 := by
    simp [hv, Json.depth, Json.depthFields]
  have hcount : (Wire.readersFor v).expr count = Expr.ofJson count := Expr.ofJson_nested (by omega)
  have hoffset : (Wire.readersFor v).expr offset = Expr.ofJson offset :=
    Expr.ofJson_nested (by omega)
  have hshape : ofJson v = do
      let count ← some <$> (Wire.readersFor v).expr count
      let offset ← some <$> (Wire.readersFor v).expr offset
      return some (.fetchOffset count [] offset) := rfl
  rw [hshape, hcount, hoffset]
  cases Expr.ofJson count with
  | error e => rfl
  | ok x => cases Expr.ofJson offset <;> rfl

/-- The limit that the older shapes are read as. -/
def ofParts (count offset : Expr) : Limit Expr := { count := some count, offset := some offset }

theorem older_express (hc : c.IsNode) (ho : o.IsNode) :
    ∀ v ∈ older c o, Expresses v c o ofParts := by
  have hlist (v w : Json) (hv : Wire.Read.unwrapValue v = o) (hw : Wire.Read.unwrapValue w = c) :
      Expresses (.array [v, w]) c o ofParts := by
    have hread := ofJson_pair v w
    rw [hv, hw] at hread
    exact expresses_offsetFirst (fun count offset => .list [offset, count]) hread fun _ _ => rfl
  unfold older
  refine List.forall_mem_cons.mpr
    ⟨?_, List.forall_mem_cons.mpr ⟨?_, List.forall_mem_cons.mpr ⟨?_, ?_⟩⟩⟩
  · exact expresses_countFirst (fun count offset => .separated "offset" [count, offset])
      (ofJson_separated "offset" c o) fun _ _ => rfl
  · exact hlist o c (unwrapValue_node ho) (unwrapValue_node hc)
  · exact hlist _ _ rfl rfl
  · exact List.forall_mem_singleton.mpr (expresses_countFirst
      (fun count offset => .fetchOffset (some count) [] (some offset)) (ofJson_parts c o) fun _ _ =>
        rfl)

theorem withComma_expresses (c o : Json) :
    Expresses (withComma c o) c o fun count offset => (ofParts count offset).withComma :=
  expresses_offsetFirst (fun count offset => .separated "," [offset, count])
    (ofJson_separated "," o c) fun _ _ => rfl

/-! ## Agreement -/

/-- The older shapes of one count and one offset are all read as the same limit and rendered alike,
the shape with a comma is read as the same limit with a comma, and if the count or the offset cannot
be read then none of them can. -/
theorem older_agree (hc : c.IsNode) (ho : o.IsNode) :
    (((∃ e, Expr.ofJson c = .error e) ∨ ∃ e, Expr.ofJson o = .error e) ∧
        ∀ v ∈ withComma c o :: older c o, ∃ e, ofJson v = .error e) ∨
      ∃ count offset, (Expr.ofJson c = .ok count ∧ Expr.ofJson o = .ok offset) ∧
        (∀ v ∈ older c o, ∃ shape, ofJson v = .ok (some shape) ∧
          shape.normalize = some (ofParts count offset)) ∧
        (∃ shape, ofJson (withComma c o) = .ok (some shape) ∧
          shape.normalize = some (ofParts count offset).withComma) ∧
        ∀ (r : Renderer), ∀ v ∈ older c o, rendered r v =
          .ok (r.limit (some ((ofParts count offset).map r.item))) := by
  have hexpressed := older_express hc ho
  have hcomma := withComma_expresses c o
  have hrefused (hfails : (∃ e, Expr.ofJson c = .error e) ∨ ∃ e, Expr.ofJson o = .error e) :
      ∀ v ∈ withComma c o :: older c o, ∃ e, ofJson v = .error e :=
    List.forall_mem_cons.mpr ⟨hcomma.refuses hfails, fun v hv => (hexpressed v hv).refuses hfails⟩
  cases hcount : Expr.ofJson c with
  | error e => exact .inl ⟨.inl ⟨e, rfl⟩, hrefused (.inl ⟨e, hcount⟩)⟩
  | ok count =>
    cases hoffset : Expr.ofJson o with
    | error e => exact .inl ⟨.inr ⟨e, rfl⟩, hrefused (.inr ⟨e, hoffset⟩)⟩
    | ok offset =>
      have hread (v : Json) (hv : v ∈ older c o) :=
        (hexpressed v hv).accepts count offset hcount hoffset
      refine .inr ⟨count, offset, ⟨rfl, rfl⟩, hread, hcomma.accepts count offset hcount hoffset,
        fun r v hv => ?_⟩
      obtain ⟨shape, hshape, hnormal⟩ := hread v hv
      rw [rendered, hshape]
      show Except.ok (r.limit (shape.normalize.map _)) = _
      rw [hnormal]
      rfl

/-- Three rows, from a parameter on. -/
def countForm : Json := .object [("type", .string "number"), ("value", .number (.int 3))]

def offsetForm : Json := .object [("type", .string "param"), ("value", .string "n")]

theorem older_agree_parameter : countForm.IsNode ∧ offsetForm.IsNode ∧
    ∀ v ∈ older countForm offsetForm,
      rendered { config := { dialect := .transactSql } } v =
        .ok (.ok "OFFSET :n ROWS FETCH NEXT 3 ROWS ONLY") := by
  have hcount : countForm.IsNode := ⟨_, rfl⟩
  have hoffset : offsetForm.IsNode := ⟨_, rfl⟩
  refine ⟨hcount, hoffset, ?_⟩
  obtain ⟨⟨e, he⟩ | ⟨e, he⟩, -⟩ | ⟨count, offset, ⟨hc, ho⟩, -, -, hrendered⟩ :=
    older_agree hcount hoffset
  · cases he
  · cases he
  · cases hc
    cases ho
    intro v hv
    rw [hrendered _ v hv]
    rfl

end LimitShape

end SqlWeave
