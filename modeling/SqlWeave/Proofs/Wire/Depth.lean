import SqlWeave.Proofs.Wire.Ordered

/-! How deep a value nests is how deep it is read. Readers for more nesting than a value has read it
alike, so it does not matter for how much more they were made. -/

namespace SqlWeave

open Json (Fields)

/-! ## Nesting -/

namespace Json

theorem depth_le_items {vs : List Json} {v : Json} (h : v ∈ vs) : v.depth ≤ depthItems vs := by
  induction vs with
  | nil => cases h
  | cons w vs ih =>
    rw [depthItems]
    cases List.mem_cons.mp h with
    | inl heq =>
      subst heq
      exact Nat.le_max_left _ _
    | inr hmem => exact Nat.le_trans (ih hmem) (Nat.le_max_right _ _)

theorem depth_le_fields {fs : Fields} {f : String × Json} (h : f ∈ fs) :
    f.2.depth ≤ depthFields fs := by
  induction fs with
  | nil => cases h
  | cons g fs ih =>
    obtain ⟨key, v⟩ := g
    rw [depthFields]
    cases List.mem_cons.mp h with
    | inl heq =>
      subst heq
      exact Nat.le_max_left _ _
    | inr hmem => exact Nat.le_trans (ih hmem) (Nat.le_max_right _ _)

/-- The fields of nested `ast` objects nest less deep than the object that they move up to. -/
theorem depth_hoistedFields (v : Json) : ∀ f ∈ v.hoistedFields, f.2.depth < v.depth := by
  induction hdepth : v.depth using Nat.strongRecOn generalizing v with
  | ind n ih =>
    intro f hf
    cases v with
    | object fs =>
      rw [hoistedFields_object] at hf
      rw [depth] at hdepth
      cases Fields.mem_extend hf with
      | inl hmem =>
        have hle : f.2.depth ≤ depthFields fs := depth_le_fields (List.mem_of_mem_filter hmem)
        omega
      | inr hmem =>
        cases hast : Fields.get? fs "ast" with
        | none =>
          rw [hast] at hmem
          cases hmem
        | some w =>
          rw [hast] at hmem
          have hw : w.depth ≤ depthFields fs := Fields.depth_of_get? hast
          have hlt := ih w.depth (by omega) w rfl f hmem
          omega
    | _ => cases hf

end Json

namespace Wire

variable {α β : Type} {depth : Nat}

/-! ## Readers and records -/

/-- The readers return the same for what nests less deep. -/
def Alike (depth : Nat) (read other : Reader α) : Prop := ∀ v, v.depth < depth → read v = other v

def RecordSource.Within (depth : Nat) : RecordSource → Prop
  | .keyed fields => ∀ f ∈ fields, f.2.depth < depth
  | .listed items => ∀ v ∈ items, v.depth < depth

/-- The records return the same for fields that nest less deep. -/
structure Record.Alike (depth : Nat) (r s : Record α) : Prop where
  width : r.width = s.width
  read : ∀ source position, source.Within depth → r.read source position = s.read source position

namespace Record.Alike

variable {r s : Record α} {read other : Reader α}

theorem refl : Record.Alike depth r r := ⟨rfl, fun _ _ _ => rfl⟩

theorem seq {f g : Record (α → β)} (hf : Record.Alike depth f g) (h : Record.Alike depth r s) :
    Record.Alike depth (f <*> r) (g <*> s) where
  width := by
    show f.width + r.width = g.width + s.width
    rw [hf.width, h.width]
  read source position hsource := by
    show both (f.read source position) (r.read source (position + f.width)) =
      both (g.read source position) (s.read source (position + g.width))
    rw [hf.read source position hsource, hf.width, h.read source _ hsource]

theorem map {f : α → β} (h : Record.Alike depth r s) : Record.Alike depth (f <$> r) (f <$> s) :=
  seq (f := pure f) refl h

theorem field {key : String} {absent : Option α} (h : Wire.Alike depth read other) :
    Record.Alike depth (Record.field key read absent) (Record.field key other absent) where
  width := rfl
  read source position hsource := by
    cases source with
    | keyed fields =>
      simp only [Record.field]
      cases hget : fields.get? key with
      | none => cases absent <;> rfl
      | some v =>
        have hv : read v = other v := h v (hsource _ (Fields.mem_of_get? hget))
        simp only [hv]
    | listed items =>
      simp only [Record.field]
      cases hget : items[position]? with
      | none => cases absent <;> rfl
      | some v =>
        have hv : read v = other v := h v (hsource _ (List.mem_of_getElem? hget))
        simp only [hv]

theorem required {key : String} (h : Wire.Alike depth read other) :
    Record.Alike depth (Record.required key read) (Record.required key other) := field h

theorem defaulted {key : String} {absent : α} (h : Wire.Alike depth read other) :
    Record.Alike depth (Record.defaulted key read absent) (Record.defaulted key other absent) :=
  field h

theorem ofFields (h : Record.Alike depth r s) {fs : Fields} (hfs : ∀ f ∈ fs, f.2.depth < depth) :
    r.ofFields fs = s.ofFields fs := by
  rw [Record.ofFields, Record.ofFields, h.read (.keyed fs) 0 hfs]

theorem ofItems (h : Record.Alike depth r s) {vs : List Json} (hvs : ∀ v ∈ vs, v.depth < depth) :
    r.ofItems vs = s.ofItems vs := by
  rw [Record.ofItems, Record.ofItems, h.read (.listed vs) 0 hvs, h.width]

/-- A record is read from fields, which nest less deep than the value that has them. -/
theorem ofJson (h : Record.Alike depth r s) : Wire.Alike (depth + 1) r.ofJson s.ofJson := by
  intro v hv
  cases v with
  | object fs =>
    rw [Json.depth] at hv
    refine h.ofFields fun f hf => ?_
    have hle : f.2.depth ≤ Json.depthFields fs := Json.depth_le_fields hf
    omega
  | array vs =>
    rw [Json.depth] at hv
    refine h.ofItems fun w hw => ?_
    have hle : w.depth ≤ Json.depthItems vs := Json.depth_le_items hw
    omega
  | _ => rfl

end Record.Alike

namespace Alike

variable {read other : Reader α} {r s : Record α}

theorem mono {less : Nat} (h : Alike depth read other) (hle : less ≤ depth) :
    Alike less read other :=
  fun v hv => h v (Nat.lt_of_lt_of_le hv hle)

theorem ofJson (h : r.Alike depth s) : Alike depth r.ofJson s.ofJson :=
  h.ofJson.mono (Nat.le_succ depth)

theorem mapM (h : Alike depth read other) {vs : List Json} (hvs : ∀ v ∈ vs, v.depth < depth) :
    vs.mapM read = vs.mapM other := by
  induction vs with
  | nil => rfl
  | cons v vs ih =>
    have hrest : vs.mapM read = vs.mapM other := ih fun w hw => hvs w (List.mem_cons_of_mem _ hw)
    rw [List.mapM_cons, List.mapM_cons, h v (hvs v List.mem_cons_self), hrest]

theorem items {vs : List Json} (hvs : (Json.array vs).depth < depth) :
    ∀ v ∈ vs, v.depth < depth := by
  intro v hv
  rw [Json.depth] at hvs
  have hle : v.depth ≤ Json.depthItems vs := Json.depth_le_items hv
  omega

theorem list (h : Alike depth read other) : Alike depth (Read.list read) (Read.list other) := by
  intro v hv
  cases v with
  | array vs => exact h.mapM (items hv)
  | _ => rfl

theorem oneOrMany (h : Alike depth read other) :
    Alike depth (Read.oneOrMany read) (Read.oneOrMany other) := by
  intro v hv
  cases v with
  | null => rfl
  | array vs => exact h.mapM (items hv)
  | _ => simp only [Read.oneOrMany, h _ hv]

theorem get? {v w : Json} {key : String} (hv : v.depth < depth) (h : v.get? key = some w) :
    w.depth < depth := by
  cases v with
  | object fs =>
    rw [Json.depth] at hv
    have hle : w.depth ≤ Json.depthFields fs := Fields.depth_of_get? h
    omega
  | _ => cases h

theorem getD {v : Json} {key : String} (hv : v.depth < depth) :
    ((v.get? key).getD v).depth < depth := by
  cases hget : v.get? key with
  | none => exact hv
  | some w => exact get? hv hget

theorem list? (h : Alike depth read other) : Alike depth (Read.list? read) (Read.list? other) := by
  intro v hv
  have hinner : ((v.get? "columns").getD v).depth < depth := getD hv
  unfold Read.list?
  generalize (v.get? "columns").getD v = w at hinner
  cases w with
  | null => rfl
  | array vs => exact congrArg (some <$> ·) (h.mapM (items hinner))
  | _ => simp only [h _ hinner]

theorem optional (h : Alike depth read other) :
    Alike depth (Read.optional read) (Read.optional other) := by
  intro v hv
  cases v with
  | null => rfl
  | _ => exact congrArg (some <$> ·) (h _ hv)

theorem firstOf (h : Alike depth read other) :
    Alike depth (Read.firstOf read) (Read.firstOf other) := by
  intro v hv
  cases v with
  | array vs =>
    cases vs with
    | nil => rfl
    | cons w vs => exact h w (items hv w List.mem_cons_self)
  | _ => exact h _ hv

theorem tagged {tag : Reader String} {record other : String → Except ReadError (Record α)}
    (h : ∀ kind, (∃ e, record kind = .error e ∧ other kind = .error e) ∨
      ∃ r s, record kind = .ok r ∧ other kind = .ok s ∧ r.Alike depth s) :
    Alike depth (Read.tagged tag record) (Read.tagged tag other) := by
  intro v hv
  have hread {w : Json} {f : Record α → Except ReadError α}
      (hf : ∀ r s, r.Alike depth s → f r = f s) :
      (do f (← record (← tag w))) = (do f (← other (← tag w))) := by
    cases htag : tag w with
    | error e => rfl
    | ok kind =>
      show record kind >>= f = other kind >>= f
      cases h kind with
      | inl hfails =>
        obtain ⟨e, hr, hs⟩ := hfails
        rw [hr, hs]
      | inr hfound =>
        obtain ⟨r, s, hr, hs, halike⟩ := hfound
        rw [hr, hs]
        exact hf r s halike
  cases v with
  | object fs =>
    simp only [Read.tagged]
    cases hget : Fields.get? fs "type" with
    | none => rfl
    | some w =>
      refine hread fun r s halike => halike.ofFields fun f hf => ?_
      rw [Json.depth] at hv
      have hle : f.2.depth ≤ Json.depthFields fs := Json.depth_le_fields (List.mem_of_mem_filter hf)
      omega
  | array vs =>
    cases vs with
    | nil => rfl
    | cons w vs =>
      exact hread fun r s halike => halike.ofItems fun u hu =>
        items hv u (List.mem_cons_of_mem _ hu)
  | _ => rfl

end Alike

namespace Record.Alike

variable {read other : Reader α}

theorem optional {key : String} (h : Wire.Alike depth read other) :
    Record.Alike depth (Record.optional key read) (Record.optional key other) :=
  defaulted h.optional

theorem list? {key : String} (h : Wire.Alike depth read other) :
    Record.Alike depth (Record.list? key read) (Record.list? key other) := defaulted h.list?

theorem many {key : String} (h : Wire.Alike depth read other) :
    Record.Alike depth (Record.many key read) (Record.many key other) := defaulted h.oneOrMany

end Record.Alike

/-! ## Limits -/

section Limits

variable {E : Type} {expr other : Reader E}

namespace Alike

theorem unwrapValue {v : Json} (hv : v.depth < depth) : (Read.unwrapValue v).depth < depth := by
  cases v with
  | object fs =>
    show (if Fields.has fs "type" then Json.object fs
        else (Fields.get? fs "value").getD (.object fs)).depth < depth
    split
    · exact hv
    · have hvalue : (((Json.object fs).get? "value").getD (.object fs)).depth < depth := getD hv
      exact hvalue
  | _ => exact hv

theorem limitPart (h : Alike depth expr other) {fs : Fields} (hfs : (Json.object fs).depth < depth)
    (key : String) :
    Read.limitPart expr (Read.present fs key) = Read.limitPart other (Read.present fs key) := by
  cases hpart : Read.present fs key with
  | none => rfl
  | some v =>
    have hget : Fields.get? fs key = some v := (Option.filter_eq_some_iff.mp hpart).1
    exact congrArg (some <$> ·) (h _ (unwrapValue (get? (v := .object fs) hfs hget)))

theorem limitShape (h : Alike depth expr other) :
    Alike depth (Read.limitShape expr) (Read.limitShape other) := by
  intro v hv
  cases v with
  | null => rfl
  | object fs =>
    have hvalue {w : Json} (hw : Fields.get? fs "value" = some w) : w.depth < depth :=
      get? (v := .object fs) hv hw
    simp only [Read.limitShape, Read.limitFields, h.limitPart hv]
    split
    · rfl
    · split
      · rename_i hget
        rw [h.mapM (items (hvalue hget))]
      · split
        · rw [h _ hv]
        · split
          · rfl
          · rfl
          · rename_i hget
            rw [h _ (hvalue hget)]
  | array vs =>
    have hunwrapping :
        Alike depth (fun v => expr (Read.unwrapValue v)) fun v => other (Read.unwrapValue v) :=
      fun w hw => h _ (unwrapValue hw)
    simp only [Read.limitShape, hunwrapping.mapM (items hv)]
  | _ => simp only [Read.limitShape, h _ hv]

theorem limit (h : Alike depth expr other) : Alike depth (Read.limit expr) (Read.limit other) := by
  intro v hv
  rw [Read.limit, Read.limit, h.limitShape v hv]

end Alike

end Limits

/-! ## Trees -/

/-- The readers of what nests return the same for what nests less deep. -/
structure Nested.Alike (depth : Nat) (inner other : Nested) : Prop where
  expr : Wire.Alike depth inner.expr other.expr
  query : Wire.Alike depth inner.query other.query

namespace Nested.Alike

variable {inner other : Nested} (h : inner.Alike depth other)
include h

theorem wrappedExpr : Wire.Alike depth inner.wrappedExpr other.wrappedExpr := by
  intro v hv
  cases v with
  | null => rfl
  | object fs =>
    simp only [Nested.wrappedExpr]
    split
    · rename_i hget
      rw [h.expr _ (Alike.get? hv hget)]
    · rw [h.expr _ hv]
  | _ => exact congrArg (some <$> ·) (h.expr _ hv)

theorem columnName : Wire.Alike depth inner.columnName other.columnName := by
  intro v hv
  cases v with
  | object fs =>
    exact congrArg (ColumnName.computed <$> ·) (h.expr _ (Alike.getD (v := .object fs) hv))
  | _ => rfl

theorem columnRef : inner.columnRef.Alike depth other.columnRef :=
  .seq (.seq (.seq .refl (.required h.columnName)) .refl) .refl

theorem orderItem : inner.orderItem.Alike depth other.orderItem :=
  .seq (.seq (.map (.required h.expr)) .refl) .refl

theorem orderItems? (key : String) : (inner.orderItems? key).Alike depth (other.orderItems? key) :=
  .list? (.ofJson h.orderItem)

theorem windowSpec : inner.windowSpec.Alike depth other.windowSpec :=
  .seq (.seq (.seq .refl (h.orderItems? _)) (h.orderItems? _)) .refl

theorem over? : inner.over?.Alike depth other.over? := .optional (.ofJson h.windowSpec)

theorem namedSpec : Wire.Alike depth inner.namedSpec other.namedSpec := by
  intro v hv
  have hinner : ((v.get? "window_specification").getD v).depth < depth := Alike.getD hv
  unfold Nested.namedSpec
  generalize (v.get? "window_specification").getD v = w at hinner
  cases w with
  | string s => rfl
  | _ => exact Alike.ofJson h.windowSpec _ hinner

theorem namedWindow : inner.namedWindow.Alike depth other.namedWindow :=
  .seq .refl (.required h.namedSpec)

theorem namedWindows : inner.namedWindows.Alike depth other.namedWindows :=
  .many (.ofJson h.namedWindow)

theorem dataType : inner.dataType.Alike depth other.dataType :=
  .seq (.seq (.seq .refl (.many h.expr)) .refl) .refl

theorem columnDefinition : inner.columnDefinition.Alike depth other.columnDefinition :=
  .seq (.seq (.seq (.seq (.seq (.seq (.seq (.seq (.map (.required (.ofJson h.columnRef)))
    (.required (.ofJson h.dataType))) .refl) (.defaulted h.wrappedExpr)) .refl) .refl) .refl)
    (.defaulted h.wrappedExpr)) .refl

theorem caseArm : Wire.Alike depth inner.caseArm other.caseArm := by
  refine .tagged fun kind => ?_
  split
  · exact .inr ⟨_, _, rfl, rfl, .seq (.map (.required h.expr)) (.required h.expr)⟩
  · exact .inr ⟨_, _, rfl, rfl, .map (.required h.expr)⟩
  · exact .inl ⟨_, rfl, rfl⟩

theorem optional (key : String) :
    (Record.optional key inner.expr).Alike depth (Record.optional key other.expr) :=
  .optional h.expr

theorem table : inner.table.Alike depth other.table :=
  .seq (.seq (.seq (.seq (.seq (.seq (.seq .refl (h.optional _)) .refl) .refl) (h.optional _))
    .refl) .refl) .refl

theorem tables? (key : String) : (inner.tables? key).Alike depth (other.tables? key) :=
  .list? (.ofJson h.table)

theorem tables (key : String) : (inner.tables key).Alike depth (other.tables key) :=
  .required (.oneOrMany (.ofJson h.table))

theorem column : inner.column.Alike depth other.column := .seq (.map (.required h.expr)) .refl

theorem columns : Wire.Alike depth inner.columns other.columns := by
  intro v hv
  cases v with
  | array vs => exact congrArg (Columns.list <$> ·) (Alike.mapM (.ofJson h.column) (Alike.items hv))
  | object fs =>
    have hread : inner.column.ofFields fs = other.column.ofFields fs :=
      Alike.ofJson h.column (.object fs) hv
    simp only [Nested.columns, hread]
  | _ => rfl

theorem returning? : inner.returning?.Alike depth other.returning? :=
  .optional (.ofJson (.defaulted h.columns))

theorem cte : inner.cte.Alike depth other.cte := .seq (.seq .refl (.required h.expr)) .refl

theorem withs? : inner.withs?.Alike depth other.withs? := .list? (.ofJson h.cte)

theorem limit? : inner.limit?.Alike depth other.limit? := .defaulted h.expr.limit

theorem select : inner.select.Alike depth other.select :=
  .seq (.seq (.seq (.seq (.seq (.seq (.seq (.seq (.seq (.seq (.seq (.seq (.map h.withs?) .refl)
    (.defaulted h.columns)) (h.tables? _)) (h.optional _)) (.list? h.expr)) (h.optional _))
    (.optional (.ofJson h.namedWindows))) (h.orderItems? _)) h.limit?) .refl) (.optional h.query))
      .refl

theorem assignment : inner.assignment.Alike depth other.assignment :=
  .seq (.seq .refl (.required h.expr)) .refl

theorem assignments : inner.assignments.Alike depth other.assignments :=
  .required (.oneOrMany (.ofJson h.assignment))

theorem insertSource : Wire.Alike depth inner.insertSource other.insertSource := by
  intro v hv
  cases v with
  | array vs => exact congrArg (InsertSource.rows <$> ·) (h.expr.mapM (Alike.items hv))
  | _ =>
    simp only [Nested.insertSource, h.expr _ hv]
    split
    · split
      · rename_i hget
        rw [h.expr.mapM (Alike.items (Alike.get? hv hget))]
      · rfl
    · rfl

theorem insert : inner.insert.Alike depth other.insert :=
  .seq (.seq (.seq (.seq (.seq (.map (h.tables _)) .refl) (.optional h.insertSource)) .refl)
    (.optional (.ofJson h.assignments))) h.returning?

theorem aggregate : inner.aggregate.Alike depth other.aggregate := by
  have hargs : inner.aggregateArgs.Alike depth other.aggregateArgs :=
    .seq (.seq (.seq (.map (.required h.expr)) .refl) (h.orderItems? _)) (h.optional _)
  exact .seq (.seq (.seq .refl (.required (.ofJson hargs))) h.over?) .refl

theorem mapEntry : inner.mapEntry.Alike depth other.mapEntry :=
  .seq (.map (.required h.expr)) (.required h.expr)

theorem nodeRecord (kind : String) :
    Option.Rel (Record.Alike depth) (inner.nodeRecord? kind) (other.nodeRecord? kind) := by
  have hexpr {key : String} :
      (Record.required key inner.expr).Alike depth (Record.required key other.expr) :=
    .required h.expr
  have hmany {key : String} : (Record.many key inner.expr).Alike depth
      (Record.many key other.expr) := .many h.expr
  unfold nodeRecord?
  -- One case for each name of a kind, in the order of the kinds.
  split
  · exact .some (.map h.columnRef)
  · exact .some (.seq (.seq (.seq .refl hexpr) hexpr) .refl)
  · exact .some (.seq (.seq .refl hexpr) .refl)
  · exact .some (.seq (.seq (.seq (.seq .refl (h.optional _)) h.over?) .refl) .refl)
  · exact .some h.aggregate
  · exact .some (.seq (.seq (.seq (.seq .refl hexpr) .refl)
      (.required (.firstOf (.ofJson h.dataType)))) .refl)
  · exact .some (.seq (.seq (.map (h.optional _)) (.required (.list h.caseArm))) .refl)
  · exact .some (.seq (.seq .refl (h.optional _)) (.required (.ofJson h.windowSpec)))
  · exact .some (.seq (.map hexpr) (.required (.oneOrMany h.expr)))
  · exact .some (.seq (.seq (.map hmany) .refl) .refl)
  · exact .some (.map h.select)
  · exact .some .refl
  · exact .some (.seq .refl (.many (.ofJson h.mapEntry)))
  · exact .some (.seq (.seq (.seq (.seq .refl (.many (.ofJson h.columnRef))) .refl) hexpr) .refl)
  · exact .some (.map h.columnDefinition)
  · exact .some (.seq (.map hexpr) .refl)
  · exact .some (.required (.ofJson (.seq .refl hexpr)))
  · exact .some (.seq (.seq (.map (h.optional _)) .refl) .refl)
  · exact .some (.map h.dataType)
  · exact .some (.seq (.seq (.map hexpr) .refl) hexpr)
  · exact .some (.seq .refl hmany)
  · exact .some (.seq .refl hmany)
  · exact .some (.seq .refl hexpr)
  · exact .some (.map hexpr)
  · exact .some (.seq .refl hmany)
  · exact .some (.seq .refl hexpr)
  · exact .some (.required (.ofJson (.seq (.seq (.map hexpr) hexpr) (h.optional _))))
  · exact .some (.seq (.map (.required (.ofJson hexpr))) h.over?)
  · exact .some (.seq (.seq (.seq (.seq (.map (h.optional _)) (h.optional _)) (h.optional _))
      (h.optional _))
      (h.optional _))
  · exact .some (.seq (.seq .refl hexpr) (h.optional _))
  · exact .some (.required (.ofJson (.seq (.seq .refl .refl) hexpr)))
  · exact .some (.map h.namedWindows)
  · exact .some .refl
  · exact .some (.map h.insert)
  · exact .some (.map (.many (.ofJson h.table)))
  · exact .some (.map hexpr)
  all_goals first | exact .some .refl | exact .none

theorem readExpr : Wire.Alike (depth + 1) inner.readExpr other.readExpr := by
  intro v hv
  have hsource (r s : Record (Node Expr)) (hrs : r.Alike depth s) :
      r.ofJson v.hoist = s.ofJson v.hoist := by
    cases v with
    | object fs =>
      refine hrs.ofFields fun f hf => ?_
      have hlt := Json.depth_hoistedFields (.object fs) f hf
      omega
    | _ => exact hrs.ofJson _ hv
  have hbind : Option.Rel (Record.Alike depth) (v.hoist.tag?.bind inner.nodeRecord?)
      (v.hoist.tag?.bind other.nodeRecord?) := by
    cases v.hoist.tag? with
    | none => exact .none
    | some kind => exact h.nodeRecord kind
  simp only [Nested.readExpr]
  generalize v.hoist.tag?.bind inner.nodeRecord? = r? at hbind
  generalize v.hoist.tag?.bind other.nodeRecord? = s? at hbind
  cases hbind with
  | none => rfl
  | some hrecord => exact congrArg (Expr.mk <$> ·) (hsource _ _ hrecord)

theorem readQuery : Wire.Alike (depth + 1) inner.readQuery other.readQuery := h.select.ofJson

end Nested.Alike

/-- Readers for more nesting than a value has read it alike. -/
theorem nested_alike {depth m n : Nat} (hm : depth ≤ m) (hn : depth ≤ n) :
    (nested m).Alike depth (nested n) := by
  induction depth generalizing m n with
  | zero =>
    exact ⟨fun v hv => absurd hv (Nat.not_lt_zero _), fun v hv => absurd hv (Nat.not_lt_zero _)⟩
  | succ depth ih =>
    obtain ⟨m, rfl⟩ : ∃ k, m = k + 1 := ⟨m - 1, by omega⟩
    obtain ⟨n, rfl⟩ : ∃ k, n = k + 1 := ⟨n - 1, by omega⟩
    have hinner := ih (Nat.le_of_succ_le_succ hm) (Nat.le_of_succ_le_succ hn)
    exact ⟨hinner.readExpr, hinner.readQuery⟩

end Wire

theorem Expr.ofJson_nested {v : Json} {n : Nat} (h : v.depth < n) :
    (Wire.nested n).expr v = Expr.ofJson v := by
  have halike : (Wire.nested n).Alike (v.depth + 1) (Wire.nested (v.depth + 2)) :=
    Wire.nested_alike h (by omega)
  exact halike.expr v (Nat.lt_succ_self _)

end SqlWeave
