import SqlWeave.Proofs.Tree.Slot

/-! Maps over the subexpressions of a node. Mapping twice is mapping once, and a map is known by
what it does to the subexpressions that stand in the slots. -/

namespace SqlWeave

/-! ## Mapping twice -/

section Twice

variable {E F G : Type} (f : E → F) (g : F → G)

@[simp] theorem ColumnName.map_map (x : ColumnName E) :
    (x.map f).map g = x.map (g ∘ f) := by cases x <;> rfl
@[simp] theorem CaseArm.map_map (x : CaseArm E) :
    (x.map f).map g = x.map (g ∘ f) := by cases x <;> rfl

@[simp] theorem ColumnRef.map_map (x : ColumnRef E) :
    (x.map f).map g = x.map (g ∘ f) := by simp [ColumnRef.map]

@[simp] theorem OrderItem.map_map (x : OrderItem E) : (x.map f).map g = x.map (g ∘ f) := rfl

@[simp] theorem WindowSpec.map_map (x : WindowSpec E) : (x.map f).map g = x.map (g ∘ f) := by
  simp [WindowSpec.map, Function.comp_def]

@[simp] theorem NamedWindow.map_map (x : NamedWindow E) :
    (x.map f).map g = x.map (g ∘ f) := by simp [NamedWindow.map]

@[simp] theorem DataType.map_map (x : DataType E) :
    (x.map f).map g = x.map (g ∘ f) := by simp [DataType.map]

@[simp] theorem ColumnDefinition.map_map (x : ColumnDefinition E) :
    (x.map f).map g = x.map (g ∘ f) := by
  simp [ColumnDefinition.map]

@[simp] theorem Table.map_map (x : Table E) : (x.map f).map g = x.map (g ∘ f) := by simp [Table.map]

@[simp] theorem Column.map_map (x : Column E) : (x.map f).map g = x.map (g ∘ f) := rfl

@[simp] theorem Columns.map_map (x : Columns E) : (x.map f).map g = x.map (g ∘ f) := by
  cases x <;> simp [Columns.map, Function.comp_def]

@[simp] theorem Cte.map_map (x : Cte E) : (x.map f).map g = x.map (g ∘ f) := rfl

@[simp] theorem Limit.map_map (x : Limit E) : (x.map f).map g = x.map (g ∘ f) := by simp [Limit.map]

@[simp] theorem Select.map_map (x : Select E) : (x.map f).map g = x.map (g ∘ f) := by
  simp [Select.map, Function.comp_def]

@[simp] theorem Query.map_map (x : Query E) :
    (x.map f).map g = x.map (g ∘ f) := by simp [Query.map, Function.comp_def]

@[simp] theorem Assignment.map_map (x : Assignment E) : (x.map f).map g = x.map (g ∘ f) := rfl

@[simp] theorem InsertSource.map_map (x : InsertSource E) : (x.map f).map g = x.map (g ∘ f) := by
  cases x <;> simp [InsertSource.map]

@[simp] theorem Insert.map_map (x : Insert E) : (x.map f).map g = x.map (g ∘ f) := by
  simp [Insert.map, Function.comp_def]

theorem Node.map_map (n : Node E) : (n.map f).map g = n.map (g ∘ f) := by
  cases n <;> simp [Node.map, Function.comp_def]

end Twice

/-! ## Maps that agree -/

open HasSlots (slots)

variable {F : Type} {f g : Expr → F}

/-- The maps agree on the subexpressions in the slots. -/
abbrev Slot.Same (f g : Expr → F) (ss : List Slot) : Prop := Slot.All (fun e => f e = g e) ss

theorem map_congr_list {α β : Type} [SizeOf α] [HasSlots α] {k l : α → β}
    (h : ∀ x, Slot.Same f g (slots x) → k x = l x) {xs : List α} (hxs : Slot.Same f g (slots xs)) :
    xs.map k = xs.map l :=
  List.map_congr_left fun x hx => h x (hxs.of_mem hx)

theorem map_congr_option {α β : Type} [SizeOf α] [HasSlots α] {k l : α → β}
    (h : ∀ x, Slot.Same f g (slots x) → k x = l x) {x : Option α} (hx : Slot.Same f g (slots x)) :
    x.map k = x.map l := by
  cases x with
  | none => rfl
  | some x => exact congrArg some (h x (slots_some x ▸ hx))

theorem map_congr_expr (e : Expr) (h : Slot.Same f g (slots e)) : f e = g e :=
  h.expr List.mem_cons_self

theorem map_congr_exprs {es : List Expr} (h : Slot.Same f g (slots es)) : es.map f = es.map g :=
  map_congr_list map_congr_expr h

theorem map_congr_optional {e : Option Expr} (h : Slot.Same f g (Slot.optionals e)) :
    e.map f = e.map g :=
  map_congr_option map_congr_expr (Slot.all_optionals.mp h)

theorem map_congr_wrapping {e : Option Expr} (h : Slot.Same f g (Slot.wrappings e)) :
    e.map f = e.map g :=
  map_congr_option map_congr_expr (Slot.all_wrappings.mp h)

/-! ## Parts of expressions -/

theorem ColumnName.map_congr (x : ColumnName Expr) (h : Slot.Same f g (slots x)) :
    x.map f = x.map g := by
  cases x with
  | computed e => exact congrArg ColumnName.computed (h.expr List.mem_cons_self)
  | _ => rfl

theorem ColumnRef.map_congr (x : ColumnRef Expr) (h : Slot.Same f g (slots x)) :
    x.map f = x.map g := by
  rw [map, map, x.column.map_congr h]

theorem OrderItem.map_congr (x : OrderItem Expr) (h : Slot.Same f g (slots x)) :
    x.map f = x.map g := by
  rw [map, map, map_congr_expr x.expr h]

theorem map_congr_orderItems {x : Option (List (OrderItem Expr))} (h : Slot.Same f g (slots x)) :
    x.map (·.map (·.map f)) = x.map (·.map (·.map g)) :=
  map_congr_option (fun _ => map_congr_list OrderItem.map_congr) h

theorem WindowSpec.map_congr (x : WindowSpec Expr) (h : Slot.Same f g (slots x)) :
    x.map f = x.map g := by
  obtain ⟨hpartition, horder⟩ := Slot.all_append.mp h
  rw [map, map, map_congr_orderItems hpartition, map_congr_orderItems horder]

theorem NamedWindow.map_congr (x : NamedWindow Expr) (h : Slot.Same f g (slots x)) :
    x.map f = x.map g := by
  rw [map, map, x.spec.map_congr h]

theorem DataType.map_congr (x : DataType Expr) (h : Slot.Same f g (slots x)) :
    x.map f = x.map g := by
  rw [map, map, map_congr_exprs h]

theorem ColumnDefinition.map_congr (x : ColumnDefinition Expr) (h : Slot.Same f g (slots x)) :
    x.map f = x.map g := by
  obtain ⟨h, hcomment⟩ := Slot.all_append.mp h
  obtain ⟨h, hdefault⟩ := Slot.all_append.mp h
  obtain ⟨hcolumn, htype⟩ := Slot.all_append.mp h
  rw [map, map, x.column.map_congr hcolumn, x.type.map_congr htype, map_congr_wrapping hdefault,
    map_congr_wrapping hcomment]

theorem CaseArm.map_congr (x : CaseArm Expr) (h : Slot.Same f g (slots x)) : x.map f = x.map g := by
  cases x with
  | when condition result =>
    have hcondition : f condition = g condition := h.expr (by simp [slots])
    have hresult : f result = g result := h.expr (by simp [slots])
    rw [map, map, hcondition, hresult]
  | otherwise result => exact congrArg CaseArm.otherwise (h.expr List.mem_cons_self)

theorem map_congr_window {x : Option (WindowSpec Expr)} (h : Slot.Same f g (HasSlots.slots x)) :
    x.map (·.map f) = x.map (·.map g) :=
  map_congr_option WindowSpec.map_congr h

/-! ## Parts of queries -/

theorem Table.map_congr (x : Table Expr) (h : Slot.Same f g (slots x)) : x.map f = x.map g := by
  obtain ⟨h, -⟩ := Slot.all_append.mp h
  obtain ⟨hexpr, hcondition⟩ := Slot.all_append.mp h
  rw [map, map, map_congr_optional hexpr, map_congr_optional hcondition]

theorem Column.map_congr (x : Column Expr) (h : Slot.Same f g (slots x)) : x.map f = x.map g := by
  rw [map, map, map_congr_expr x.expr h]

theorem Columns.map_congr (x : Columns Expr) (h : Slot.Same f g (slots x)) : x.map f = x.map g := by
  cases x with
  | all => rfl
  | list items => exact congrArg Columns.list (map_congr_list Column.map_congr h)

theorem Cte.map_congr (x : Cte Expr) (h : Slot.Same f g (slots x)) : x.map f = x.map g := by
  rw [map, map, map_congr_expr x.body (Slot.all_append.mp h).2]

theorem Limit.map_congr (x : Limit Expr) (h : Slot.Same f g (slots x)) : x.map f = x.map g := by
  obtain ⟨hcount, hoffset⟩ := Slot.all_append.mp (Slot.all_cons.mp h).2
  rw [map, map, map_congr_option map_congr_expr hcount, map_congr_option map_congr_expr hoffset]

theorem Select.map_congr (x : Select Expr) (h : Slot.Same f g (slots x)) : x.map f = x.map g := by
  simp only [slots_select, Slot.all_append] at h
  obtain ⟨⟨⟨⟨⟨⟨⟨⟨hwiths, hcolumns⟩, htables⟩, hcondition⟩, hgroupBy⟩, hhaving⟩, hwindows⟩, horder⟩,
      hlimit⟩ := h
  rw [map, map, map_congr_option (fun _ => map_congr_list Cte.map_congr) hwiths,
    x.columns.map_congr hcolumns,
    map_congr_option (fun _ => map_congr_list Table.map_congr) htables,
    map_congr_optional hcondition,
    map_congr_option (fun _ => map_congr_exprs) hgroupBy, map_congr_optional hhaving,
    map_congr_option (fun _ => map_congr_list NamedWindow.map_congr) hwindows,
    map_congr_orderItems horder, map_congr_option Limit.map_congr hlimit]

theorem Query.map_congr (x : Query Expr) (h : Slot.Same f g (slots x)) : x.map f = x.map g := by
  obtain ⟨hhead, hrest⟩ := Slot.all_append.mp h
  rw [map, map, x.head.map_congr hhead, map_congr_list Select.map_congr hrest]

theorem Assignment.map_congr (x : Assignment Expr) (h : Slot.Same f g (slots x)) :
    x.map f = x.map g := by
  rw [map, map, map_congr_expr x.value h]

theorem InsertSource.map_congr (x : InsertSource Expr) (h : Slot.Same f g (slots x)) :
    x.map f = x.map g := by
  cases x with
  | rows rows => exact congrArg InsertSource.rows (map_congr_exprs h)
  | query q => exact congrArg InsertSource.query (h _ List.mem_cons_self q rfl)

theorem Insert.map_congr (x : Insert Expr) (h : Slot.Same f g (slots x)) : x.map f = x.map g := by
  obtain ⟨h, hreturning⟩ := Slot.all_append.mp h
  obtain ⟨h, hduplicate⟩ := Slot.all_append.mp h
  obtain ⟨h, hsource⟩ := Slot.all_append.mp h
  obtain ⟨htables, -⟩ := Slot.all_append.mp h
  rw [map, map, map_congr_list Table.map_congr htables,
    map_congr_option InsertSource.map_congr hsource,
    map_congr_option (fun _ => map_congr_list Assignment.map_congr) hduplicate,
    map_congr_option Columns.map_congr hreturning]

/-! ## Nodes -/

theorem map_congr_first {s : Slot} {ss : List Slot} {e : Expr} (h : Slot.Same f g (s :: ss))
    (hs : s.expr? = some e) :
    f e = g e :=
  h s List.mem_cons_self e hs

theorem map_congr_rest {s : Slot} {ss : List Slot} (h : Slot.Same f g (s :: ss)) :
    Slot.Same f g ss :=
  (Slot.all_cons.mp h).2

theorem Node.map_congr (n : Node Expr) (h : Slot.Same f g n.slots) : n.map f = n.map g := by
  cases n with
  | column c => exact congrArg column (c.map_congr h)
  | query q => exact congrArg query (q.map_congr h)
  | columnDefinition d => exact congrArg columnDefinition (d.map_congr h)
  | dataType t => exact congrArg dataType (t.map_congr h)
  | insert i => exact congrArg insert (i.map_congr h)
  | windows ws => exact congrArg windows (map_congr_list NamedWindow.map_congr h)
  | tables ts => exact congrArg tables (map_congr_list Table.map_congr h)
  | unary _ e _ | interval e _ | extract _ e | lambda _ e | unnest e | jsonStep _ e | wrapped e
  | namedArg _ _ e =>
    rw [map, map, map_congr_first h rfl]
  | binary _ l r _ | assign l _ r =>
    rw [map, map, map_congr_first h rfl, map_congr_first (map_congr_rest h) rfl]
  | list items _ _ | array _ _ items | struct _ items | json _ items =>
    rw [map, map, map_congr_exprs h]
  | collate e _ _ => rw [map, map, map_congr_optional h]
  | call _ args w _ _ =>
    obtain ⟨hargs, hw⟩ := Slot.all_append.mp h
    rw [map, map, map_congr_optional hargs, map_congr_window hw]
  | windowCall _ args w =>
    obtain ⟨hargs, hw⟩ := Slot.all_append.mp h
    rw [map, map, map_congr_optional hargs, w.map_congr hw]
  | aggregate _ arg _ order separator w _ =>
    obtain ⟨hrest, hw⟩ := Slot.all_append.mp (map_congr_rest h)
    obtain ⟨horder, hseparator⟩ := Slot.all_append.mp hrest
    rw [map, map, map_congr_first h rfl, map_congr_orderItems horder, map_congr_optional hseparator,
      map_congr_window hw]
  | cast _ e _ target _ => rw [map, map, map_congr_first h rfl, target.map_congr (map_congr_rest h)]
  | case subject arms _ =>
    obtain ⟨hsubject, harms⟩ := Slot.all_append.mp h
    rw [map, map, map_congr_optional hsubject, map_congr_list CaseArm.map_congr harms]
  | subscript base indices =>
    rw [map, map, map_congr_first h rfl, map_congr_exprs (map_congr_rest h)]
  | mapLiteral _ entries =>
    have hentry (x : Expr × Expr) (hx : Slot.Same f g (HasSlots.slots x)) :
        (f x.1, f x.2) = (g x.1, g x.2) := by
      rw [map_congr_first hx rfl, map_congr_first (map_congr_rest hx) rfl]
    exact congrArg (mapLiteral _) (map_congr_list hentry h)
  | fullText _ columns _ phrase _ =>
    obtain ⟨hcolumns, hphrase⟩ := Slot.all_append.mp h
    rw [map, map, map_congr_list ColumnRef.map_congr hcolumns, map_congr_first hphrase rfl]
  | jsonMember key value onNull =>
    have hvalue := map_congr_rest h
    rw [map, map, map_congr_first h rfl, map_congr_first hvalue rfl,
      map_congr_optional (map_congr_rest hvalue)]
  | anyValue arg w => rw [map, map, map_congr_first h rfl, map_congr_window (map_congr_rest h)]
  | flatten input path outer recursive mode =>
    simp only [slots, Slot.all_append] at h
    obtain ⟨⟨⟨⟨hinput, hpath⟩, houter⟩, hrecursive⟩, hmode⟩ := h
    rw [map, map, map_congr_optional hinput, map_congr_optional hpath, map_congr_optional houter,
      map_congr_optional hrecursive, map_congr_optional hmode]
  | tableCall _ args aliasName =>
    rw [map, map, map_congr_first h rfl, map_congr_optional (map_congr_rest h)]
  | «variable» _ | showing _ | number _ _ | text _ _ _ | bool _ _ | null | star | unknown _ => rfl

end SqlWeave
