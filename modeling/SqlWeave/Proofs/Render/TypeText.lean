import SqlWeave.Proofs.Spelling.Operand

/-! The two writers of types. One takes a type as it is; the other goes through the renderer, which
quotes names, drops what is empty and asks the registry how to write a field. They agree where the
dialect has no quotes and every field has a name, a type and nothing else, and without fields they
agree anywhere. -/

namespace SqlWeave

open Render

/-- A field is written as its name and its type. -/
structure ColumnDefinition.IsPlainField (d : ColumnDefinition Expr) : Prop where
  named : ∃ name, d.column.column = .name name ∧ name ≠ ""
  typed : d.type.name ≠ ""
  nullable : d.nullable = none
  defaultValue : d.defaultValue = none
  autoIncrement : d.autoIncrement = none
  unique : d.unique = none
  primaryKey : d.primaryKey = none
  comment : d.comment = none
  collate : d.collate = none

/-- What stands between the parentheses of a type: types, and fields if they are allowed. -/
inductive Expr.IsTypeArgument (fields : Prop) : Expr → Prop
  | dataType {t : DataType Expr} :
    (∀ e ∈ t.args, e.IsTypeArgument fields) → (Expr.mk (.dataType t)).IsTypeArgument fields
  | field {d : ColumnDefinition Expr} : fields → d.IsPlainField →
    (∀ e ∈ d.type.args, e.IsTypeArgument fields) →
      (Expr.mk (.columnDefinition d)).IsTypeArgument fields

/-! ## The text of a type -/

/-- Around the same texts of arguments both writers put the same. -/
theorem Render.typeText_eq {E F : Type} (t : DataType E) (f : E → F) (args : List String) :
    typeText (t.map f) args = t.bareWith args := by
  unfold typeText DataType.bareWith DataType.map
  cases t.length with
  | none => rfl
  | some length =>
    cases t.scale with
    | none => rfl
    | some scale => simp only [inParens, String.append_assoc]

theorem DataType.bareWith_map {E F : Type} (t : DataType E) (f : E → F) (args : List String) :
    (t.map f).bareWith args = t.bareWith args := rfl

/-- Where a length is given, the arguments are not shown. -/
theorem DataType.bareWith_of_length {E : Type} (t : DataType E) (h : t.length.isSome)
    (args args' : List String) : t.bareWith args = t.bareWith args' := by
  obtain ⟨length, hlength⟩ := Option.isSome_iff_exists.mp h
  unfold bareWith
  rw [hlength]
  cases t.scale <;> rfl

theorem DataType.bareWith_ne_empty {E : Type} (t : DataType E) (h : t.name ≠ "")
    (args : List String) :
    t.bareWith args ≠ "" := by
  intro hempty
  simp only [bareWith, String.append_eq_empty_iff] at hempty
  exact h hempty.1.1.1

theorem DataType.bareText_eq_fold (t : DataType Expr) :
    (t.map (Expr.withValue Expr.bareTypeAlgebra)).bareWith
      ((t.map (Expr.withValue Expr.bareTypeAlgebra)).args.map Prod.snd) = t.bareText := by
  rw [bareWith_map, map, List.map_map]
  rfl

theorem Expr.bareTypeText_dataType (t : DataType Expr) :
    (Expr.mk (.dataType t)).bareTypeText = t.bareText := by
  rw [bareTypeText, fold_mk]
  exact t.bareText_eq_fold

theorem Expr.bareTypeText_field {d : ColumnDefinition Expr} {name : String}
    (h : d.column.column = .name name) :
    (Expr.mk (.columnDefinition d)).bareTypeText = name ++ " " ++ d.type.bareText := by
  rw [bareTypeText, fold_mk]
  simp only [Node.map, ColumnDefinition.map, ColumnRef.map, bareTypeAlgebra, h, ColumnName.map,
    ColumnName.text?, Option.getD_some, d.type.bareText_eq_fold]

/-! ## Through the renderer -/

/-- The texts of the arguments are all that the two writers have to agree on. -/
theorem Render.dataType_of_args {r : Renderer} {t : DataType Expr}
    (h : ∀ e ∈ t.args, r.expr e = .ok e.bareTypeText) :
    dataType (t.map r.item) = .ok t.bareText := by
  unfold dataType DataType.bareText
  split
  · rename_i hlength
    rw [typeText_eq]
    exact congrArg Except.ok (t.bareWith_of_length hlength _ _)
  · have hsqls : sqls (t.args.map r.item) = .ok (t.args.map Expr.bareTypeText) := by
      rw [sqls, List.mapM_map]
      exact mapM_ok h
    have hargs : (t.map r.item).args = t.args.map r.item := rfl
    rw [hargs, hsqls]
    exact congrArg Except.ok (typeText_eq t r.item _)

/-- The rule for fields, in a dialect without quotes, for a field with nothing to leave out. -/
theorem Render.standardColumnDefinition_plain {r : Renderer}
    (hquotes : r.config.dialect.identifierQuote.delimiters = none) {d : ColumnDefinition Expr}
    (hd : d.IsPlainField) {name : String} (hname : d.column.column = .name name)
    (htype : dataType (d.type.map r.item) = .ok d.type.bareText) :
    standardColumnDefinition r.config (d.map r.item) = .ok (name ++ " " ++ d.type.bareText) := by
  have hquote (text : String) : r.config.dialect.quoteIdentifier text = text := by
    unfold Dialect.quoteIdentifier
    rw [hquotes]
    split <;> rfl
  obtain ⟨name', hname', hne⟩ := hd.named
  obtain rfl : name = name' := by
    rw [hname] at hname'
    exact ColumnName.name.inj hname'
  have htext : d.type.bareText ≠ "" := d.type.bareWith_ne_empty hd.typed _
  have hdefault : optional "DEFAULT" (d.map r.item).defaultValue = .ok "" := by
    rw [ColumnDefinition.map, hd.defaultValue]
    rfl
  have hcomment : optional "COMMENT" (d.map r.item).comment = .ok "" := by
    rw [ColumnDefinition.map, hd.comment]
    rfl
  have hcolumn : columnName r.config.dialect (d.map r.item).column.column = .ok name := by
    simp only [ColumnDefinition.map, ColumnRef.map, hname, ColumnName.map, columnName, hquote]
    rfl
  have htype : dataType (d.map r.item).type = .ok d.type.bareText := htype
  have hshown : [name, d.type.bareText, "", "", "", "", "", "", ""].filter (!·.isEmpty) =
      [name, d.type.bareText] := by
    simp [hne, htext]
  have hparts : fragments [name, d.type.bareText, upper? d.nullable, "", upper? d.autoIncrement,
        upper? d.unique, upper? d.primaryKey, "", (d.collate.map ("COLLATE " ++ ·)).getD ""] =
      name ++ " " ++ d.type.bareText := by
    rw [hd.nullable, hd.autoIncrement, hd.unique, hd.primaryKey, hd.collate]
    exact congrArg " ".intercalate hshown
  simp only [standardColumnDefinition, hdefault, hcomment, hcolumn, htype]
  exact congrArg Except.ok hparts

/-! ## Agreement -/

theorem Expr.IsTypeArgument.expr_eq {fields : Prop} {e : Expr} (h : e.IsTypeArgument fields)
    {r : Renderer} (hr : fields → r.registry.columnDefinition = some .standard ∧
      r.config.dialect.identifierQuote.delimiters = none) : r.expr e = .ok e.bareTypeText := by
  induction h with
  | @dataType t _ ih =>
    rw [bareTypeText_dataType, ← Render.dataType_of_args ih, Renderer.expr_mk]
    rfl
  | @field d hfields hd _ ih =>
    obtain ⟨hrule, hquotes⟩ := hr hfields
    obtain ⟨name, hname, -⟩ := hd.named
    rw [bareTypeText_field hname, ← standardColumnDefinition_plain hquotes hd hname
      (Render.dataType_of_args ih),
      Renderer.expr_mk]
    simp only [Renderer.node, Node.map, hrule]
    rfl

/-- The dialects without quotes. -/
theorem Dialect.delimiters_eq_none {d : Dialect} :
    d.identifierQuote.delimiters = none ↔ d = .bigQuery ∨ d = .db2 := by
  cases d <;> decide

/-- Both writers give a type the same text: in every dialect and mode and with any registry if its
arguments are types at every depth, and with the standard registry in a dialect without quotes if
there are plain fields among them. -/
theorem dataType_writers_agree (t : DataType Expr) :
    ((∀ e ∈ t.args, e.IsTypeArgument False) →
      ∀ r : Renderer, Render.dataType (t.map r.item) = .ok t.bareText) ∧
    ((∀ e ∈ t.args, e.IsTypeArgument True) → ∀ config : RenderConfig, config.dialect = .bigQuery ∨
      config.dialect = .db2 →
      Render.dataType (t.map (Renderer.item ⟨config, .standard⟩)) = .ok t.bareText) := by
  constructor
  · intro h r
    exact Render.dataType_of_args fun e he => (h e he).expr_eq False.elim
  · intro h config hdialect
    exact Render.dataType_of_args fun e he =>
      (h e he).expr_eq fun _ => ⟨rfl, Dialect.delimiters_eq_none.mpr hdialect⟩

/-- `ARRAY(int)` inside a map, and a map inside a field. -/
def mapOfArrays : DataType Expr :=
  { name := "MAP", args := [.mk (.dataType { name := "VARCHAR", length := some 3 }),
      .mk (.dataType { name := "ARRAY", args := [.mk (.dataType { name := "int" })] })] }

def structOfMap : DataType Expr :=
  { name := "STRUCT", args := [.mk
    (.columnDefinition { column := { column := .name "tags" }, type := mapOfArrays })] }

theorem dataType_writers_agree_nested :
    (∀ r : Renderer, Render.dataType (mapOfArrays.map r.item) = .ok "MAP(VARCHAR(3), ARRAY(int))") ∧
    Render.dataType (structOfMap.map (Renderer.item ⟨{ dialect := .bigQuery }, .standard⟩)) =
      .ok "STRUCT(tags MAP(VARCHAR(3), ARRAY(int)))" := by
  have hargs (fields : Prop) : ∀ e ∈ mapOfArrays.args, e.IsTypeArgument fields := by
    have harray : ∀ e ∈ [Expr.mk (.dataType { name := "int" })], e.IsTypeArgument fields :=
      List.forall_mem_cons.mpr ⟨.dataType nofun, nofun⟩
    exact List.forall_mem_cons.mpr ⟨.dataType nofun,
      List.forall_mem_cons.mpr ⟨.dataType harray, nofun⟩⟩
  have hfield : ∀ e ∈ structOfMap.args, e.IsTypeArgument True :=
    List.forall_mem_cons.mpr ⟨.field trivial
      ⟨⟨"tags", rfl, by decide⟩, by decide, rfl, rfl, rfl, rfl, rfl, rfl, rfl⟩ (hargs True), nofun⟩
  exact ⟨(dataType_writers_agree mapOfArrays).1 (hargs False),
    (dataType_writers_agree structOfMap).2 hfield { dialect := .bigQuery } (.inl rfl)⟩

end SqlWeave
