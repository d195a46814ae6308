import SqlWeave.Proofs.Wire.Sound

/-! Reading is normalizing. What is read from a value, written, and read again is the same tree, as
long as no default, comment or source of rows is written so that it looks like the wrapper it may
come in. -/

namespace SqlWeave

/-- A value comes to rest when it is read. -/
theorem Expr.ofJson_form {v : Json} {e : Expr} (hv : v.canonical = v) (h : Expr.ofJson v = .ok e)
    (hplain : ∀ s, e.Holds s → s.Unwrapped) : Expr.ofJson e.form = .ok e :=
  Expr.ofJson_toJson Json.arranges_canonical fun s hs =>
    Expr.ofJson_sound (Json.ordered_iff.mpr hv) h s hs (hplain s hs)

/-! ## Defaults -/

/-- An integer column with a default. -/
def columnDefaulting (value : Expr) : Expr :=
  .mk (.columnDefinition
    { column := .ofText "a", type := { name := "INT" }, defaultValue := some value })

/-- The column with its default in a wrapper. -/
def wrappingDefault (value : Expr) : Json :=
  Json.canonical (.object [("type", .string "column_definition"),
    ("column", .object [("column", .string "a")]),
    ("definition", .object [("dataType", .string "INT")]),
    ("default_val", .object [("type", .string "default"), ("value", value.toJson)])])

def integerOne : Expr := .mk (.number (.int 1) false)

theorem holds_columnDefaulting {s : Slot} (h : (columnDefaulting integerOne).Holds s) :
    s = .name "a" ∨ s = .wrapped integerOne := by
  rcases Expr.holds_mk.mp h with hs | ⟨t, ht, e, he, hs⟩
  · exact (List.mem_cons.mp hs).imp_right List.mem_singleton.mp
  · rcases (List.mem_cons.mp ht).imp_right List.mem_singleton.mp with rfl | rfl
    · cases he
    · cases he
      rcases Expr.holds_mk.mp hs with hs | ⟨_, ht, _⟩
      · cases hs
      · cases ht

/-- The wrapper of a number is gone once the column is read. -/
theorem Expr.ofJson_form_integerOne :
    Expr.ofJson (wrappingDefault integerOne) = .ok (columnDefaulting integerOne) ∧
      Expr.ofJson (columnDefaulting integerOne).form = .ok (columnDefaulting integerOne) := by
  have hread : Expr.ofJson (wrappingDefault integerOne) = .ok (columnDefaulting integerOne) := rfl
  refine ⟨hread, Expr.ofJson_form (Json.ordered_canonical _).canonical_eq hread fun s hs => ?_⟩
  obtain rfl | rfl := holds_columnDefaulting hs
  · trivial
  · exact nofun

/-- A default that is an argument by name looks like a wrapper itself: reading the column takes off
the wrapper, and reading what is written then takes off the argument too. -/
theorem argument_unwrapped_twice :
    ¬ ∀ v e, v.canonical = v → Expr.ofJson v = .ok e → Expr.ofJson e.form = .ok e := by
  intro h
  have hread : Expr.ofJson (wrappingDefault (.mk (.namedArg "n" "=>" integerOne))) =
      .ok (columnDefaulting (.mk (.namedArg "n" "=>" integerOne))) := rfl
  have hagain : Expr.ofJson (columnDefaulting (.mk (.namedArg "n" "=>" integerOne))).form =
      .ok (columnDefaulting (.mk (.unknown (.object
        [("expr", integerOne.toJson), ("name", .string "n"), ("symbol", .string "=>")])))) := rfl
  have hsame := h _ _ (Json.ordered_canonical _).canonical_eq hread
  rw [hagain] at hsame
  cases hsame

end SqlWeave
