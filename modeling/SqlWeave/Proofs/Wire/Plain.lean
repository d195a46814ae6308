import SqlWeave.Proofs.Wire.Limit
import SqlWeave.Proofs.Wire.Tree

/-! Plain trees: no argument by name and no unknown node in them, every list of names has one, every
limit limits, and rows are inserted from a query. Plain trees are read back in every order of
fields. -/

namespace SqlWeave

open HasSlots (slots)
open Json (Fields)

/-- What stands in the slot of a plain tree. -/
def Slot.Plain : Slot → Prop
  | .expr _ | .optional _ | .wrapped _ => True
  | .source e => ∃ q, e = .query q
  | .name text => text ≠ "*"
  | .names list => list ≠ []
  | .limit l => l.Settled
  | .argument _ | .value _ => False

def Expr.Plain (e : Expr) : Prop := ∀ s, e.Holds s → s.Plain

abbrev AllPlain : List Slot → Prop := Slot.Throughout Slot.Plain

theorem Expr.Plain.known {n : Node Expr} (h : (Expr.mk n).Plain) :
    (∀ v, n ≠ .unknown v) ∧ ∀ name symbol e, n ≠ .namedArg name symbol e := by
  constructor
  · rintro v rfl
    exact h (.value v) (.here List.mem_cons_self)
  · rintro name symbol e rfl
    exact h (.argument e) (.here List.mem_cons_self)

/-! ## The fields of plain nodes -/

namespace Wire

variable {k key : String} {v w : Json}

theorem mem_text? {s : Option String} :
    (k, v) ∈ text? key s ↔ k = key ∧ ∃ t, s = some t ∧ v = .string t := by
  cases s <;> simp [text?]

theorem mem_value? {x : Option Json} : (k, v) ∈ value? key x ↔ k = key ∧ x = some v := by
  cases x <;> simp [value?, eq_comm]

theorem mem_flag {b : Bool} : (k, v) ∈ flag key b ↔ k = key ∧ b = true ∧ v = .bool true := by
  cases b <;> simp [flag]

theorem mem_nullable {s : Option String} :
    (k, v) ∈ nullable key s ↔ k = key ∧ v = (s.map Json.string).getD .null := by
  simp [nullable]

end Wire

attribute [local simp] Wire.mem_text? Wire.mem_value? Wire.mem_flag Wire.mem_nullable
  Wire.parensFlag Wire.natural?
  Wire.orderItems? Wire.over? Wire.returning? Wire.limit? Wire.withs? Wire.source Wire.condition
    Wire.strings
  Wire.tables? Wire.tables

/-- Only an argument by name has an object for its value. -/
theorem Node.value_not_object {n : Node Json} (hn : ∀ name symbol e, n ≠ .namedArg name symbol e)
    {fs : Fields} : ("value", Json.object fs) ∉ n.toFields := by
  cases n with
  | namedArg name symbol e => exact absurd rfl (hn name symbol e)
  | _ =>
    simp [toFields, ColumnRef.toFields, DataType.toFields, ColumnDefinition.toFields,
      Variable.toFields, Query.toFields, Select.toFields, Insert.toFields]

theorem Query.no_type {q : Query Json} {v : Json} : ("type", v) ∉ q.toFields := by
  simp [toFields, Select.toFields]

theorem Statement.no_type {s : Statement Json} {v : Json} : ("type", v) ∉ s.toFields := by
  cases s with
  | select q => exact Query.no_type
  | _ =>
    simp [toFields, Insert.toFields, Update.toFields, Delete.toFields, Create.toFields,
      Drop.toFields]

/-! ## Reading back -/

section Readable

variable {c : Json → Json} (hc : Json.Arranges c)
include hc

theorem Json.Arranges.object_of_eq {v : Json} {gs : Fields} (h : c v = .object gs) :
    ∃ fs, v = .object fs := by
  cases v with
  | object fs => exact ⟨fs, rfl⟩
  | null => exact absurd (hc.null.symm.trans h) nofun
  | bool b => exact absurd ((hc.bool b).symm.trans h) nofun
  | number n => exact absurd ((hc.number n).symm.trans h) nofun
  | string s => exact absurd ((hc.string s).symm.trans h) nofun
  | array vs => exact absurd ((hc.array vs).symm.trans h) nofun

/-- A node of a known kind is written as an object, whose fields are those that were written. -/
theorem Expr.toJson_fields {n : Node Expr} (h : ∀ v, n ≠ .unknown v) :
    ∃ gs, c (Expr.mk n).toJson = .object gs ∧
    ∀ key w, Fields.get? gs key = some w →
      ∃ v, (key, v) ∈ ("type", Json.string n.kind) :: (n.map Expr.toJson).toFields ∧
      c v = w := by
  rw [toJson_known h]
  exact hc.some_field _

theorem Slot.readable_of_plain {s : Slot} (hs : s.Plain) (hdeep : ∀ e, s.expr? = some e → e.Plain) :
    s.Readable c := by
  have hform {n : Node Expr} (hn : (Expr.mk n).Plain) := Expr.toJson_fields hc hn.known.1
  cases s with
  | expr e => trivial
  | optional e =>
    obtain ⟨n⟩ := e
    obtain ⟨gs, hgs, -⟩ := hform (hdeep _ rfl)
    exact fun hnull => nomatch hgs.symm.trans hnull
  | wrapped e =>
    obtain ⟨n⟩ := e
    obtain ⟨gs, hgs, hfield⟩ := hform (hdeep _ rfl)
    refine ⟨fun hnull => (nomatch hgs.symm.trans hnull), fun fs hvalue => ?_⟩
    rw [hgs] at hvalue
    obtain ⟨v, hv, hobject⟩ := hfield "value" _ hvalue
    obtain ⟨ws, rfl⟩ := hc.object_of_eq hobject
    refine Node.value_not_object (n := n.map Expr.toJson) (fun name symbol e heq => ?_)
      ((List.mem_cons.mp hv).resolve_left (by simp))
    cases n with
    | namedArg name symbol e => exact (hdeep _ rfl).known.2 name symbol e rfl
    | _ => cases heq
  | source e =>
    obtain ⟨q, rfl⟩ := hs
    obtain ⟨gs, hgs, hfield⟩ := hform (hdeep _ rfl)
    have hgs : c (Expr.query q).toJson = .object gs := hgs
    refine ⟨fun hnull => (nomatch hgs.symm.trans hnull),
      fun vs harray => (nomatch hgs.symm.trans harray), fun htag => ?_⟩
    rw [hgs] at htag
    obtain ⟨w, hw, hstring⟩ := Option.bind_eq_some_iff.mp htag
    obtain ⟨v, hv, rfl⟩ := hfield "type" w hw
    rcases List.mem_cons.mp hv with heq | hv
    · obtain ⟨-, rfl⟩ := Prod.mk.inj heq
      rw [hc.string] at hstring
      have hkind : "select" = "values" := Option.some.inj hstring
      exact absurd hkind (by decide)
    · exact Query.no_type hv
  | argument e => exact hs.elim
  | name text => exact hs
  | names list => exact hs
  | limit l => exact hs
  | value v => exact hs.elim

theorem Script.ofJson_toJson_of_plain {script : Script Expr}
    (h : ∀ st ∈ script.statements, AllPlain st.slots) :
    Script.ofJson (c script.toJson) = .ok script := by
  refine Script.ofJson_toJson hc fun s hs => ?_
  obtain ⟨st, hst, hwithin⟩ := hs
  refine Slot.readable_of_plain hc ((h st hst).within hwithin) fun e he t ht => (h st hst).within ?_
  rcases hwithin with hmem | ⟨u, hu, f, hf, hs⟩
  · exact .inr ⟨s, hmem, e, he, ht⟩
  · exact .inr ⟨u, hu, f, hf, hs.trans he ht⟩

end Readable

end SqlWeave
