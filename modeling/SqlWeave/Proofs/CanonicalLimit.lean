import SqlWeave.Proofs.Parser.Returns
import SqlWeave.Proofs.Wire.Depth
import SqlWeave.Proofs.Wire.Query
import SqlWeave.Proofs.Wire.Sound

/-! A limit has one form in which it is written, whatever it was read from. Written, read and
normalized, it is the same limit again. -/

namespace SqlWeave

open HasSlots (slots)
open SqlWeave.Parser (Returns)

/-! ## Parsed limits -/

namespace Parser.Nested

variable {i : Nested} {src : Source} {s t : ParserState} {l : Limit Expr}

theorem limitAfterWord_settled (h : Returns i.limitAfterWord src s l t) : l.Settled := by
  obtain ⟨first, _, -, h⟩ := Returns.bind h
  obtain ⟨_, _, -, h⟩ := Returns.bind h
  split at h
  · obtain ⟨count, _, -, h⟩ := Returns.bind h
    obtain ⟨rfl, -⟩ := Returns.pure h
    exact Limit.settled_withComma count first
  · obtain ⟨_, _, -, h⟩ := Returns.bind h
    split at h
    · obtain ⟨offset, _, -, h⟩ := Returns.bind h
      obtain ⟨rfl, -⟩ := Returns.pure h
      exact Limit.settled_withOffset first offset
    · obtain ⟨rfl, -⟩ := Returns.pure h
      exact Limit.settled_ofCount first

theorem offsetAfterWord_settled (h : Returns i.offsetAfterWord src s l t) : l.Settled := by
  obtain ⟨offset, _, -, h⟩ := Returns.bind h
  obtain ⟨_, _, -, h⟩ := Returns.bind h
  obtain ⟨_, _, -, h⟩ := Returns.bind h
  split at h
  · obtain ⟨⟨count, words⟩, _, -, h⟩ := Returns.bind h
    obtain ⟨rfl, -⟩ := Returns.pure h
    exact Limit.settled_withFetchSuffix rfl words (.inl rfl) fun hnone => nomatch hnone
  · obtain ⟨rfl, -⟩ := Returns.pure h
    exact Limit.settled_ofOffset offset

/-- Each clause that is parsed as a limit has a form in which all of it can be written. -/
theorem limit?_settled (h : Returns i.limit? src s (some l) t) : l.Settled := by
  obtain ⟨_, _, -, h⟩ := Returns.bind h
  split at h
  · obtain ⟨limit, _, hlimit, h⟩ := Returns.bind h
    obtain ⟨heq, -⟩ := Returns.pure h
    cases heq
    exact limitAfterWord_settled hlimit
  · obtain ⟨_, _, -, h⟩ := Returns.bind h
    split at h
    · obtain ⟨limit, _, hlimit, h⟩ := Returns.bind h
      obtain ⟨heq, -⟩ := Returns.pure h
      cases heq
      exact offsetAfterWord_settled hlimit
    · obtain ⟨_, _, -, h⟩ := Returns.bind h
      split at h
      · obtain ⟨⟨count, words⟩, _, -, h⟩ := Returns.bind h
        obtain ⟨heq, -⟩ := Returns.pure h
        cases heq
        exact Limit.settled_withFetchSuffix rfl words (.inl rfl) fun hnone => nomatch hnone
      · obtain ⟨heq, -⟩ := Returns.pure h
        cases heq

end Parser.Nested

/-! ## Writing and reading -/

namespace Limit

variable {l : Limit Expr}

/-- Limits that a value is normalized to, and limits that are parsed. -/
inductive Made : Limit Expr → Prop
  | read {v : Json} {shape : LimitShape Expr} {l : Limit Expr}
      (hread : LimitShape.ofJson v = .ok (some shape)) (hnormal : shape.normalize = some l) : Made l
  | parsed {n : Nat} {src : Source} {s t : ParserState} {l : Limit Expr}
      (h : Returns (Parser.nested n).limit? src s (some l) t) : Made l

theorem Made.settled (h : l.Made) : l.Settled := by
  cases h with
  | read hread hnormal => exact (LimitShape.normalize_settled (limitShape_shape hread) hnormal).1
  | parsed h => exact Parser.Nested.limit?_settled h

variable {c : Json → Json}

/-- The readers for a limit read its count and its offset as the readers for these alone do. -/
theorem ready (hl : l.Settled)
    (h : ∀ e ∈ l.count.toList ++ l.offset.toList, Expr.ofJson (c e.toJson) = .ok e) (v : Json) :
    Ready c v.depth (Wire.readersFor v) (slots l) := by
  have hpart {x : Option Expr} (hx : ∀ e ∈ x.toList, Expr.ofJson (c e.toJson) = .ok e) :
      Ready c v.depth (Wire.readersFor v) (slots x) := by
    cases x with
    | none => exact ready_nil
    | some e =>
      rw [slots_some]
      refine ready_cons.mpr ⟨⟨trivial, fun e' he' hdepth => ?_⟩, ready_nil⟩
      cases he'
      have hnested : (Wire.readersFor v).expr (c e.toJson) = Expr.ofJson (c e.toJson) :=
        Expr.ofJson_nested (by omega)
      rw [hnested]
      exact hx e List.mem_cons_self
  obtain ⟨hcount, hoffset⟩ := List.forall_mem_append.mp h
  rw [slots_limit]
  exact ready_cons.mpr ⟨⟨hl, nofun⟩, ready_append.mpr ⟨hpart hcount, hpart hoffset⟩⟩

/-- Written with its fields in whatever order, a limit is read as a shape that is normalized to
it. -/
theorem normalize_written (hc : Json.Arranges c) (hl : l.Made)
    (h : ∀ e ∈ l.count.toList ++ l.offset.toList, Expr.ofJson (c e.toJson) = .ok e) :
    ∃ shape, LimitShape.ofJson (c (l.map Expr.toJson).toJson) = .ok (some shape) ∧
      shape.normalize = some l := by
  have hlimit := Ready.limit hc (ready hl.settled h (c (l.map Expr.toJson).toJson)) (Nat.le_refl _)
  obtain ⟨shape?, hshape, hsome⟩ := bind_ok hlimit
  obtain ⟨shape, rfl, hnormal⟩ := Option.bind_eq_some_iff.mp (Except.ok.inj hsome)
  exact ⟨shape, hshape, hnormal⟩

/-- Ten rows are left out and three taken, with words after the three that are not in capitals. -/
def mixedForm : Json :=
  let number (n : Int) : Json := .object [("type", .string "number"), ("value", .number (.int n))]
  .object [("offset", number 10),
    ("fetch", .object [("suffix", .string "percent rows with ties"), ("value", number 3)])]

/-- What the parts of `mixedForm` are normalized to. -/
def mixedLimit : Limit Expr where
  count := some (.number (.int 3))
  offset := some (.number (.int 10))
  fetchSuffix := ["PERCENT", "ROWS", "WITH", "TIES"]

theorem normalize_written_mixed :
    (∃ shape, LimitShape.ofJson mixedForm = .ok (some shape) ∧ shape.normalize = some mixedLimit) ∧
      ∃ again, LimitShape.ofJson (mixedLimit.map Expr.toJson).toJson = .ok (some again) ∧
        again.normalize = some mixedLimit := by
  have hread : LimitShape.ofJson mixedForm = .ok (some (.fetchOffset (some (.number (.int 3)))
      ["percent rows with ties"] (some (.number (.int 10))))) := rfl
  have hnormal : LimitShape.normalize (.fetchOffset (some (.number (.int 3)))
      ["percent rows with ties"]
      (some (.number (.int 10)))) = some mixedLimit := rfl
  have hvalue (n : Int) : Expr.ofJson (Expr.number (.int n)).toJson = .ok (.number (.int n)) := rfl
  refine ⟨⟨_, hread, hnormal⟩, normalize_written (c := id) Json.arranges_id
    (.read hread hnormal) ?_⟩
  exact List.forall_mem_cons.mpr ⟨hvalue 3, List.forall_mem_singleton.mpr (hvalue 10)⟩

end Limit

end SqlWeave
