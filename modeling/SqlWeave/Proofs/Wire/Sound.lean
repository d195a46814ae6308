import SqlWeave.Proofs.Wire.Limit
import SqlWeave.Proofs.Wire.Ordered
import SqlWeave.Proofs.Wire.Tree

/-! What the readers return. Whatever a value looked like, the tree it is read as has names, lists,
limits and unknown values in their one form; only what stands behind a default, a comment or an
insertion may still look like one of their wrappers. -/

namespace SqlWeave

open HasSlots (slots)
open Json (Fields)

/-- The form of an expression, with its fields in order. -/
def Expr.form (e : Expr) : Json := e.toJson.canonical

/-- What stands in the slot does not look like one of the wrappers that may stand there. -/
def Slot.Unwrapped : Slot → Prop
  | .wrapped e => ∀ fs, e.form.get? "value" ≠ some (.object fs)
  | .source e => e.form.tag? ≠ some "values"
  | _ => True

/-- The slot is read back if it does not look like a wrapper. -/
def Slot.Sound (s : Slot) : Prop := s.Unwrapped → s.Readable Json.canonical

def Expr.Sound (e : Expr) : Prop := ∀ s, e.Holds s → s.Sound

abbrev AllSound : List Slot → Prop := Slot.Throughout Slot.Sound

@[simp] theorem allSound_expr {e : Expr} : AllSound (slots e) ↔ e.Sound := by
  simp [Slot.Sound, Slot.Readable, Slot.expr?, Expr.Sound]

/-! ## Readers and records -/

/-- What the reader returns is of a kind. -/
def Gives {α : Type} (read : Wire.Reader α) (P : α → Prop) : Prop :=
  ∀ v x, v.Ordered → read v = .ok x → P x

def Wire.RecordSource.Ordered : Wire.RecordSource → Prop
  | .keyed fields => ∀ f ∈ fields, f.2.Ordered
  | .listed items => ∀ v ∈ items, v.Ordered

/-- What the record returns is of a kind. -/
def Yields {α : Type} (r : Wire.Record α) (P : α → Prop) : Prop :=
  ∀ source position x, source.Ordered → r.read source position = .ok x → P x

theorem bind_ok {ε α β : Type} {x : Except ε α} {f : α → Except ε β} {b : β} (h : x >>= f = .ok b) :
    ∃ a, x = .ok a ∧ f a = .ok b := by
  cases x with
  | error e => cases h
  | ok a => exact ⟨a, rfl, h⟩

theorem map_ok {ε α β : Type} {x : Except ε α} {f : α → β} {b : β} (h : f <$> x = .ok b) :
    ∃ a, x = .ok a ∧ f a = b := by
  cases x with
  | error e => cases h
  | ok a => exact ⟨a, rfl, Except.ok.inj h⟩

section Records

variable {α β : Type} {r : Wire.Record α} {read : Wire.Reader α} {P : α → Prop} {Q : β → Prop}

namespace Yields

theorem any : Yields r fun _ => True := fun _ _ _ _ _ => trivial

theorem pure {x : α} (h : P x) : Yields (Pure.pure x) P := by
  rintro _ _ _ - ⟨⟩
  exact h

theorem seq {s : Wire.Record (α → β)} (hs : Yields s fun f => ∀ a, P a → Q (f a))
    (hr : Yields r P) :
    Yields (s <*> r) Q := by
  intro source position x hsource h
  have h : Wire.Record.both (s.read source position) (r.read source (position + s.width)) = .ok x :=
    h
  rcases hf : s.read source position with e | f <;>
    rcases ha : r.read source (position + s.width) with e' | a <;>
    rw [hf, ha] at h <;> cases h
  exact hs source position f hsource hf a (hr source _ a hsource ha)

theorem map {f : α → β} (hr : Yields r P) (h : ∀ a, P a → Q (f a)) : Yields (f <$> r) Q :=
  (pure h).seq hr

theorem field {key : String} {absent : Option α} (hread : Gives read P)
    (habsent : ∀ a, absent = some a → P a) :
    Yields (Wire.Record.field key read absent) P := by
  intro source position x hsource h
  have hplaced {v : Json} {place : Nat} (hv : v.Ordered)
      (h : Wire.Record.placed place (read v) = .ok x) : P x := by
    rcases hx : read v with e | y <;> rw [hx] at h <;> cases h
    exact hread v _ hv hx
  cases source with
  | keyed fields =>
    simp only [Wire.Record.field] at h
    split at h
    · rename_i hget
      exact hplaced (hsource _ (Fields.mem_of_get? hget)) h
    · cases h
      exact habsent _ rfl
    · cases h
  | listed items =>
    simp only [Wire.Record.field] at h
    split at h
    · rename_i hget
      exact hplaced (hsource _ (List.mem_of_getElem? hget)) h
    · cases h
      exact habsent _ rfl
    · cases h

theorem required {key : String} (hread : Gives read P) : Yields (Wire.Record.required key read) P :=
  field hread nofun

theorem defaulted {key : String} {absent : α} (hread : Gives read P) (habsent : P absent) :
    Yields (Wire.Record.defaulted key read absent) P :=
  field hread fun _ ha => Option.some.inj ha ▸ habsent

theorem ofFields (hr : Yields r P) {fs : Fields} {x : α} (hfs : ∀ f ∈ fs, f.2.Ordered)
    (h : r.ofFields fs = .ok x) :
    P x := by
  rw [Wire.Record.ofFields] at h
  rcases hx : r.read (.keyed fs) 0 with e | y <;> rw [hx] at h <;> cases h
  exact hr (.keyed fs) 0 _ hfs hx

theorem ofItems (hr : Yields r P) {vs : List Json} {x : α} (hvs : ∀ v ∈ vs, v.Ordered)
    (h : r.ofItems vs = .ok x) :
    P x := by
  rw [Wire.Record.ofItems] at h
  split at h
  · cases h
  · rename_i hx
    split at h <;> cases h
    exact hr (.listed vs) 0 _ hvs hx

theorem ofJson (hr : Yields r P) : Gives r.ofJson P := by
  intro v x hv h
  cases hv with
  | object _ hfs => exact hr.ofFields hfs h
  | array hvs => exact hr.ofItems hvs h
  | _ => cases h

end Yields

theorem Gives.tagged {tag : Wire.Reader String} {record : String → Except ReadError (Wire.Record α)}
    (h : ∀ kind r, record kind = .ok r → Yields r P) : Gives (Wire.Read.tagged tag record) P := by
  intro v x hv hx
  cases hv with
  | @object fs _ hfs =>
    simp only [Wire.Read.tagged] at hx
    split at hx
    · obtain ⟨kind, -, hx⟩ := bind_ok hx
      obtain ⟨r, hr, hx⟩ := bind_ok hx
      exact (h kind r hr).ofFields (fun f hf => hfs f (List.mem_of_mem_filter hf)) hx
    · cases hx
  | @array vs hvs =>
    cases vs with
    | nil => cases hx
    | cons w vs =>
      obtain ⟨kind, -, hx⟩ := bind_ok hx
      obtain ⟨r, hr, hx⟩ := bind_ok hx
      exact (h kind r hr).ofItems (fun v hv => hvs v (List.mem_cons_of_mem _ hv)) hx
  | _ => cases hx

end Records

/-! ## Lists -/

theorem Json.Ordered.get? {v w : Json} (hv : v.Ordered) {key : String}
    (h : v.get? key = some w) : w.Ordered := by
  cases hv with
  | object _ hfs => exact hfs _ (Fields.mem_of_get? h)
  | _ => cases h

theorem Json.Ordered.unwrapValue {v : Json} (hv : v.Ordered) :
    (Wire.Read.unwrapValue v).Ordered := by
  cases hv with
  | @object fs hfs hvs =>
    simp only [Wire.Read.unwrapValue]
    split
    · exact .object hfs hvs
    · rcases hw : Fields.get? fs "value" with _ | w
      · exact .object hfs hvs
      · exact hvs _ (Fields.mem_of_get? hw)
  | null => exact .null
  | bool b => exact .bool b
  | number n => exact .number n
  | string s => exact .string s
  | array hvs => exact .array hvs

theorem mem_of_mapM {α : Type} {read : Wire.Reader α} {vs : List Json} {xs : List α}
    (h : vs.mapM read = .ok xs) {x : α} (hx : x ∈ xs) : ∃ v ∈ vs, read v = .ok x := by
  induction vs generalizing xs with
  | nil =>
    cases h
    cases hx
  | cons v vs ih =>
    rw [List.mapM_cons] at h
    obtain ⟨y, hy, h⟩ := bind_ok h
    obtain ⟨ys, hys, h⟩ := bind_ok h
    cases h
    rcases List.mem_cons.mp hx with rfl | hx
    · exact ⟨v, List.mem_cons_self, hy⟩
    · obtain ⟨w, hw, hread⟩ := ih hys hx
      exact ⟨w, List.mem_cons_of_mem _ hw, hread⟩

/-- Every slot of the part is sound. -/
def SoundPart {α : Type} [SizeOf α] [HasSlots α] (x : α) : Prop := AllSound (slots x)

theorem SoundPart.some {α : Type} [SizeOf α] [HasSlots α] {x : α} (h : SoundPart x) :
    SoundPart (some x) := by
  rwa [SoundPart, slots_some]

namespace Gives

variable {α : Type} [SizeOf α] [HasSlots α] {read : Wire.Reader α}

theorem mapM (hread : Gives read SoundPart) {vs : List Json} {xs : List α}
    (hvs : ∀ v ∈ vs, v.Ordered) (h : vs.mapM read = .ok xs) : SoundPart xs :=
  throughout_list.mpr fun _ hx =>
    let ⟨v, hv, hread'⟩ := mem_of_mapM h hx
    hread v _ (hvs v hv) hread'

theorem exprs {vs : List Json} {read : Wire.Reader Expr} (hread : Gives read SoundPart)
    (hvs : ∀ v ∈ vs, v.Ordered) {es : List Expr} (h : vs.mapM read = .ok es) : ∀ e ∈ es, e.Sound :=
  fun e he => allSound_expr.mp (throughout_list.mp (mapM hread hvs h) e he)

theorem list (hread : Gives read SoundPart) : Gives (Wire.Read.list read) SoundPart := by
  intro v xs hv h
  cases hv with
  | array hvs => exact mapM hread hvs h
  | _ => cases h

theorem oneOrMany (hread : Gives read SoundPart) : Gives (Wire.Read.oneOrMany read) SoundPart := by
  intro v xs hv h
  have hone (h : (do return [← read v] : Except ReadError (List α)) = .ok xs) : SoundPart xs := by
    obtain ⟨x, hx, h⟩ := bind_ok h
    cases h
    exact throughout_list.mpr (List.forall_mem_singleton.mpr (hread v x hv hx))
  unfold Wire.Read.oneOrMany at h
  split at h
  · cases h
    exact throughout_list.mpr nofun
  · cases hv with
    | array hvs => exact mapM hread hvs h
  · exact hone h

theorem list? (hread : Gives read SoundPart) : Gives (Wire.Read.list? read) SoundPart := by
  intro v xs hv h
  have hinner : ((v.get? "columns").getD v).Ordered := by
    rcases hw : v.get? "columns" with _ | w
    · exact hv
    · exact hv.get? hw
  unfold Wire.Read.list? at h
  generalize (v.get? "columns").getD v = w at h hinner
  split at h
  · cases h
    exact throughout_nil
  · cases hinner with
    | array hvs =>
      obtain ⟨ys, hys, rfl⟩ := map_ok h
      exact (mapM hread hvs hys).some
  · obtain ⟨x, hx, h⟩ := bind_ok h
    cases h
    exact SoundPart.some (throughout_list.mpr (List.forall_mem_singleton.mpr (hread _ x hinner hx)))

theorem optional (hread : Gives read SoundPart) : Gives (Wire.Read.optional read) SoundPart := by
  intro v x hv h
  unfold Wire.Read.optional at h
  split at h
  · cases h
    exact throughout_nil
  · obtain ⟨y, hy, rfl⟩ := map_ok h
    exact (hread v y hv hy).some

theorem firstOf (hread : Gives read SoundPart) : Gives (Wire.Read.firstOf read) SoundPart := by
  intro v x hv h
  unfold Wire.Read.firstOf at h
  split at h
  · cases h
  · cases hv with
    | array hvs => exact hread _ x (hvs _ List.mem_cons_self) h
  · exact hread v x hv h

theorem names? : Gives Wire.Read.names? fun x => AllSound (Slot.nameLists x) := by
  intro v x _ h
  obtain ⟨ns, -, h⟩ := bind_ok h
  split at h <;> cases h
  · exact throughout_nil
  · rename_i hne
    refine throughout_cons.mpr ⟨⟨fun _ => ?_, nofun⟩, throughout_nil⟩
    simpa [Slot.Readable] using hne

end Gives

/-! ## Shapes of limits -/

section Shapes

variable {E : Type} {read : Wire.Reader E} {shape : LimitShape E}

theorem limitFields_shape {fs : Fields} (h : Wire.Read.limitFields read fs = .ok (some shape)) :
    shape.Sound := by
  have hbare {v : Json} (h : (do return some (.bare (← read v)) : Except ReadError _) =
      .ok (some shape)) :
      shape.Sound := by
    obtain ⟨e, -, h⟩ := bind_ok h
    cases h
    trivial
  simp only [Wire.Read.limitFields] at h
  split at h
  · obtain ⟨count, hcount, h⟩ := bind_ok h
    obtain ⟨start, -, h⟩ := bind_ok h
    cases h
    cases count with
    | some count => trivial
    | none =>
      cases hfetch : Wire.Read.present fs "fetch" with
      | none => rfl
      | some v =>
        rw [hfetch] at hcount
        obtain ⟨_, -, hnone⟩ := map_ok hcount
        cases hnone
  · split at h
    · obtain ⟨es, -, h⟩ := bind_ok h
      cases h
      trivial
    · split at h
      · exact hbare h
      · split at h
        · cases h
        · cases h
        · exact hbare h

/-- Whatever a shape is read from, it has words only after a count. -/
theorem limitShape_shape {v : Json} (h : Wire.Read.limitShape read v = .ok (some shape)) :
    shape.Sound := by
  unfold Wire.Read.limitShape at h
  split at h
  · cases h
  · exact limitFields_shape h
  · obtain ⟨es, -, h⟩ := bind_ok h
    cases h
    trivial
  · obtain ⟨e, -, h⟩ := bind_ok h
    cases h
    trivial

end Shapes

/-! ## Expressions that nest -/

/-- The readers of what nests return sound trees, and only null is read as null. -/
structure Wire.Nested.Sound (inner : Wire.Nested) : Prop where
  expr : ∀ v e, v.Ordered → inner.expr v = .ok e →
    e.Sound ∧ (e.form = .null → v = .null) ∧ ∀ vs, e.form = .array vs → ∃ ws, v = .array ws
  query : Gives inner.query SoundPart

/-- The text of a number has a digit, a point or an exponent in it. -/
theorem Json.Number.text_ne_star (n : Json.Number) : n.text ≠ "*" := by
  have hother {s : String} {k : Char} (hne : k ≠ '*') (h : k ∈ s.toList) : s ≠ "*" := by
    rintro rfl
    exact hne (List.mem_singleton.mp h)
  cases n with
  | int i =>
    cases i with
    | ofNat n =>
      intro h
      have hrepr : n.repr = "*" := h
      have hdigits : Nat.toDigits 10 n = ['*'] := by simpa using congrArg String.toList hrepr
      have hstar : '*' ∈ Nat.toDigits 10 n := hdigits ▸ List.mem_singleton.mpr rfl
      exact absurd (Nat.isDigit_of_mem_toDigits (by decide) (by decide) hstar) (by decide)
    | negSucc n =>
      have hrepr : (Number.int (.negSucc n)).text = "-" ++ (n + 1).repr := rfl
      rw [hrepr]
      exact hother (k := '-') (by decide) (by simp)
  | float x =>
    have hmagnitude : '.' ∈ x.magnitudeText.toList ∨ 'e' ∈ x.magnitudeText.toList := by
      rw [Decimal.Binary64.magnitudeText]
      rcases x.shortest.parts with ⟨ds, e⟩
      split
      · exact .inl (by decide)
      · dsimp only
        split
        · split <;> simp
        · simp
    rcases hmagnitude with h | h
    · exact hother (k := '.') (by decide) (by simp [Json.Number.text, Decimal.Binary64.text, h])
    · exact hother (k := 'e') (by decide) (by simp [Json.Number.text, Decimal.Binary64.text, h])
namespace Wire.Nested.Sound

variable {inner : Wire.Nested} (hi : inner.Sound)
include hi

theorem part : Gives inner.expr SoundPart := fun v e hv h => allSound_expr.mpr (hi.expr v e hv h).1

theorem optional : Gives (Wire.Read.optional inner.expr) fun x => AllSound (Slot.optionals x) := by
  intro v x hv h
  unfold Wire.Read.optional at h
  split at h
  · cases h
    exact throughout_nil
  · rename_i hnull
    obtain ⟨e, he, rfl⟩ := map_ok h
    obtain ⟨hsound, hform, -⟩ := hi.expr v e hv he
    exact throughout_cons.mpr ⟨⟨fun _ heq => hnull (hform heq),
      fun _ heq => Option.some.inj heq ▸ hsound⟩, throughout_nil⟩

theorem wrappedExpr : Gives inner.wrappedExpr fun x => AllSound (Slot.wrappings x) := by
  have hsome {v : Json} {e : Expr} (hv : v.Ordered) (hnull : v ≠ .null) (h : inner.expr v = .ok e) :
      AllSound (Slot.wrappings (some e)) := by
    obtain ⟨hsound, hform, -⟩ := hi.expr v e hv h
    exact throughout_cons.mpr
      ⟨⟨fun hplain => ⟨fun heq => hnull (hform heq), hplain⟩,
        fun _ heq => Option.some.inj heq ▸ hsound⟩, throughout_nil⟩
  intro v x hv h
  unfold Wire.Nested.wrappedExpr at h
  split at h
  · cases h
    exact throughout_nil
  · rename_i hnull
    split at h
    · rename_i fields hget
      obtain ⟨e, he, rfl⟩ := map_ok h
      exact hsome (hv.get? hget) nofun he
    · obtain ⟨e, he, rfl⟩ := map_ok h
      exact hsome hv hnull he

theorem insertSource : Gives (Wire.Read.optional inner.insertSource) SoundPart := by
  intro v x hv h
  unfold Wire.Read.optional at h
  split at h
  · cases h
    exact throughout_nil
  · rename_i hnull
    obtain ⟨s, hs, rfl⟩ := map_ok h
    rw [SoundPart, slots_some]
    unfold Wire.Nested.insertSource at hs
    split at hs
    · obtain ⟨es, hes, rfl⟩ := map_ok hs
      cases hv with
      | array hvs => exact Gives.mapM hi.part hvs hes
    · rename_i harray
      split at hs
      · split at hs
        · rename_i hget
          obtain ⟨es, hes, rfl⟩ := map_ok hs
          cases hv.get? hget with
          | array hvs => exact Gives.mapM hi.part hvs hes
        · cases hs
          exact throughout_nil
      · obtain ⟨e, he, rfl⟩ := map_ok hs
        obtain ⟨hsound, hform, hlist⟩ := hi.expr v e hv he
        refine throughout_cons.mpr
          ⟨⟨fun hplain => ⟨fun heq => hnull (hform heq), fun vs heq => ?_, hplain⟩,
            fun _ heq => Option.some.inj heq ▸ hsound⟩, throughout_nil⟩
        obtain ⟨ws, rfl⟩ := hlist vs heq
        exact harray ws rfl

theorem columnName : Gives inner.columnName SoundPart := by
  intro v x hv h
  unfold Wire.Nested.columnName at h
  split at h
  · cases h
    rw [ColumnName.ofText]
    split
    · exact throughout_nil
    · rename_i hne
      exact throughout_cons.mpr ⟨⟨fun _ => hne, fun _ he => by cases he⟩, throughout_nil⟩
  · rename_i n
    cases h
    exact throughout_cons.mpr ⟨⟨fun _ => n.text_ne_star, fun _ he => by cases he⟩, throughout_nil⟩
  · rename_i fs
    obtain ⟨e, he, rfl⟩ := map_ok h
    have hinner : ((Fields.get? fs "expr").getD (.object fs)).Ordered := by
      rcases hw : Fields.get? fs "expr" with _ | w
      · exact hv
      · exact hv.get? hw
    exact hi.part _ e hinner he
  · cases h

/-! ## Parts of expressions -/

theorem columnRef : Yields inner.columnRef SoundPart := by
  refine .seq (.seq (.seq (.seq (.seq (.map .any ?_) .any) .any) (.required hi.columnName)) .any)
    .any
  intro _ _ _ _ _ _ _ hcolumn _ _ _ _
  exact hcolumn

theorem orderItem : Yields inner.orderItem SoundPart := by
  refine .seq (.seq (.map (.required hi.part) ?_) .any) .any
  intro _ hexpr _ _ _ _
  exact hexpr

theorem orderItems? {key : String} : Yields (inner.orderItems? key) SoundPart :=
  .defaulted (.list? hi.orderItem.ofJson) throughout_nil

theorem windowSpec : Yields inner.windowSpec SoundPart := by
  refine .seq (.seq (.seq (.map .any ?_) hi.orderItems?) hi.orderItems?) .any
  intro _ _ _ hpartition _ horder _ _
  exact throughout_append.mpr ⟨hpartition, horder⟩

theorem over? : Yields inner.over? SoundPart :=
  .defaulted (.optional hi.windowSpec.ofJson) throughout_nil

theorem namedSpec : Gives inner.namedSpec SoundPart := by
  intro v w hv h
  have hinner : ((v.get? "window_specification").getD v).Ordered := by
    rcases hw : v.get? "window_specification" with _ | w
    · exact hv
    · exact hv.get? hw
  unfold Wire.Nested.namedSpec at h
  split at h
  · cases h
    exact throughout_nil
  · exact hi.windowSpec.ofJson _ w hinner h

theorem namedWindow : Yields inner.namedWindow SoundPart := by
  refine .seq (.map .any ?_) (.required hi.namedSpec)
  intro _ _ _ hspec
  exact hspec

theorem namedWindows : Yields inner.namedWindows SoundPart :=
  .defaulted (.oneOrMany hi.namedWindow.ofJson) throughout_nil

theorem exprs {key : String} : Yields (Wire.Record.many key inner.expr) SoundPart :=
  .defaulted (.oneOrMany hi.part) throughout_nil

theorem dataType : Yields inner.dataType SoundPart := by
  refine .seq (.seq (.seq (.seq (.seq (.map .any ?_) .any) .any) hi.exprs) .any) .any
  intro _ _ _ _ _ _ _ hargs _ _ _ _
  exact hargs

theorem columnDefinition : Yields inner.columnDefinition SoundPart := by
  have hwrapped {key : String} : Yields (Wire.Record.defaulted key inner.wrappedExpr none) fun x =>
      AllSound (Slot.wrappings x) := .defaulted hi.wrappedExpr throughout_nil
  refine .seq (.seq (.seq (.seq (.seq (.seq (.seq (.seq (.map (.required hi.columnRef.ofJson) ?_)
    (.required hi.dataType.ofJson)) .any) hwrapped) .any) .any) .any) hwrapped) .any
  intro _ hcolumn _ htype _ _ _ hdefault _ _ _ _ _ _ _ hcomment _ _
  exact throughout_append.mpr ⟨throughout_append.mpr ⟨throughout_append.mpr ⟨hcolumn, htype⟩,
    hdefault⟩, hcomment⟩

theorem caseArm : Gives inner.caseArm SoundPart := by
  refine .tagged fun kind r hr => ?_
  split at hr <;> cases hr
  · refine .seq (.map (.required hi.part) ?_) (.required hi.part)
    intro _ hcondition _ hresult
    exact throughout_append.mpr ⟨hcondition, hresult⟩
  · exact .map (.required hi.part) fun _ hresult => hresult

/-! ## Parts of queries -/

theorem optional? {key : String} :
    Yields (Wire.Record.optional key inner.expr) fun x => AllSound (Slot.optionals x) :=
  .defaulted hi.optional throughout_nil

theorem table : Yields inner.table SoundPart := by
  refine .seq (.seq (.seq (.seq
    (.seq (.seq (.seq (.seq (.seq (.map .any ?_) .any) .any) hi.optional?) .any) .any)
    hi.optional?) (.defaulted .names? throughout_nil)) .any) .any
  intro _ _ _ _ _ _ _ hexpr _ _ _ _ _ hcondition _ husing _ _ _ _
  exact throughout_append.mpr ⟨throughout_append.mpr ⟨hexpr, hcondition⟩, husing⟩

theorem tables? {key : String} : Yields (inner.tables? key) SoundPart :=
  .defaulted (.list? hi.table.ofJson) throughout_nil

theorem tables {key : String} : Yields (inner.tables key) SoundPart :=
  .required (.oneOrMany hi.table.ofJson)

theorem column : Yields inner.column SoundPart := by
  refine .seq (.map (.required hi.part) ?_) .any
  intro _ hexpr _ _
  exact hexpr

theorem columns : Gives inner.columns SoundPart := by
  intro v x hv h
  unfold Wire.Nested.columns at h
  split at h
  · cases h
    exact throughout_nil
  · obtain ⟨items, hitems, rfl⟩ := map_ok h
    cases hv with
    | array hvs => exact Gives.mapM hi.column.ofJson hvs hitems
  · obtain ⟨item, hitem, h⟩ := bind_ok h
    cases h
    cases hv with
    | object _ hfs =>
      exact throughout_list.mpr (List.forall_mem_singleton.mpr (hi.column.ofFields hfs hitem))
  · split at h <;> cases h
    exact throughout_nil

theorem returning? : Yields inner.returning? SoundPart := by
  have hcolumns : Yields (Wire.Record.defaulted "columns" inner.columns .all) SoundPart :=
    .defaulted hi.columns throughout_nil
  exact .defaulted (.optional hcolumns.ofJson) throughout_nil

theorem cte : Yields inner.cte SoundPart := by
  refine .seq (.seq (.seq (.map .any ?_) (.defaulted .names? throughout_nil)) (.required hi.part))
    .any
  intro _ _ _ hcolumns _ hbody _ _
  exact throughout_append.mpr ⟨hcolumns, hbody⟩

theorem withs? : Yields inner.withs? SoundPart := .defaulted (.list? hi.cte.ofJson) throughout_nil

/-! ## Limits -/

theorem limitPart {part : Option Json} (hpart : ∀ v, part = some v → v.Ordered) {e : Option Expr}
    (h : Wire.Read.limitPart inner.expr part = .ok e) : ∀ x, e = some x → x.Sound := by
  unfold Wire.Read.limitPart at h
  split at h
  · obtain ⟨y, hy, rfl⟩ := map_ok h
    rintro x ⟨⟩
    exact (hi.expr _ y (hpart _ rfl).unwrapValue hy).1
  · cases h
    nofun

theorem limitFields {fs : Fields} (hfs : (Json.object fs).Ordered) {shape : LimitShape Expr}
    (h : Wire.Read.limitFields inner.expr fs = .ok (some shape)) : ∀ e ∈ shape.values, e.Sound := by
  have hpresent {key : String} {v : Json} (hv : Wire.Read.present fs key = some v) : v.Ordered :=
    hfs.get? (Option.filter_eq_some_iff.mp hv).1
  have hbare {v : Json} (hv : v.Ordered)
      (h : (do return some (.bare (← inner.expr v)) : Except ReadError _) =
      .ok (some shape)) : ∀ e ∈ shape.values, e.Sound := by
    obtain ⟨e, he, h⟩ := bind_ok h
    cases h
    exact List.forall_mem_singleton.mpr (hi.expr v e hv he).1
  simp only [Wire.Read.limitFields] at h
  split at h
  · obtain ⟨count, hcount, h⟩ := bind_ok h
    obtain ⟨start, hstart, h⟩ := bind_ok h
    cases h
    have hcounts := hi.limitPart (fun v hv => hpresent hv) hcount
    have hstarts := hi.limitPart (fun v hv => hpresent hv) hstart
    intro e he
    rcases List.mem_append.mp he with he | he
    · exact hcounts e (Option.mem_toList.mp he)
    · exact hstarts e (Option.mem_toList.mp he)
  · split at h
    · rename_i hget
      obtain ⟨es, hes, h⟩ := bind_ok h
      cases h
      cases hfs.get? hget with
      | array hvs => exact Gives.exprs hi.part hvs hes
    · split at h
      · exact hbare hfs h
      · split at h
        · cases h
        · cases h
        · rename_i hget
          exact hbare (hfs.get? hget) h

theorem limitShape {v : Json} (hv : v.Ordered) {shape : LimitShape Expr}
    (h : Wire.Read.limitShape inner.expr v = .ok (some shape)) : ∀ e ∈ shape.values, e.Sound := by
  unfold Wire.Read.limitShape at h
  split at h
  · cases h
  · exact hi.limitFields hv h
  · obtain ⟨es, hes, h⟩ := bind_ok h
    cases h
    have hunwrapping : Gives (fun v => inner.expr (Wire.Read.unwrapValue v)) SoundPart :=
      fun v e hv he => hi.part _ e hv.unwrapValue he
    cases hv with
    | array hvs => exact Gives.exprs hunwrapping hvs hes
  · obtain ⟨e, he, h⟩ := bind_ok h
    cases h
    exact List.forall_mem_singleton.mpr (hi.expr v e hv he).1

theorem limit? : Yields inner.limit? SoundPart := by
  refine .defaulted (fun v x hv h => ?_) throughout_nil
  obtain ⟨shape?, hshape, h⟩ := bind_ok h
  cases h
  rcases shape? with _ | shape
  · exact throughout_nil
  · have hvalues := hi.limitShape hv hshape
    rcases hl : shape.normalize with _ | l
    · rw [Option.bind_some, hl]
      exact throughout_nil
    · rw [Option.bind_some, hl]
      obtain ⟨hsettled, hmem⟩ := LimitShape.normalize_settled (limitShape_shape hshape) hl
      have hpart {x : Option Expr} (hx : ∀ e, x = some e → e ∈ shape.values) :
          AllSound (slots x) := by
        cases x with
        | none => exact throughout_nil
        | some e => exact SoundPart.some (allSound_expr.mpr (hvalues e (hx e rfl)))
      have hslots : AllSound (slots l) :=
        throughout_cons.mpr ⟨⟨fun _ => hsettled, nofun⟩, throughout_append.mpr
        ⟨hpart fun e he => hmem e (.inl he), hpart fun e he => hmem e (.inr he)⟩⟩
      exact SoundPart.some hslots

/-! ## Queries and insertions -/

theorem select : Yields inner.select SoundPart := by
  refine .seq (.seq
    (.seq (.seq (.seq (.seq (.seq (.seq (.seq (.seq (.seq (.seq (.map hi.withs? ?_) .any)
    (.defaulted hi.columns throughout_nil)) hi.tables?) hi.optional?)
    (.defaulted (.list? hi.part) throughout_nil)) hi.optional?)
    (.defaulted (.optional hi.namedWindows.ofJson) throughout_nil)) hi.orderItems?) hi.limit?) .any)
    (.defaulted (.optional hi.query) throughout_nil)) .any
  intro _ hwiths _ _ _ hcolumns _ htables _ hcondition _ hgroupBy _ hhaving _ hwindows _ horderBy
    _ hlimit _ _ next hnext _ _
  have hrest : AllSound (slots ((next.map fun q => q.head :: q.rest).getD [])) := by
    cases next with
    | none => exact throughout_nil
    | some q => exact (slots_some q) ▸ hnext
  simp only [SoundPart, slots_query, slots_select, throughout_append]
  exact ⟨⟨⟨⟨⟨⟨⟨⟨⟨hwiths, hcolumns⟩, htables⟩, hcondition⟩, hgroupBy⟩, hhaving⟩, hwindows⟩,
    horderBy⟩, hlimit⟩, hrest⟩

theorem assignment : Yields inner.assignment SoundPart := by
  refine .seq (.seq (.map .any ?_) (.required hi.part)) .any
  intro _ _ _ hvalue _ _
  exact hvalue

theorem assignments : Yields inner.assignments SoundPart :=
  .required (.oneOrMany hi.assignment.ofJson)

theorem insert : Yields inner.insert SoundPart := by
  refine .seq (.seq (.seq (.seq (.seq (.map hi.tables ?_) (.defaulted .names? throughout_nil))
    (.defaulted hi.insertSource throughout_nil)) .any)
    (.defaulted (.optional hi.assignments.ofJson) throughout_nil)) hi.returning?
  intro _ htables _ hcolumns _ hsource _ _ _ hduplicate _ hreturning
  simp only [SoundPart, slots_insert, throughout_append]
  exact ⟨⟨⟨⟨htables, hcolumns⟩, hsource⟩, hduplicate⟩, hreturning⟩

/-! ## Nodes -/

end Wire.Nested.Sound

/-- A node of a known kind whose slots are sound. -/
def Node.Sound (n : Node Expr) : Prop := AllSound n.slots ∧ ∀ v, n ≠ .unknown v

theorem yields_textLiteral (kind : TextKind) :
    Yields (Wire.Nested.textLiteral kind) Node.Sound := by
  refine .seq (.map .any ?_) .any
  intro _ _ _ _
  exact ⟨throughout_nil, nofun⟩

namespace Wire.Nested.Sound

variable {inner : Wire.Nested} (hi : inner.Sound)
include hi

theorem aggregate : Yields inner.aggregate Node.Sound := by
  have hargs : Yields inner.aggregateArgs fun x =>
      x.1.Sound ∧ SoundPart x.2.2.1 ∧ AllSound (Slot.optionals x.2.2.2) := by
    refine .seq (.seq (.seq (.map (.required hi.part) ?_) .any) hi.orderItems?) hi.optional?
    intro _ harg _ _ _ horderBy _ hseparator
    exact ⟨allSound_expr.mp harg, horderBy, hseparator⟩
  refine .seq (.seq (.seq (.map .any ?_) (.required hargs.ofJson)) hi.over?) .any
  rintro _ _ ⟨arg, _, orderBy, separator⟩ ⟨harg, horderBy, hseparator⟩ _ hwindow _ _
  exact ⟨throughout_append.mpr ⟨allSound_expr.mpr harg, throughout_append.mpr
    ⟨throughout_append.mpr ⟨horderBy, hseparator⟩, hwindow⟩⟩, nofun⟩

theorem mapEntry : Yields inner.mapEntry SoundPart := by
  refine .seq (.map (.required hi.part) ?_) (.required hi.part)
  intro _ hkey _ hvalue
  exact throughout_append.mpr ⟨hkey, hvalue⟩

theorem nodeRecord {kind : String} {r : Wire.Record (Node Expr)}
    (h : inner.nodeRecord? kind = some r) :
    Yields r Node.Sound := by
  have hexpr {key : String} : Yields (Wire.Record.required key inner.expr) SoundPart :=
    .required hi.part
  unfold Wire.Nested.nodeRecord? at h
  -- One case for each name of a kind, in the order of the kinds.
  split at h <;> cases h
  · exact .map hi.columnRef fun _ hcolumn => ⟨hcolumn, nofun⟩
  · refine .seq (.seq (.seq (.map .any ?_) hexpr) hexpr) .any
    intro _ _ _ hleft _ hright _ _
    exact ⟨throughout_append.mpr ⟨hleft, hright⟩, nofun⟩
  · refine .seq (.seq (.map .any ?_) hexpr) .any
    intro _ _ _ hoperand _ _
    exact ⟨hoperand, nofun⟩
  · refine .seq (.seq (.seq (.seq (.map .any ?_) hi.optional?) hi.over?) .any) .any
    intro _ _ _ hargs _ hwindow _ _ _ _
    exact ⟨throughout_append.mpr ⟨hargs, hwindow⟩, nofun⟩
  · exact hi.aggregate
  · refine .seq (.seq (.seq (.seq (.map .any ?_) hexpr) .any)
      (.required (.firstOf hi.dataType.ofJson))) .any
    intro _ _ _ hoperand _ _ _ htarget _ _
    exact ⟨throughout_append.mpr ⟨hoperand, htarget⟩, nofun⟩
  · refine .seq (.seq (.map hi.optional? ?_) (.required (.list hi.caseArm))) .any
    intro _ hsubject _ harms _ _
    exact ⟨throughout_append.mpr ⟨hsubject, harms⟩, nofun⟩
  · refine .seq (.seq (.map .any ?_) hi.optional?) (.required hi.windowSpec.ofJson)
    intro _ _ _ hargs _ hwindow
    exact ⟨throughout_append.mpr ⟨hargs, hwindow⟩, nofun⟩
  · refine .seq (.map hexpr ?_) (.required (.oneOrMany hi.part))
    intro _ hbase _ hindices
    exact ⟨throughout_append.mpr ⟨hbase, hindices⟩, nofun⟩
  · refine .seq (.seq (.map hi.exprs ?_) .any) .any
    intro _ hitems _ _ _ _
    exact ⟨hitems, nofun⟩
  · exact .map hi.select fun _ hquery => ⟨hquery, nofun⟩
  · exact .map .any fun _ _ => ⟨throughout_nil, nofun⟩
  · refine .seq (.map .any ?_) (.defaulted (.oneOrMany hi.mapEntry.ofJson) throughout_nil)
    intro _ _ _ hentries
    exact ⟨hentries, nofun⟩
  · refine .seq (.seq (.seq (.seq (.map .any ?_)
      (.defaulted (.oneOrMany hi.columnRef.ofJson) throughout_nil)) .any) hexpr) .any
    intro _ _ _ hcolumns _ _ _ hphrase _ _
    exact ⟨throughout_append.mpr ⟨hcolumns, hphrase⟩, nofun⟩
  · exact .map hi.columnDefinition fun _ hdefinition => ⟨hdefinition, nofun⟩
  · refine .seq (.map hexpr ?_) .any
    intro _ hamount _ _
    exact ⟨hamount, nofun⟩
  · refine .required (Yields.ofJson (.seq (.map .any ?_) hexpr))
    intro _ _ _ hsource
    exact ⟨hsource, nofun⟩
  · refine .seq (.seq (.map hi.optional? ?_) .any) .any
    intro _ hoperand _ _ _ _
    exact ⟨hoperand, nofun⟩
  · exact .map hi.dataType fun _ htype => ⟨htype, nofun⟩
  · refine .seq (.seq (.map hexpr ?_) .any) hexpr
    intro _ hleft _ _ _ hright
    exact ⟨throughout_append.mpr ⟨hleft, hright⟩, nofun⟩
  · refine .seq (.seq (.map .any ?_) .any) hi.exprs
    intro _ _ _ _ _ hitems
    exact ⟨hitems, nofun⟩
  · refine .seq (.map .any ?_) hi.exprs
    intro _ _ _ hitems
    exact ⟨hitems, nofun⟩
  · refine .seq (.map .any ?_) hexpr
    intro _ _ _ hbody
    exact ⟨hbody, nofun⟩
  · exact .map hexpr fun _ hoperand => ⟨hoperand, nofun⟩
  · refine .seq (.map .any ?_) hi.exprs
    intro _ _ _ hitems
    exact ⟨hitems, nofun⟩
  · refine .seq (.map .any ?_) hexpr
    intro _ _ _ hoperand
    exact ⟨hoperand, nofun⟩
  · refine .required (Yields.ofJson (.seq (.seq (.map hexpr ?_) hexpr) hi.optional?))
    intro _ hkey _ hvalue _ honNull
    exact ⟨throughout_append.mpr ⟨hkey, throughout_append.mpr ⟨hvalue, honNull⟩⟩, nofun⟩
  · refine .seq (.map (.required (Yields.ofJson hexpr)) ?_) hi.over?
    intro _ harg _ hwindow
    exact ⟨throughout_append.mpr ⟨harg, hwindow⟩, nofun⟩
  · refine .seq (.seq (.seq (.seq (.map hi.optional? ?_) hi.optional?) hi.optional?) hi.optional?)
      hi.optional?
    intro _ hinput _ hpath _ houter _ hrecursive _ hmode
    exact ⟨throughout_append.mpr ⟨throughout_append.mpr
      ⟨throughout_append.mpr ⟨throughout_append.mpr
      ⟨hinput, hpath⟩, houter⟩, hrecursive⟩, hmode⟩, nofun⟩
  · refine .seq (.seq (.map .any ?_) hexpr) hi.optional?
    intro _ _ _ hargs _ halias
    exact ⟨throughout_append.mpr ⟨hargs, halias⟩, nofun⟩
  · refine .required (Yields.ofJson (.seq (.seq (.map .any ?_) .any) hexpr))
    intro _ _ _ _ e hvalue
    have hsound : e.Sound := allSound_expr.mp hvalue
    exact ⟨throughout_cons.mpr ⟨⟨fun _ => trivial, fun _ he => Option.some.inj he ▸ hsound⟩,
      throughout_nil⟩, nofun⟩
  · exact .map hi.namedWindows fun _ hwindows => ⟨hwindows, nofun⟩
  · exact .map .any fun _ _ => ⟨throughout_nil, nofun⟩
  · exact .map hi.insert fun _ hinsert => ⟨hinsert, nofun⟩
  · exact .map (.defaulted (.oneOrMany hi.table.ofJson) throughout_nil) fun _ htables =>
      ⟨htables, nofun⟩
  · exact .map hexpr fun _ hinner => ⟨hinner, nofun⟩
  · refine .seq (.map .any ?_) .any
    intro _ _ _ _
    exact ⟨throughout_nil, nofun⟩
  · exact yields_textLiteral .bigint
  · exact yields_textLiteral .string
  · exact yields_textLiteral .string
  · exact yields_textLiteral .string
  · exact yields_textLiteral .doubleQuoted
  · exact yields_textLiteral .backtickQuoted
  · exact yields_textLiteral .hex
  · refine .seq (.map .any ?_) .any
    intro _ _ _ _
    exact ⟨throughout_nil, nofun⟩
  · refine .seq (.map .any ?_) .any
    intro _ _ _ _
    exact ⟨throughout_nil, nofun⟩
  · exact .pure ⟨throughout_nil, nofun⟩
  · exact .pure ⟨throughout_nil, nofun⟩
  · exact yields_textLiteral .param
  · exact yields_textLiteral .verbatim
  · exact yields_textLiteral .word

end Wire.Nested.Sound

/-! ## Expressions -/

/-- The names of the kinds that have a meaning. -/
def nodeKinds : List String :=
  ["column_ref", "binary_expr", "unary_expr", "function", "aggr_func", "cast", "case",
    "window_func", "array_access", "expr_list", "select", "var", "map_object", "fulltext_search",
    "column_definition", "interval", "extract", "collate", "datatype", "assign", "array", "struct",
    "lambda", "unnest", "json", "json_visitor", "json_object_arg", "any_value", "flatten",
    "tablefunc", "func_arg", "window", "show", "insert", "tables", "expr", "number", "bigint",
    "string", "single_quote_string", "natural_string", "double_quote_string",
    "backticks_quote_string", "hex_string", "bool", "boolean", "null", "star", "param", "origin",
    "default"]

theorem mem_nodeKinds {inner : Wire.Nested} {kind : String} {r : Wire.Record (Node Expr)}
    (h : inner.nodeRecord? kind = some r) : kind ∈ nodeKinds := by
  unfold Wire.Nested.nodeRecord? at h
  split at h <;> cases h <;> decide

theorem isSome_nodeRecord (inner : Wire.Nested) :
    ∀ kind ∈ nodeKinds, (inner.nodeRecord? kind).isSome = true := by
  simp only [nodeKinds, List.forall_mem_cons]
  and_intros
  all_goals first | rfl | nofun
/-- A node of a known kind is written as an object. -/
theorem Expr.form_known {n : Node Expr} (h : ∀ v, n ≠ .unknown v) :
    ∃ gs, (Expr.mk n).form = .object gs := by
  obtain ⟨gs, hgs, -⟩ := Json.arranges_canonical.some_field
    (("type", .string n.kind) :: (n.map Expr.toJson).toFields)
  exact ⟨gs, by rw [form, toJson_known h, Wire.tagged, hgs]⟩

/-- Only null stays null when the fields of nested `ast` objects move up. -/
theorem Json.eq_null_of_hoist {v : Json} (h : v.hoist = .null) : v = .null := by
  cases v with
  | null => rfl
  | _ => cases h

/-- Only an array stays an array when the fields of nested `ast` objects move up. -/
theorem Json.eq_array_of_hoist {v : Json} (vs : List Json) (h : v.hoist = .array vs) :
    ∃ ws, v = .array ws := by
  cases v with
  | array ws => exact ⟨ws, rfl⟩
  | _ => cases h

/-- Readers that rely on sound readers are sound. -/
theorem Wire.Nested.Sound.step {inner outer : Wire.Nested} (hi : inner.Sound)
    (hexpr : ∀ v, outer.expr v = inner.readExpr v)
    (hquery : ∀ v, outer.query v = inner.readQuery v) : outer.Sound where
  expr v e hv h := by
    rw [hexpr, Wire.Nested.readExpr] at h
    rcases htag : v.hoist.tag?.bind inner.nodeRecord? with _ | r
    · simp only [htag] at h
      cases h
      have hform : (Expr.mk (.unknown v.hoist)).form = v.hoist := by
        rw [Expr.form, Expr.toJson_mk]
        exact hv.hoist.canonical_eq
      have hunknown (other : Wire.Nested) : v.hoist.tag?.bind other.nodeRecord? = none := by
        rcases hkind : v.hoist.tag? with _ | kind
        · rfl
        · rw [hkind, Option.bind_some] at htag
          rw [Option.bind_some]
          rcases hother : other.nodeRecord? kind with _ | r
          · rfl
          · have hsome := isSome_nodeRecord inner kind (mem_nodeKinds hother)
            rw [htag] at hsome
            cases hsome
      refine ⟨throughout_mk.mpr (throughout_cons.mpr ⟨⟨fun _ => ?_, fun _ he => ?_⟩,
        throughout_nil⟩), ?_⟩
      · exact ⟨hv.hoist.canonical_eq, hv.hoist_hoist, hunknown⟩
      · cases he
      · rw [hform]
        exact ⟨Json.eq_null_of_hoist, Json.eq_array_of_hoist⟩
    · simp only [htag] at h
      obtain ⟨n, hn, rfl⟩ := map_ok h
      obtain ⟨kind, -, hr⟩ := Option.bind_eq_some_iff.mp htag
      obtain ⟨hsound, hknown⟩ := (hi.nodeRecord hr).ofJson _ n hv.hoist hn
      obtain ⟨gs, hgs⟩ := Expr.form_known hknown
      rw [hgs]
      refine ⟨throughout_mk.mpr hsound, fun hnull => ?_, fun _ harray => ?_⟩
      · cases hnull
      · cases harray
  query v q hv h := by
    rw [hquery] at h
    exact hi.select.ofJson v q hv h

theorem Wire.nested_sound (depth : Nat) : (Wire.nested depth).Sound := by
  induction depth with
  | zero => exact ⟨fun _ _ _ h => (by cases h), fun _ _ _ h => (by cases h)⟩
  | succ depth ih => exact ih.step (fun _ => rfl) fun _ => rfl

/-- An expression that is read from a value is sound. -/
theorem Expr.ofJson_sound {v : Json} {e : Expr} (hv : v.Ordered)
    (h : Expr.ofJson v = .ok e) : e.Sound :=
  ((Wire.nested_sound (v.depth + 2)).expr v e hv h).1

end SqlWeave
