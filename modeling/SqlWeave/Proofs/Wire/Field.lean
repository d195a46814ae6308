import SqlWeave.Proofs.Wire.Arrangement
import SqlWeave.Wire.Statement
import SqlWeave.Wire.Writer

/-! Reading back what was written, field by field. A record is read from the fields that were
written for it whatever other fields stand beside them and whatever their order, so records are put
together from fields with distinct keys. -/

namespace SqlWeave

open Json (Fields depthFields depthItems)

/-- In the arrangement `c` the value `v` is read as `x`, unless it is nested deeper than `depth`. -/
def Recovers {α : Type} (c : Json → Json) (depth : Nat) (read : Wire.Reader α) (v : Json)
    (x : α) : Prop :=
  (c v).depth ≤ depth → read (c v) = .ok x

/-- From the fields `fs`, which have some of the keys `ks`, the record is read as `x`, also among
other fields, as long as no two of the keys are the same. -/
structure Reads {α : Type} (c : Json → Json) (depth : Nat) (ks : List String) (r : Wire.Record α)
    (fs : Fields) (x : α) : Prop where
  keys : (fs.map Prod.fst).Sublist ks
  read : ks.Nodup → ∀ gs : Fields, (∀ key ∈ ks, gs.get? key = (fs.get? key).map c) →
    depthFields gs ≤ depth →
    ∀ position, r.read (.keyed gs) position = .ok x

variable {α β : Type} {c : Json → Json} {depth : Nat} {ks ls : List String}

/-! ## Records -/

namespace Reads

variable {r : Wire.Record α} {fs gs : Fields} {x : α}

theorem pure (x : α) : Reads c depth [] (Pure.pure x) [] x :=
  ⟨List.Sublist.refl _, fun _ _ _ _ _ => rfl⟩

theorem seq {s : Wire.Record (α → β)} {f : α → β} (hf : Reads c depth ks s fs f)
    (hx : Reads c depth ls r gs x) :
    Reads c depth (ks ++ ls) (s <*> r) (fs ++ gs) (f x) where
  keys := by
    rw [List.map_append]
    exact hf.keys.append hx.keys
  read hnodup hs hkeys hdepth position := by
    obtain ⟨hks, hls, hne⟩ := List.nodup_append.mp hnodup
    have hf' := hf.read hks hs (fun key hkey => by
      have hnone : gs.get? key = none :=
        Fields.get?_eq_none fun hmem => hne key hkey key (hx.keys.subset hmem) rfl
      rw [hkeys key (List.mem_append_left _ hkey), Fields.get?_append, hnone, Option.or_none])
        hdepth position
    have hx' := hx.read hls hs (fun key hkey => by
      have hnone : fs.get? key = none :=
        Fields.get?_eq_none fun hmem => hne key (hf.keys.subset hmem) key hkey rfl
      rw [hkeys key (List.mem_append_right _ hkey), Fields.get?_append, hnone, Option.none_or])
        hdepth
      (position + s.width)
    show Wire.Record.both _ _ = _
    rw [hf', hx']
    rfl

theorem map (f : α → β) (h : Reads c depth ks r fs x) : Reads c depth ks (f <$> r) fs (f x) :=
  (Reads.pure f).seq h

/-- One field, if it is written at all. -/
theorem field {key : String} {read : Wire.Reader α} {absent : Option α} (v : Option Json)
    (hv : ∀ w, v = some w → Recovers c depth read w x) (hnone : v = none → absent = some x) :
    Reads c depth [key] (Wire.Record.field key read absent) (Wire.value? key v) x where
  keys := by
    cases v
    · exact List.nil_sublist _
    · exact List.Sublist.refl _
  read _ gs hkeys hdepth position := by
    have hget : gs.get? key = v.map c := by
      rw [hkeys key List.mem_cons_self]
      cases v with
      | none => rfl
      | some w => simp [Wire.value?, Fields.get?_cons]
    cases v with
    | none =>
      rw [Option.map_none] at hget
      simp only [Wire.Record.field, hget, hnone rfl]
    | some w =>
      rw [Option.map_some] at hget
      have hread := hv w rfl (Nat.le_trans (Fields.depth_of_get? hget) hdepth)
      simp only [Wire.Record.field, hget, Wire.Record.placed, hread]
      rfl

theorem required {k : String} {read : Wire.Reader α} {v : Json} (h : Recovers c depth read v x) :
    Reads c depth [k] (Wire.Record.required k read) [(k, v)] x :=
  field (some v) (by rintro _ ⟨⟩; exact h) nofun

theorem defaulted {key : String} {read : Wire.Reader α} {absent : α} {v : Json}
    (h : Recovers c depth read v x) :
    Reads c depth [key] (Wire.Record.defaulted key read absent) [(key, v)] x :=
  field (some v) (by rintro _ ⟨⟩; exact h) nofun

/-! ### Objects -/

variable (hc : Json.Arranges c)
include hc

/-- The fields of a record make up its object. -/
theorem ofJson (h : Reads c depth ks r fs x) (hks : ks.Nodup) :
    Recovers c (depth + 1) r.ofJson (.object fs) x := by
  intro hdepth
  obtain ⟨gs, hgs, hget⟩ := hc.object fs (hks.sublist h.keys)
  rw [hgs] at hdepth ⊢
  rw [Json.depth] at hdepth
  have hread := h.read hks gs (fun key _ => hget key) (Nat.le_of_succ_le_succ hdepth) 0
  simp only [Wire.Record.ofJson, Wire.Record.ofFields, hread]
  rfl

/-- A record within another. -/
theorem object (h : Reads c depth ks r fs x) (hks : ks.Nodup) :
    Recovers c depth r.ofJson (.object fs) x :=
  fun hdepth => h.ofJson hc hks (Nat.le_succ_of_le hdepth)

theorem not_null (h : Reads c depth ks r fs x) (hks : ks.Nodup) : c (.object fs) ≠ .null := by
  obtain ⟨gs, hgs, -⟩ := hc.object fs (hks.sublist h.keys)
  rw [hgs]
  nofun

theorem depth_pos (h : Reads c depth ks r fs x) (hks : ks.Nodup) : 0 < (c (.object fs)).depth := by
  obtain ⟨gs, hgs, -⟩ := hc.object fs (hks.sublist h.keys)
  rw [hgs, Json.depth]
  exact Nat.succ_pos _

theorem get?_absent (h : Reads c depth ks r fs x) {key : String} (hks : ks.Nodup)
    (hkey : key ∉ ks) : (c (.object fs)).get? key = none := by
  obtain ⟨gs, hgs, hget⟩ := hc.object fs (hks.sublist h.keys)
  rw [hgs, Json.get?, hget, Fields.get?_eq_none fun hmem => hkey (h.keys.subset hmem),
    Option.map_none]

/-- A record that is chosen by its tag. -/
theorem tagged {tag : Wire.Reader String} {record : String → Except ReadError (Wire.Record α)}
    {kind : String} (htag : tag (.string kind) = .ok kind) (hrecord : record kind = .ok r)
    (h : Reads c depth ks r fs x) (hks : ("type" :: ks).Nodup) :
    Recovers c (depth + 1) (Wire.Read.tagged tag record) (Wire.tagged kind fs) x := by
  intro hdepth
  obtain ⟨gs, hgs, hget⟩ := hc.object (("type", .string kind) :: fs)
    (hks.sublist (h.keys.cons_cons _))
  rw [Wire.tagged, hgs] at hdepth ⊢
  rw [Json.depth] at hdepth
  have hkind : gs.get? "type" = some (.string kind) := by
    rw [hget, Fields.get?_cons, if_pos rfl, Option.map_some, hc.string]
  have hread := h.read (List.nodup_cons.mp hks).2 (gs.erase "type") (fun key hkey => by
    have hne : key ≠ "type" := fun heq => (List.nodup_cons.mp hks).1 (heq ▸ hkey)
    rw [Fields.get?_erase_ne hne, hget, Fields.get?_cons, if_neg hne])
    (Nat.le_trans (Fields.depth_erase gs "type") (Nat.le_of_succ_le_succ hdepth)) 0
  simp only [Wire.Read.tagged, hkind, htag, hrecord, Wire.Record.ofFields, hread, bind, Except.bind]
  rfl

end Reads

/-! ## Values -/

namespace Recovers

open Wire (Reader)

variable {read : Reader α}

theorem mono {depth' : Nat} {v : Json} {x : α} (hle : depth ≤ depth')
    (h : Recovers c depth' read v x) :
    Recovers c depth read v x :=
  fun hdepth => h (Nat.le_trans hdepth hle)

theorem optional {v : Json} {x : α} (hnull : c v ≠ .null) (h : Recovers c depth read v x) :
    Recovers c depth (Wire.Read.optional read) v (some x) := by
  intro hdepth
  unfold Wire.Read.optional
  split
  · rename_i heq
    exact absurd heq hnull
  · rw [h hdepth]
    rfl

variable (hc : Json.Arranges c)
include hc

theorem name (s : String) : Recovers c depth Wire.Read.name (.string s) s := by
  intro _
  simp [hc.string, Wire.Read.name, Json.nameText?]

theorem qualifiedName (s : String) : Recovers c depth Wire.Read.qualifiedName (.string s) s := by
  intro _
  simp [hc.string, Wire.Read.qualifiedName, Json.nameText?]

theorem string (s : String) : Recovers c depth Wire.Read.string (.string s) s := by
  intro _
  simp [hc.string, Wire.Read.string]

theorem number (n : Json.Number) : Recovers c depth Wire.Read.number (.number n) n := by
  intro _
  simp [hc.number, Wire.Read.number]

theorem natural (n : Nat) : Recovers c depth Wire.Read.natural (.number (.int n)) n := by
  intro _
  simp [hc.number, Wire.Read.natural, Json.Number.natural?]

theorem bool (b : Bool) : Recovers c depth Wire.Read.bool (.bool b) b := by
  intro _
  simp [hc.bool, Wire.Read.bool]

theorem flag (b : Bool) : Recovers c depth Wire.Read.flag (.bool b) b := by
  intro _
  simp [hc.bool, Wire.Read.flag]

theorem mapM {write : α → Json} {xs : List α} (h : ∀ x ∈ xs, Recovers c depth read (write x) x)
    (hdepth : (c (.array (xs.map write))).depth ≤ depth + 1) :
    ((xs.map write).map c).mapM read = .ok xs := by
  rw [hc.array, Json.depth] at hdepth
  have hitems : depthItems ((xs.map write).map c) ≤ depth := Nat.le_of_succ_le_succ hdepth
  clear hdepth
  induction xs with
  | nil => rfl
  | cons x xs ih =>
    simp only [List.map_cons, depthItems] at hitems
    have hx : read (c (write x)) = .ok x :=
      h x List.mem_cons_self (Nat.le_trans (Nat.le_max_left _ _) hitems)
    have hxs := ih (fun y hy => h y (List.mem_cons_of_mem _ hy))
      (Nat.le_trans (Nat.le_max_right _ _) hitems)
    simp only [List.map_cons, List.mapM_cons, hx, hxs]
    rfl

theorem list {write : α → Json} {xs : List α} (h : ∀ x ∈ xs, Recovers c depth read (write x) x) :
    Recovers c (depth + 1) (Wire.Read.list read) (.array (xs.map write)) xs := by
  intro hdepth
  have hmapM := mapM hc h hdepth
  simpa only [hc.array, Wire.Read.list] using hmapM

theorem oneOrMany {write : α → Json} {xs : List α}
    (h : ∀ x ∈ xs, Recovers c depth read (write x) x) :
    Recovers c (depth + 1) (Wire.Read.oneOrMany read) (.array (xs.map write)) xs := by
  intro hdepth
  have hmapM := mapM hc h hdepth
  simpa only [hc.array, Wire.Read.oneOrMany] using hmapM

theorem list? {write : α → Json} {xs : List α} (h : ∀ x ∈ xs, Recovers c depth read (write x) x) :
    Recovers c (depth + 1) (Wire.Read.list? read) (.array (xs.map write)) (some xs) := by
  intro hdepth
  have hmapM := mapM hc h hdepth
  simp only [hc.array, Wire.Read.list?, Json.get?, Option.getD_none, hmapM]
  rfl

theorem names (l : List String) : Recovers c depth Wire.Read.names (Wire.strings l) l := by
  have hfilter : ((l.map Json.string).map c).filterMap Json.nameText? = l := by
    induction l with
    | nil => rfl
    | cons s l ih =>
      have hname : (c (.string s)).nameText? = some s := by
        rw [hc.string]
        rfl
      rw [List.map_cons, List.map_cons, List.filterMap_cons_some hname, ih]
  intro _
  simp only [Wire.strings, hc.array, Wire.Read.names, hfilter]

theorem names? {l : List String} (hl : l ≠ []) :
    Recovers c depth Wire.Read.names? (Wire.strings l) (some l) := by
  intro hdepth
  simp only [Wire.Read.names?, names hc l hdepth]
  cases l with
  | nil => exact absurd rfl hl
  | cons s l => rfl

end Recovers

/-! ## Fields of each kind -/

namespace Reads

variable {key : String}

/-- A field that may be left out and is not null otherwise. -/
theorem optional {k : String} {read : Wire.Reader α} {write : α → Json} (x : Option α)
    (h : ∀ y, x = some y → c (write y) ≠ .null ∧ Recovers c depth read (write y) y) :
    Reads c depth [k] (Wire.Record.optional k read) (Wire.value? k (x.map write)) x := by
  cases x with
  | none => exact field none nofun fun _ => rfl
  | some y => exact defaulted (.optional (h y rfl).1 (h y rfl).2)

/-- A list that is left out if it is empty. -/
theorem unlessEmpty {read : Wire.Reader (List α)} {w : List α → Json} (xs : List α)
    (h : Recovers c depth read (w xs) xs) :
    Reads c depth [key] (Wire.Record.defaulted key read []) (if xs.isEmpty then []
      else [(key, w xs)]) xs := by
  cases xs with
  | nil => exact field none nofun fun _ => rfl
  | cons x xs => exact defaulted h

variable (hc : Json.Arranges c)
include hc

/-- A record within another, if there is one. -/
theorem object? {r : Wire.Record α} {fields : α → Fields} (x : Option α) (hks : ks.Nodup)
    (h : ∀ y, x = some y → Reads c depth ks r (fields y) y) :
    Reads c depth [key] (Wire.Record.optional key r.ofJson)
      (Wire.value? key (x.map fun y => .object (fields y))) x :=
  .optional x fun y hy => ⟨(h y hy).not_null hc hks, (h y hy).object hc hks⟩

theorem text? (s : Option String) :
    Reads c depth [key] (Wire.Record.text? key) (Wire.text? key s) s := by
  cases s with
  | none => exact field none nofun fun _ => rfl
  | some s => exact defaulted fun _ => by simp [hc.string, Wire.Read.text?, Json.nameText?]

theorem nullable (s : Option String) {absent : Option String} :
    Reads c depth [key] (Wire.Record.defaulted key Wire.Read.text? absent)
      (Wire.nullable key s) s := by
  cases s with
  | none => exact defaulted fun _ => by simp [hc.null, Wire.Read.text?, Json.nameText?]
  | some s => exact defaulted fun _ => by simp [hc.string, Wire.Read.text?, Json.nameText?]

theorem flag (b : Bool) : Reads c depth [key] (Wire.Record.flag key) (Wire.flag key b) b := by
  cases b with
  | false => exact field none nofun fun _ => rfl
  | true => exact defaulted (Recovers.flag hc true)

theorem bool (b : Bool) :
    Reads c depth [key] (Wire.Record.defaulted key Wire.Read.bool false) (Wire.flag key b) b := by
  cases b with
  | false => exact field none nofun fun _ => rfl
  | true => exact defaulted (Recovers.bool hc true)

theorem natural? (n : Option Nat) :
    Reads c depth [key] (Wire.Record.optional key Wire.Read.natural) (Wire.natural? key n) n := by
  cases n with
  | none => exact field none nofun fun _ => rfl
  | some n => exact defaulted (.optional (by simp [hc.number]) (.natural hc n))

/-- A field that is null if there is nothing. -/
theorem orNull {read : Wire.Reader α} {write : α → Json} (x : Option α)
    (h : ∀ y, x = some y → c (write y) ≠ .null ∧ Recovers c depth read (write y) y) :
    Reads c depth [key] (Wire.Record.optional key read) [(key, (x.map write).getD .null)] x := by
  cases x with
  | none => exact defaulted fun _ => by simp [hc.null, Wire.Read.optional]
  | some y => exact defaulted (.optional (h y rfl).1 (h y rfl).2)

theorem list? {read : Wire.Reader α} {write : α → Json} (xs : Option (List α))
    (h : ∀ ys, xs = some ys → ∀ y ∈ ys, Recovers c depth read (write y) y) :
    Reads c depth [key] (Wire.Record.list? key read)
      (Wire.value? key (xs.map fun ys => .array (ys.map write))) xs := by
  cases xs with
  | none => exact field none nofun fun _ => rfl
  | some ys => exact defaulted ((Recovers.list? hc (h ys rfl)).mono (Nat.le_succ _))

/-- A list that is null if there is none. -/
theorem listOrNull {read : Wire.Reader α} {write : α → Json} (xs : Option (List α))
    (h : ∀ ys, xs = some ys → ∀ y ∈ ys, Recovers c depth read (write y) y) :
    Reads c depth [key] (Wire.Record.list? key read)
      [(key, (xs.map fun ys => Json.array (ys.map write)).getD .null)] xs := by
  cases xs with
  | none => exact defaulted fun _ => by simp [hc.null, Wire.Read.list?, Json.get?]
  | some ys => exact defaulted ((Recovers.list? hc (h ys rfl)).mono (Nat.le_succ _))

theorem many {read : Wire.Reader α} {write : α → Json} (xs : List α)
    (h : ∀ y ∈ xs, Recovers c depth read (write y) y) :
    Reads c depth [key] (Wire.Record.many key read) [(key, .array (xs.map write))] xs :=
  defaulted ((Recovers.oneOrMany hc h).mono (Nat.le_succ _))

/-- Items whose parts have been written first. -/
theorem many_map {read : Wire.Reader α} {f : α → β} {write : β → Json} (xs : List α)
    (h : ∀ y ∈ xs, Recovers c depth read (write (f y)) y) :
    Reads c depth [key] (Wire.Record.many key read) [(key, .array ((xs.map f).map write))] xs := by
  rw [List.map_map]
  exact many hc xs h

theorem names? (l : Option (List String)) (hl : ∀ l', l = some l' → l' ≠ []) :
    Reads c depth [key] (Wire.Record.defaulted key Wire.Read.names? none)
      (Wire.value? key (l.map Wire.strings)) l := by
  cases l with
  | none => exact field none nofun fun _ => rfl
  | some l => exact defaulted (.names? hc (hl l rfl))

theorem namesOrNull (l : Option (List String)) (hl : ∀ l', l = some l' → l' ≠ []) :
    Reads c depth [key] (Wire.Record.defaulted key Wire.Read.names? none)
      [(key, (l.map Wire.strings).getD .null)] l := by
  cases l with
  | none =>
    have hnull : Wire.Read.names? (c Json.null) = .ok none := by rw [hc.null]; rfl
    exact defaulted fun _ => hnull
  | some l => exact defaulted (.names? hc (hl l rfl))

end Reads

end SqlWeave
