import Mathlib.Data.String.Basic
import SqlWeave.Proofs.Wire.Arrangement

/-! Values with the fields of every object in ascending order of key. These are the values that
putting in order leaves as they are, and hoisting keeps them so. -/

namespace SqlWeave.Json

def Fields.Ascending (fs : Fields) : Prop := fs.Pairwise fun f g => f.1 < g.1

inductive Ordered : Json → Prop
  | null : Ordered .null
  | bool (b : Bool) : Ordered (.bool b)
  | number (n : Number) : Ordered (.number n)
  | string (s : String) : Ordered (.string s)
  | array {vs : List Json} : (∀ v ∈ vs, Ordered v) → Ordered (.array vs)
  | object {fs : Fields} : fs.Ascending → (∀ f ∈ fs, Ordered f.2) → Ordered (.object fs)

/-! ## Inserting fields -/

namespace Fields

theorem mem_insert {fs : Fields} {key : String} {value : Json} {f : String × Json}
    (h : f ∈ fs.insert key value) :
    f = (key, value) ∨ f ∈ fs := by
  induction fs with
  | nil => exact .inl (List.mem_singleton.mp h)
  | cons field rest ih =>
    obtain ⟨k, v⟩ := field
    rw [Fields.insert] at h
    split at h
    · exact List.mem_cons.mp h
    · split at h
      · exact (List.mem_cons.mp h).imp_right (List.mem_cons_of_mem _)
      · rcases List.mem_cons.mp h with rfl | h
        · exact .inr List.mem_cons_self
        · exact (ih h).imp_right (List.mem_cons_of_mem _)

theorem Ascending.insert {fs : Fields} (h : fs.Ascending) (key : String) (value : Json) :
    (fs.insert key value).Ascending := by
  induction fs with
  | nil => exact List.pairwise_singleton _ _
  | cons field rest ih =>
    obtain ⟨k, v⟩ := field
    obtain ⟨hlt, hrest⟩ := List.pairwise_cons.mp h
    rw [Fields.insert]
    split
    · rename_i hkey
      refine List.pairwise_cons.mpr ⟨fun f hf => ?_, h⟩
      rcases List.mem_cons.mp hf with rfl | hf
      · exact hkey
      · exact hkey.trans (hlt f hf)
    · split
      · rename_i hkey
        subst hkey
        exact List.pairwise_cons.mpr ⟨hlt, hrest⟩
      · rename_i hge hne
        refine List.pairwise_cons.mpr ⟨fun f hf => ?_, ih hrest⟩
        rcases mem_insert hf with rfl | hf
        · exact lt_of_le_of_ne (not_lt.mp hge) (Ne.symm hne)
        · exact hlt f hf

theorem Ascending.extend {fs : Fields} (h : fs.Ascending) (more : Fields) :
    (fs.extend more).Ascending := by
  induction more generalizing fs with
  | nil => exact h
  | cons field more ih => exact ih (h.insert field.1 field.2)

theorem mem_extend {fs more : Fields} {f : String × Json} (h : f ∈ fs.extend more) :
    f ∈ fs ∨ f ∈ more := by
  induction more generalizing fs with
  | nil => exact .inl h
  | cons field more ih =>
    rcases ih (show f ∈ (fs.insert field.1 field.2).extend more from h) with hfs | hmore
    · rcases mem_insert hfs with rfl | hfs
      · exact .inr List.mem_cons_self
      · exact .inl hfs
    · exact .inr (List.mem_cons_of_mem _ hmore)

/-- A field whose key comes after all others goes to the end. -/
theorem insert_last {fs : Fields} {key : String} (value : Json) (h : ∀ f ∈ fs, f.1 < key) :
    fs.insert key value = fs ++ [(key, value)] := by
  induction fs with
  | nil => rfl
  | cons field rest ih =>
    obtain ⟨k, v⟩ := field
    have hlt : k < key := h (k, v) List.mem_cons_self
    rw [Fields.insert, if_neg hlt.asymm, if_neg hlt.ne',
      ih fun f hf => h f (List.mem_cons_of_mem _ hf)]
    rfl

theorem extend_ascending {fs more : Fields} (h : (fs ++ more).Ascending) :
    fs.extend more = fs ++ more := by
  induction more generalizing fs with
  | nil => exact (List.append_nil fs).symm
  | cons field more ih =>
    obtain ⟨k, v⟩ := field
    have hbefore : ∀ f ∈ fs, f.1 < k :=
      fun f hf => (List.pairwise_append.mp h).2.2 f hf _ List.mem_cons_self
    have hstep : Fields.extend fs ((k, v) :: more) = (fs.insert k v).extend more := rfl
    rw [List.append_cons] at h ⊢
    rw [hstep, insert_last v hbefore, ih h]

end Fields

/-! ## Putting in order -/

theorem ordered_canonical : (v : Json) → Ordered v.canonical
  | .null => by simpa [canonical] using Ordered.null
  | .bool b => by simpa [canonical] using Ordered.bool b
  | .number n => by simpa [canonical] using Ordered.number n
  | .string s => by simpa [canonical] using Ordered.string s
  | .array vs => by
    rw [canonical, canonicalItems_eq]
    refine .array fun w hw => ?_
    obtain ⟨v, hv, rfl⟩ := List.mem_map.mp hw
    have hsize := List.sizeOf_lt_of_mem hv
    exact ordered_canonical v
  | .object fs => by
    rw [canonical]
    refine .object (Fields.Ascending.extend List.Pairwise.nil _) fun f hf => ?_
    rcases Fields.mem_extend hf with hnil | hf
    · cases hnil
    · rw [canonicalFields_eq] at hf
      obtain ⟨⟨k, v⟩, hv, rfl⟩ := List.mem_map.mp hf
      have hsize := List.sizeOf_lt_of_mem hv
      have hvalue : sizeOf v < sizeOf fs := by
        simp only [Prod.mk.sizeOf_spec] at hsize
        omega
      exact ordered_canonical v
termination_by v => sizeOf v

theorem Ordered.canonical_eq {v : Json} (h : v.Ordered) : v.canonical = v := by
  induction h with
  | null => simp [canonical]
  | bool => simp [canonical]
  | number => simp [canonical]
  | string => simp [canonical]
  | @array vs _ ih =>
    have hitems : vs.map canonical = vs := (List.map_congr_left ih).trans (List.map_id vs)
    rw [canonical, canonicalItems_eq, hitems]
  | @object fs hfs _ ih =>
    have hfields : canonicalFields fs = fs := by
      rw [canonicalFields_eq]
      refine (List.map_congr_left fun f hf => ?_).trans (List.map_id fs)
      rw [ih f hf]
      rfl
    have hextend : Fields.extend [] fs = [] ++ fs := Fields.extend_ascending hfs
    rw [canonical, hfields, hextend]
    rfl

theorem ordered_iff {v : Json} : v.Ordered ↔ v.canonical = v :=
  ⟨Ordered.canonical_eq, fun h => h ▸ ordered_canonical v⟩

/-! ## Hoisting -/

theorem Ordered.hoistedFields {v : Json} (h : v.Ordered) :
    v.hoistedFields.Ascending ∧ ∀ f ∈ v.hoistedFields, f.2.Ordered ∧ f.1 ≠ "ast" := by
  induction h with
  | @object fs hfs hvalues ih =>
    rw [hoistedFields_object]
    have herased : ∀ f ∈ fs.erase "ast", f.2.Ordered ∧ f.1 ≠ "ast" := fun f hf =>
      ⟨hvalues f (List.mem_of_mem_filter hf), bne_iff_ne.mp (List.mem_filter.mp hf).2⟩
    refine ⟨Fields.Ascending.extend (List.Pairwise.filter _ hfs) _, fun f hf => ?_⟩
    rcases Fields.mem_extend hf with hf | hf
    · exact herased f hf
    · cases hast : fs.get? "ast" with
      | none =>
        rw [hast] at hf
        cases hf
      | some w =>
        rw [hast] at hf
        exact (ih _ (Fields.mem_of_get? hast)).2 f hf
  | _ => exact ⟨List.Pairwise.nil, nofun⟩

theorem Ordered.hoist {v : Json} (h : v.Ordered) : v.hoist.Ordered := by
  cases h with
  | @object fs hfs hvalues =>
    have hfields := (Ordered.object hfs hvalues).hoistedFields
    exact .object hfields.1 fun f hf => (hfields.2 f hf).1
  | null => exact .null
  | bool b => exact .bool b
  | number n => exact .number n
  | string s => exact .string s
  | array hvs => exact .array hvs

/-- What is hoisted once has nothing more to hoist. -/
theorem Ordered.hoist_hoist {v : Json} (h : v.Ordered) : v.hoist.hoist = v.hoist := by
  cases v with
  | object fs =>
    refine hoist_object (Fields.get?_eq_none fun hkey => ?_)
    obtain ⟨f, hf, hast⟩ := List.mem_map.mp hkey
    exact (h.hoistedFields.2 f hf).2 hast
  | _ => rfl

end SqlWeave.Json
