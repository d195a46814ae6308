import SqlWeave.Wire.Expr

/-! The order of fields. A value may have the fields of its objects in the order of the writer or in
ascending order of key; what a look-up finds is the same. An object without a nested tree has
nothing to hoist. -/

namespace SqlWeave.Json

/-! ## Fields -/

namespace Fields

@[simp] theorem get?_nil (key : String) : Fields.get? [] key = none := rfl

theorem get?_cons (k : String) (v : Json) (fs : Fields) (key : String) :
    Fields.get? ((k, v) :: fs) key = if key = k then some v else fs.get? key := by
  rw [Fields.get?, List.lookup_cons]
  by_cases h : key = k
  · simp [h]
  · have hbeq : (key == k) = false := by simpa using h
    simp [hbeq, h, Fields.get?]

theorem get?_append (fs gs : Fields) (key : String) :
    Fields.get? (fs ++ gs) key = (fs.get? key).or (gs.get? key) :=
  List.lookup_append

theorem get?_eq_none {fs : Fields} {key : String} (h : key ∉ fs.map Prod.fst) :
    fs.get? key = none := by
  refine List.lookup_eq_none_iff.mpr fun field hfield => ?_
  have hne : key ≠ field.1 := fun heq => h (heq ▸ List.mem_map_of_mem hfield)
  simpa using hne

theorem mem_of_get? {fs : Fields} {key : String} {v : Json} (h : fs.get? key = some v) :
    (key, v) ∈ fs := by
  obtain ⟨before, after, rfl, -⟩ := List.lookup_eq_some_iff.mp h
  simp

theorem has_eq_isSome (fs : Fields) (key : String) : fs.has key = (fs.get? key).isSome := by
  induction fs with
  | nil => rfl
  | cons field rest ih =>
    obtain ⟨k, v⟩ := field
    rw [get?_cons]
    rw [Fields.has] at ih ⊢
    rw [List.any_cons, ih]
    by_cases h : key = k
    · simp [h]
    · have hbeq : (k == key) = false := by simpa using fun heq => h heq.symm
      simp [hbeq, h]

theorem get?_insert (fs : Fields) (k key : String) (v : Json) :
    (fs.insert k v).get? key = if key = k then some v else fs.get? key := by
  induction fs with
  | nil => exact get?_cons k v [] key
  | cons field rest ih =>
    obtain ⟨k', v'⟩ := field
    rw [Fields.insert]
    split
    · exact get?_cons k v _ key
    · split
      · subst k'
        rw [get?_cons, get?_cons]
        split <;> rfl
      · rename_i hne
        rw [get?_cons, get?_cons, ih]
        by_cases hk' : key = k'
        · rw [if_pos hk', if_pos hk', if_neg fun hk => hne (hk.symm.trans hk')]
        · rw [if_neg hk', if_neg hk']

/-- Fields that are laid over others win. -/
theorem get?_extend {more : Fields} (hmore : (more.map Prod.fst).Nodup) (fs : Fields)
    (key : String) :
    (fs.extend more).get? key = (more.get? key).or (fs.get? key) := by
  induction more generalizing fs with
  | nil => rfl
  | cons field more ih =>
    obtain ⟨k, v⟩ := field
    rw [List.map_cons, List.nodup_cons] at hmore
    have hstep : (Fields.extend fs ((k, v) :: more)) = (fs.insert k v).extend more := rfl
    rw [hstep, ih hmore.2, get?_insert, get?_cons]
    by_cases h : key = k
    · subst h
      simp [get?_eq_none hmore.1]
    · simp [h]

theorem get?_extend_cases {more fs : Fields} {key : String} {v : Json}
    (h : (fs.extend more).get? key = some v) :
    (key, v) ∈ more ∨ fs.get? key = some v := by
  induction more generalizing fs with
  | nil => exact .inr h
  | cons field more ih =>
    obtain ⟨k, w⟩ := field
    have hstep : (Fields.extend fs ((k, w) :: more)) = (fs.insert k w).extend more := rfl
    rw [hstep] at h
    rcases ih h with hmem | hget
    · exact .inl (List.mem_cons_of_mem _ hmem)
    · rw [get?_insert] at hget
      split at hget
      · rename_i hkey
        cases hget
        exact .inl (hkey ▸ List.mem_cons_self)
      · exact .inr hget

theorem depth_of_get? {fs : Fields} {key : String} {v : Json} (h : fs.get? key = some v) :
    v.depth ≤ depthFields fs := by
  induction fs with
  | nil => cases h
  | cons field rest ih =>
    obtain ⟨k, w⟩ := field
    rw [get?_cons] at h
    rw [depthFields]
    split at h
    · cases h
      exact Nat.le_max_left _ _
    · exact Nat.le_trans (ih h) (Nat.le_max_right _ _)

theorem get?_erase_ne {fs : Fields} {k key : String} (h : key ≠ k) :
    (fs.erase k).get? key = fs.get? key := by
  induction fs with
  | nil => rfl
  | cons field rest ih =>
    obtain ⟨k', v⟩ := field
    rw [Fields.erase] at ih ⊢
    rw [List.filter_cons, get?_cons]
    split
    · rw [get?_cons, ih]
    · rename_i heq
      have hk' : k' = k := by simpa using heq
      rw [ih, if_neg fun hkey => h (hkey.trans hk')]

theorem depth_erase (fs : Fields) (k : String) : depthFields (fs.erase k) ≤ depthFields fs := by
  induction fs with
  | nil => exact Nat.le_refl _
  | cons field rest ih =>
    obtain ⟨k', v⟩ := field
    rw [Fields.erase] at ih ⊢
    rw [List.filter_cons]
    split
    · simp only [depthFields]
      omega
    · rw [depthFields]
      omega

end Fields

/-! ## Arrangements -/

/-- `c` puts the fields of objects into some order and leaves everything else as it is. -/
structure Arranges (c : Json → Json) : Prop where
  null : c .null = .null
  bool (b : Bool) : c (.bool b) = .bool b
  number (n : Number) : c (.number n) = .number n
  string (s : String) : c (.string s) = .string s
  array (vs : List Json) : c (.array vs) = .array (vs.map c)
  object (fs : Fields) : (fs.map Prod.fst).Nodup →
    ∃ gs : Fields, c (.object fs) = .object gs ∧ ∀ key, gs.get? key = (fs.get? key).map c
  /-- If a key is repeated, one of its fields counts. -/
  some_field (fs : Fields) : ∃ gs : Fields, c (.object fs) = .object gs ∧
    ∀ key w, gs.get? key = some w → ∃ v, (key, v) ∈ fs ∧ c v = w

/-- The order in which the fields stand. -/
theorem arranges_id : Arranges id where
  null := rfl
  bool _ := rfl
  number _ := rfl
  string _ := rfl
  array vs := by simp
  object fs _ := ⟨fs, rfl, fun key => by simp⟩
  some_field fs := ⟨fs, rfl, fun key w h => ⟨w, Fields.mem_of_get? h, rfl⟩⟩

theorem canonicalItems_eq (vs : List Json) : canonicalItems vs = vs.map canonical := by
  induction vs with
  | nil => simp [canonicalItems]
  | cons v vs ih => simp [canonicalItems, ih]

theorem canonicalFields_eq (fs : Fields) :
    canonicalFields fs = fs.map fun f => (f.1, f.2.canonical) := by
  induction fs with
  | nil => simp [canonicalFields]
  | cons f fs ih => simp [canonicalFields, ih]

theorem get?_canonicalFields (fs : Fields) (key : String) :
    Fields.get? (canonicalFields fs) key = (fs.get? key).map canonical := by
  rw [canonicalFields_eq]
  induction fs with
  | nil => rfl
  | cons f fs ih =>
    obtain ⟨k, v⟩ := f
    rw [List.map_cons, Fields.get?_cons, Fields.get?_cons, ih]
    split <;> rfl

/-- Ascending order of key. -/
theorem arranges_canonical : Arranges canonical where
  null := by simp [canonical]
  bool b := by simp [canonical]
  number n := by simp [canonical]
  string s := by simp [canonical]
  array vs := by simp [canonical, canonicalItems_eq]
  object fs hfs := by
    refine ⟨Fields.extend [] (canonicalFields fs), by simp [canonical], fun key => ?_⟩
    have hkeys : ((canonicalFields fs).map Prod.fst) = fs.map Prod.fst := by
      rw [canonicalFields_eq, List.map_map]
      rfl
    rw [Fields.get?_extend (hkeys ▸ hfs), get?_canonicalFields]
    simp [Fields.get?]
  some_field fs := by
    refine ⟨Fields.extend [] (canonicalFields fs), by simp [canonical], fun key w h => ?_⟩
    rcases Fields.get?_extend_cases h with hmem | hnil
    · rw [canonicalFields_eq] at hmem
      obtain ⟨⟨k, v⟩, hfield, heq⟩ := List.mem_map.mp hmem
      cases heq
      exact ⟨v, hfield, rfl⟩
    · cases hnil

/-! ## Hoisting -/

theorem hoistedFields_object (fs : Fields) :
    hoistedFields (.object fs) = (fs.erase "ast").extend
      (((fs.get? "ast").map hoistedFields).getD []) := by
  have hunder : (hoistedUnder fs).lookup "ast" = (fs.get? "ast").map hoistedFields := by
    induction fs with
    | nil => simp [hoistedUnder]
    | cons field rest ih =>
      obtain ⟨k, v⟩ := field
      rw [hoistedUnder, List.lookup_cons, Fields.get?_cons, ih]
      by_cases h : "ast" = k
      · simp [← h]
      · have hbeq : ("ast" == k) = false := by simpa using h
        simp [hbeq, h]
  rw [hoistedFields, hunder]

theorem hoist_object {fs : Fields} (h : fs.get? "ast" = none) :
    (Json.object fs).hoist = .object fs := by
  have herase : fs.erase "ast" = fs := by
    refine List.filter_eq_self.mpr fun field hfield => ?_
    have hne : "ast" ≠ field.1 := bne_iff_ne.mp (List.lookup_eq_none_iff.mp h field hfield)
    exact bne_iff_ne.mpr hne.symm
  rw [hoist, hoistedFields_object, herase, h]
  rfl

end SqlWeave.Json
