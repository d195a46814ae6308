import SqlWeave.Proofs.Wire.Ordered

/-! Wrappers. A node may come inside objects that have it under `ast`. Hoisting lays each inner
object over the one around it, so that of several objects with the same key the innermost one
counts. It is what comes out of the loop that takes `ast` away and puts its fields in, as long as
there is one to put in. -/

namespace SqlWeave.Json

/-! ## Ascending fields as maps -/

namespace Fields

theorem get?_erase_self (fs : Fields) (k : String) : (fs.erase k).get? k = none := by
  refine get?_eq_none fun hk => ?_
  obtain ⟨f, hf, heq⟩ := List.mem_map.mp hk
  exact bne_iff_ne.mp (List.mem_filter.mp hf).2 heq

theorem Ascending.nodup {fs : Fields} (h : fs.Ascending) : (fs.map Prod.fst).Nodup :=
  List.pairwise_map.mpr (h.imp fun hlt => hlt.ne)

theorem Ascending.erase {fs : Fields} (h : fs.Ascending) (k : String) : (fs.erase k).Ascending :=
  List.Pairwise.filter _ h

theorem get?_of_mem {fs : Fields} (h : (fs.map Prod.fst).Nodup) {key : String} {w : Json}
    (hf : (key, w) ∈ fs) :
    fs.get? key = some w := by
  induction fs with
  | nil => cases hf
  | cons g rest ih =>
    obtain ⟨k, v⟩ := g
    rw [List.map_cons, List.nodup_cons] at h
    rw [get?_cons]
    rcases List.mem_cons.mp hf with heq | hf
    · cases heq
      exact if_pos rfl
    · have hne : key ≠ k := fun heq => h.1 (heq ▸ List.mem_map.mpr ⟨_, hf, rfl⟩)
      rw [if_neg hne, ih h.2 hf]

/-- Ascending fields are known by what a look-up finds. -/
theorem Ascending.ext {fs gs : Fields} (hfs : fs.Ascending) (hgs : gs.Ascending)
    (h : ∀ key, fs.get? key = gs.get? key) : fs = gs := by
  have hmem (f : String × Json) : f ∈ fs ↔ f ∈ gs :=
    ⟨fun hf => mem_of_get? ((h f.1).symm.trans (get?_of_mem hfs.nodup hf)),
      fun hf => mem_of_get? ((h f.1).trans (get?_of_mem hgs.nodup hf))⟩
  have hnodup {hs : Fields} (hhs : hs.Ascending) : hs.Nodup :=
    hhs.imp fun hlt heq => hlt.ne (congrArg Prod.fst heq)
  have hperm : fs.Perm gs := (List.perm_ext_iff_of_nodup (hnodup hfs) (hnodup hgs)).mpr hmem
  exact List.Perm.eq_of_pairwise (fun _ _ _ _ hlt hgt => (hlt.asymm hgt).elim) hfs hgs hperm

end Fields

/-! ## Chains of wrappers -/

/-- The objects from the outermost one inwards, each the `ast` of the one before. The last one has
no `ast`, or one that is not an object. -/
inductive Wrappers : Fields → List Fields → Prop
  | last {fs : Fields} : (∀ inner, fs.get? "ast" ≠ some (.object inner)) → Wrappers fs [fs]
  | wrap {fs inner : Fields} {rest : List Fields} :
    fs.get? "ast" = some (.object inner) → Wrappers inner rest → Wrappers fs (fs :: rest)

theorem Wrappers.eq_cons {fs : Fields} {objects : List Fields} (h : Wrappers fs objects) :
    ∃ rest, objects = fs :: rest := by
  cases h <;> exact ⟨_, rfl⟩

theorem exists_wrappers (fs : Fields) : ∃ objects, Wrappers fs objects := by
  by_cases h : ∃ inner, fs.get? "ast" = some (.object inner)
  · obtain ⟨inner, hast⟩ := h
    have hdepth := Fields.depth_of_get? hast
    rw [depth] at hdepth
    obtain ⟨objects, hobjects⟩ := exists_wrappers inner
    exact ⟨fs :: objects, .wrap hast hobjects⟩
  · exact ⟨[fs], .last fun inner hast => h ⟨inner, hast⟩⟩
termination_by depthFields fs

theorem hoistedFields_last {fs : Fields} (h : ∀ inner, fs.get? "ast" ≠ some (.object inner)) :
    hoistedFields (.object fs) = fs.erase "ast" := by
  rw [hoistedFields_object]
  cases hast : fs.get? "ast" with
  | none => rfl
  | some w =>
    cases w with
    | object inner => exact (h inner hast).elim
    | _ => simp [hoistedFields, Fields.extend]

theorem hoistedFields_wrap {fs inner : Fields} (h : fs.get? "ast" = some (.object inner)) :
    hoistedFields (.object fs) = (fs.erase "ast").extend (hoistedFields (.object inner)) := by
  rw [hoistedFields_object, h]
  rfl

theorem Ordered.of_get? {fs : Fields} (h : (Json.object fs).Ordered) {key : String} {v : Json}
    (hget : fs.get? key = some v) : v.Ordered := by
  cases h with
  | object _ hvalues => exact hvalues _ (Fields.mem_of_get? hget)

theorem get?_hoistedFields_ast {v : Json} (h : v.Ordered) : v.hoistedFields.get? "ast" = none :=
  Fields.get?_eq_none fun hkey => by
    obtain ⟨f, hf, hast⟩ := List.mem_map.mp hkey
    exact (h.hoistedFields.2 f hf).2 hast

theorem get?_hoistedFields_wrap {fs inner : Fields} (h : (Json.object fs).Ordered)
    (hast : fs.get? "ast" = some (.object inner)) (key : String) :
    (hoistedFields (.object fs)).get? key =
      ((hoistedFields (.object inner)).get? key).or ((fs.erase "ast").get? key) := by
  rw [hoistedFields_wrap hast, Fields.get?_extend (h.of_get? hast).hoistedFields.1.nodup]

/-- The value of a key in the innermost of the objects that have it. -/
def innermost? (objects : List Fields) (key : String) : Option Json :=
  objects.reverse.findSome? (·.get? key)

theorem innermost?_cons (fs : Fields) (objects : List Fields) (key : String) :
    innermost? (fs :: objects) key = (innermost? objects key).or (fs.get? key) := by
  rw [innermost?, List.reverse_cons, List.findSome?_append]
  simp [innermost?]

theorem Wrappers.get?_hoistedFields {fs : Fields} {objects : List Fields} (h : Wrappers fs objects)
    (hfs : (Json.object fs).Ordered) {key : String} (hkey : key ≠ "ast") :
    (hoistedFields (.object fs)).get? key = innermost? objects key := by
  induction h with
  | @last fs hlast =>
    rw [hoistedFields_last hlast, Fields.get?_erase_ne hkey, innermost?_cons]
    rfl
  | @wrap fs inner rest hast _ ih =>
    rw [get?_hoistedFields_wrap hfs hast, ih (hfs.of_get? hast), Fields.get?_erase_ne hkey,
      innermost?_cons]

/-! ## The loop -/

/-- What is left of an object after one round of the loop: the fields of its `ast` laid over the
others. -/
def unwrapped (fs inner : Fields) : Fields := (fs.erase "ast").extend inner

/-- The loop within a number of rounds. The value under `ast` is taken away; if it is an object, its
fields are put in, one more `ast` among them maybe, and the loop goes on. -/
def unwrapWithin : Nat → Fields → Option Fields
  | 0, _ => none
  | rounds + 1, fs =>
    match fs.get? "ast" with
    | some (.object inner) => unwrapWithin rounds (unwrapped fs inner)
    | _ => some (fs.erase "ast")

theorem unwrapWithin_last {fs : Fields} (h : ∀ inner, fs.get? "ast" ≠ some (.object inner))
    (rounds : Nat) :
    unwrapWithin (rounds + 1) fs = some (fs.erase "ast") := by
  rw [unwrapWithin]
  split
  · rename_i inner hast
    exact (h inner hast).elim
  · rfl

theorem unwrapWithin_wrap {fs inner : Fields} (h : fs.get? "ast" = some (.object inner))
    (rounds : Nat) :
    unwrapWithin (rounds + 1) fs = unwrapWithin rounds (unwrapped fs inner) := by
  rw [unwrapWithin, h]

section Round

variable {fs inner : Fields} (hfs : (Json.object fs).Ordered)
  (hast : fs.get? "ast" = some (.object inner))

include hfs hast

theorem ordered_unwrapped : (Json.object (unwrapped fs inner)).Ordered := by
  cases hfs with
  | object hascending hvalues =>
    cases (Ordered.object hascending hvalues).of_get? hast with
    | object _ hinner =>
      refine .object ((hascending.erase "ast").extend inner) fun f hf => ?_
      rcases Fields.mem_extend hf with hf | hf
      · exact hvalues f (List.mem_of_mem_filter hf)
      · exact hinner f hf

theorem get?_unwrapped (key : String) :
    (Json.unwrapped fs inner).get? key = (inner.get? key).or ((fs.erase "ast").get? key) := by
  cases hfs.of_get? hast with
  | object hinner _ => exact Fields.get?_extend hinner.nodup _ key

/-- After a round the next wrapper is where the wrapper around it was. -/
theorem get?_unwrapped_ast : (Json.unwrapped fs inner).get? "ast" = inner.get? "ast" := by
  rw [get?_unwrapped hfs hast, Fields.get?_erase_self, Option.or_none]

/-- A round shortens the chain by one object. -/
theorem Wrappers.unwrapped {rest : List Fields} (hrest : Wrappers inner (inner :: rest)) :
    Wrappers (Json.unwrapped fs inner) (Json.unwrapped fs inner :: rest) := by
  have hnext := get?_unwrapped_ast hfs hast
  cases hrest with
  | last hlast => exact .last fun next => hnext ▸ hlast next
  | wrap hinner hrest => exact .wrap (hnext.trans hinner) hrest

/-- What hoisting gives does not change from round to round. -/
theorem hoistedFields_unwrapped :
    hoistedFields (.object (Json.unwrapped fs inner)) = hoistedFields (.object fs) := by
  have hround := ordered_unwrapped hfs hast
  refine hround.hoistedFields.1.ext hfs.hoistedFields.1 fun key => ?_
  by_cases hkey : key = "ast"
  · rw [hkey, get?_hoistedFields_ast hround, get?_hoistedFields_ast hfs]
  · obtain ⟨objects, hrest⟩ := exists_wrappers inner
    obtain ⟨rest, rfl⟩ := hrest.eq_cons
    rw [(Wrappers.unwrapped hfs hast hrest).get?_hoistedFields hround hkey,
      (Wrappers.wrap hast hrest).get?_hoistedFields hfs hkey]
    simp only [innermost?_cons]
    rw [get?_unwrapped hfs hast, Fields.get?_erase_ne hkey, Option.or_assoc]

end Round

/-- The loop ends after as many rounds as there are objects, with what hoisting gives. -/
theorem Wrappers.unwrapWithin {fs : Fields} {objects : List Fields} (h : Wrappers fs objects)
    (hfs : (Json.object fs).Ordered) {rounds : Nat} (hrounds : objects.length ≤ rounds) :
    unwrapWithin rounds fs = some (hoistedFields (.object fs)) := by
  induction rounds generalizing fs objects with
  | zero => cases h <;> cases hrounds
  | succ rounds ih =>
    cases h with
    | last hlast => rw [unwrapWithin_last hlast, hoistedFields_last hlast]
    | @wrap _ inner rest hast hrest =>
      obtain ⟨rest, rfl⟩ := hrest.eq_cons
      have hround := Wrappers.unwrapped hfs hast hrest
      rw [unwrapWithin_wrap hast, ih hround (ordered_unwrapped hfs hast)
        (Nat.le_of_succ_le_succ hrounds),
        hoistedFields_unwrapped hfs hast]

/-! ## Hoisting a value -/

/-- Only an object changes. What it becomes has no `ast` left, and each key has the value of the
innermost wrapper that has it. -/
theorem hoist_innermost_wins (v : Json) (hv : v.Ordered) :
    v.hoist.hoist = v.hoist ∧ ((∀ fs, v ≠ .object fs) → v.hoist = v) ∧
    ∀ fs : Fields, v = .object fs → ∃ gs : Fields, v.hoist = .object gs ∧ gs.has "ast" = false ∧
      (∀ inner, fs.get? "ast" = some (.object inner) →
        ∃ hs : Fields, (Json.object inner).hoist = .object hs ∧ gs = (fs.erase "ast").extend hs ∧
          ∀ key, gs.get? key = (hs.get? key).or ((fs.erase "ast").get? key)) ∧
      (∃ objects, Wrappers fs objects) ∧
      ∀ objects, Wrappers fs objects →
        (∀ rounds, objects.length ≤ rounds → unwrapWithin rounds fs = some gs) ∧
        ∀ key, key ≠ "ast" → gs.get? key = innermost? objects key := by
  refine ⟨hv.hoist_hoist, fun hother => ?_, ?_⟩
  · cases v with
    | object fs => exact (hother fs rfl).elim
    | _ => rfl
  · rintro fs rfl
    refine ⟨hoistedFields (.object fs), rfl, ?_,
      fun inner hast => ⟨_, rfl, hoistedFields_wrap hast, get?_hoistedFields_wrap hv hast⟩,
      exists_wrappers fs, fun objects hobjects => ⟨fun rounds => hobjects.unwrapWithin hv,
        fun key => hobjects.get?_hoistedFields hv⟩⟩
    rw [Fields.has_eq_isSome, get?_hoistedFields_ast hv]
    rfl

/-- Of three objects inside each other the inner two both have a type. -/
def doublyWrapped : Fields :=
  [("ast", .object [("ast", .object [("type", .string "null")]), ("type", .string "star")]),
    ("columns", .null)]

theorem doublyWrapped_innermost :
    ∃ gs : Fields, (Json.object doublyWrapped).hoist = .object gs ∧ gs.has "ast" = false ∧
      gs.get? "type" = some (.string "null") ∧ gs.get? "columns" = some .null := by
  have hordered : (Json.object doublyWrapped).Ordered := ordered_iff.mpr rfl
  obtain ⟨-, -, hobject⟩ := hoist_innermost_wins _ hordered
  obtain ⟨gs, hgs, hast, -, -, hkeys⟩ := hobject _ rfl
  have hwrappers := hkeys _ (.wrap rfl (.wrap rfl (.last fun _ => nofun)))
  exact ⟨gs, hgs, hast, hwrappers.2 "type" (by decide), hwrappers.2 "columns" (by decide)⟩

end SqlWeave.Json
