import SqlWeave.Proofs.Wire.Part

/-! Limits as the readers and the parser build them. The words kept after a count are upper case and
free of blanks, so keeping them once more changes nothing. -/

namespace SqlWeave

/-! ## Words -/

namespace Text

theorem toUpper_facts (c : Char) :
    isBlank c.toUpper = isBlank c ∧ c.toUpper.toUpper = c.toUpper := by
  by_cases h : 'a'.val ≤ c.val ∧ c.val ≤ 'z'.val
  · have hall : ∀ n < 123, 97 ≤ n → isBlank (Char.ofNat n).toUpper = isBlank (Char.ofNat n) ∧
        (Char.ofNat n).toUpper.toUpper = (Char.ofNat n).toUpper := by decide
    have hlow : 97 ≤ c.toNat := h.1
    have hhigh : c.toNat ≤ 122 := h.2
    have hc := hall c.toNat (by omega) hlow
    rwa [Char.ofNat_toNat] at hc
  · have hsame : c.toUpper = c := dif_neg h
    simp only [hsame, and_self]

/-- A word: not empty, and without blanks. -/
def Unbroken (cs : List Char) : Prop := cs ≠ [] ∧ ∀ c ∈ cs, isBlank c = false

theorem wordsFrom_unbroken {word cs w : List Char} (hword : ∀ c ∈ word, isBlank c = false)
    (hw : w ∈ wordsFrom word cs) : Unbroken w := by
  induction cs generalizing word with
  | nil =>
    rw [wordsFrom] at hw
    split at hw
    · cases hw
    · rename_i hne
      obtain rfl := List.mem_singleton.mp hw
      exact ⟨by simpa using hne, fun c hc => hword c (List.mem_reverse.mp hc)⟩
  | cons c cs ih =>
    rw [wordsFrom] at hw
    split at hw
    · split at hw
      · exact ih (List.forall_mem_nil _) hw
      · rename_i hne
        rcases List.mem_cons.mp hw with rfl | hw
        · exact ⟨by simpa using hne, fun c hc => hword c (List.mem_reverse.mp hc)⟩
        · exact ih (List.forall_mem_nil _) hw
    · rename_i hblank
      have hlonger : ∀ d ∈ c :: word, isBlank d = false :=
        List.forall_mem_cons.mpr ⟨Bool.eq_false_iff.mpr hblank, hword⟩
      exact ih hlonger hw

theorem wordsFrom_of_unbroken {word cs : List Char} (hcs : ∀ c ∈ cs, isBlank c = false)
    (hne : word ++ cs ≠ []) : wordsFrom word cs = [word.reverse ++ cs] := by
  induction cs generalizing word with
  | nil =>
    have hword : word.isEmpty = false := by simpa using hne
    simp [wordsFrom, hword]
  | cons c cs ih =>
    have hblank : isBlank c = false := hcs c List.mem_cons_self
    rw [wordsFrom, if_neg (by simp [hblank]),
      ih (fun d hd => hcs d (List.mem_cons_of_mem _ hd)) (by simp)]
    simp

/-- A word that is already in upper case is the only word of itself. -/
theorem words_asciiUpper {s w : String} (hw : w ∈ words s) :
    words (asciiUpper w) = [asciiUpper w] ∧ asciiUpper (asciiUpper w) = asciiUpper w := by
  obtain ⟨cs, hcs, rfl⟩ := List.mem_map.mp hw
  obtain ⟨hne, hblank⟩ := wordsFrom_unbroken (List.forall_mem_nil _) hcs
  constructor
  · have hupper : ∀ c ∈ cs.map Char.toUpper, isBlank c = false := by
      intro c hc
      obtain ⟨d, hd, rfl⟩ := List.mem_map.mp hc
      rw [(toUpper_facts d).1, hblank d hd]
    have hwords : wordsFrom [] (cs.map Char.toUpper) = _ :=
      wordsFrom_of_unbroken hupper (by simpa using hne)
    simp [words, asciiUpper, hwords]
  · simp [asciiUpper, Function.comp_def, fun c => (toUpper_facts c).2]

/-- Splitting into words and putting them in upper case does it once and for all. -/
theorem upperWords_idem (ss : List String) :
    (((ss.flatMap words).map asciiUpper).flatMap words).map asciiUpper =
      (ss.flatMap words).map asciiUpper := by
  have hfacts : ∀ w ∈ ss.flatMap words, words (asciiUpper w) = [asciiUpper w] ∧
      asciiUpper (asciiUpper w) = asciiUpper w := fun w hw => by
    obtain ⟨s, -, hs⟩ := List.mem_flatMap.mp hw
    exact words_asciiUpper hs
  generalize ss.flatMap words = ws at hfacts
  induction ws with
  | nil => rfl
  | cons w ws ih =>
    obtain ⟨hwords, hupper⟩ := hfacts w List.mem_cons_self
    simp only [List.map_cons, List.flatMap_cons, hwords, hupper,
      ih fun w hw => hfacts w (List.mem_cons_of_mem _ hw), List.singleton_append]

end Text

/-! ## Limits -/

section

variable {E : Type}

namespace Limit

theorem withFetchSuffix_idem (l : Limit E) (ss : List String) :
    (l.withFetchSuffix ss).withFetchSuffix (l.withFetchSuffix ss).fetchSuffix =
      l.withFetchSuffix ss := by
  by_cases h : ((ss.flatMap Text.words).map Text.asciiUpper).all isPlainWord = true
  · simp [withFetchSuffix, h]
  · simp only [withFetchSuffix, h, Bool.false_eq_true, if_false, Text.upperWords_idem]

theorem settled_withFetchSuffix {l : Limit E} (hcomma : l.comma = false) (ss : List String)
    (hsome : l.count.isSome ∨ l.offset.isSome) (hcount : l.count = none → ss = []) :
    (l.withFetchSuffix ss).Settled where
  some := hsome
  comma h := absurd (hcomma.symm.trans h) (by decide)
  suffix h := by
    refine ⟨?_, l.withFetchSuffix_idem ss⟩
    rcases hl : l.count with _ | count
    · rw [hcount hl] at h
      exact absurd rfl h
    · simp [withFetchSuffix, hl]

theorem settled_ofCount (count : E) : (ofCount count).Settled := ⟨.inl rfl, nofun, nofun⟩

theorem settled_ofOffset (offset : E) : (ofOffset offset).Settled := ⟨.inr rfl, nofun, nofun⟩

theorem settled_withOffset (count offset : E) : ((ofCount count).withOffset offset).Settled :=
  ⟨.inl rfl, nofun, nofun⟩

theorem settled_withComma (count offset : E) :
    ((ofCount count).withOffset offset).withComma.Settled :=
  ⟨.inl rfl, fun _ => ⟨rfl, rfl, rfl⟩, nofun⟩

end Limit

/-! ## Shapes of limits -/

namespace LimitShape

/-- The values of a shape. -/
def values : LimitShape E → List E
  | .separated _ values => values
  | .fetchOffset fetch _ offset => fetch.toList ++ offset.toList
  | .list items => items
  | .bare count => [count]

/-- Words are kept only after a count. -/
def Sound : LimitShape E → Prop
  | .fetchOffset none words _ => words = []
  | _ => True

theorem normalize_settled {shape : LimitShape E} {l : Limit E} (hshape : shape.Sound)
    (h : shape.normalize = some l) :
    l.Settled ∧ ∀ e, l.count = some e ∨ l.offset = some e → e ∈ shape.values := by
  cases shape with
  | separated separator vs =>
    rcases vs with _ | ⟨v, _ | ⟨w, _ | ⟨_, _⟩⟩⟩
    · nomatch h
    · rw [normalize, Option.some.injEq] at h
      split at h <;> subst h
      · exact ⟨Limit.settled_ofOffset v, by simp [values, Limit.ofOffset, eq_comm]⟩
      · exact ⟨Limit.settled_ofCount v, by simp [values, Limit.ofCount, eq_comm]⟩
    · rw [normalize, Option.some.injEq] at h
      split at h <;> subst h
      · exact ⟨Limit.settled_withComma w v, by
          simp [values, Limit.ofCount, Limit.withOffset, Limit.withComma, eq_comm, or_comm]⟩
      · exact ⟨Limit.settled_withOffset v w, by
          simp [values, Limit.ofCount, Limit.withOffset, eq_comm]⟩
    · nomatch h
  | fetchOffset fetch words offset =>
    rcases fetch with _ | count
    · rcases offset with _ | offset
      · nomatch h
      · obtain rfl : words = [] := hshape
        cases h
        exact ⟨Limit.settled_withFetchSuffix rfl [] (.inr rfl) fun _ => rfl, by
          simp [values, Limit.withFetchSuffix, eq_comm]⟩
    · cases h
      refine ⟨Limit.settled_withFetchSuffix rfl words (.inl rfl) nofun, fun e he => ?_⟩
      rcases he with hcount | hoffset
      · cases hcount
        exact List.mem_cons_self
      · obtain rfl : offset = some e := hoffset
        simp [values]
  | list items =>
    rcases items with _ | ⟨v, _ | ⟨w, _ | ⟨_, _⟩⟩⟩
    · nomatch h
    · cases h
      exact ⟨Limit.settled_ofCount v, by simp [values, Limit.ofCount, eq_comm]⟩
    · cases h
      exact ⟨Limit.settled_withOffset w v, by simp [values, Limit.ofCount, Limit.withOffset,
        eq_comm, or_comm]⟩
    · nomatch h
  | bare count =>
    cases h
    exact ⟨Limit.settled_ofCount count, by simp [values, Limit.ofCount, eq_comm]⟩

end LimitShape

end

end SqlWeave
