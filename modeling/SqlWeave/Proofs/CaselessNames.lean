import Mathlib.Data.List.Forall2
import SqlWeave.Pattern.Parser

/-! Names in any case. Two names are the same up to case if their letters fold alike. A pattern that
asks for one set of characters after another, from the start of the text to its end, matches only
texts that are made so. -/

namespace SqlWeave

open Pattern (CharSet Marks foldRuns)

/-! ## Case -/

/-- The letter that stands for all those that differ from this one in case only. -/
def foldedChar (c : Char) : Char :=
  match foldRuns.findSome? (·.partner? c.toNat) with
  | some code => Char.ofNat code
  | none => c

/-- The same name up to case. -/
def Caseless (s t : String) : Prop := s.toList.map foldedChar = t.toList.map foldedChar

instance (s t : String) : Decidable (Caseless s t) := inferInstanceAs (Decidable (_ = _))

theorem Text.CaseRun.le_partner {run : Text.CaseRun} {n code : Nat}
    (h : run.partner? n = some code) :
    run.first + run.shift ≤ code := by
  unfold partner? at h
  split at h
  · rename_i hcond
    simp only [Bool.and_eq_true, decide_eq_true_eq] at hcond
    cases h
    have hfirst : (run.first : Int) ≤ n := Int.ofNat_le.mpr hcond.1.1
    have hself := Int.self_le_toNat (Int.ofNat n + run.shift)
    simp only [Int.ofNat_eq_natCast] at hself ⊢
    omega
  · cases h

/-- A letter folds to a letter. -/
theorem lt_of_partner {c : Char} {code : Nat}
    (h : foldRuns.findSome? (·.partner? c.toNat) = some code) :
    ':'.toNat < code := by
  have hrises : foldRuns.all (fun run => 58 < run.first + run.shift) = true := by decide +kernel
  obtain ⟨run, hrun, hpartner⟩ := List.exists_of_findSome?_eq_some h
  have hlow := of_decide_eq_true (List.all_eq_true.mp hrises run hrun)
  have hle := Text.CaseRun.le_partner hpartner
  show 58 < code
  omega

theorem foldedChar_eq_colon {c : Char} : foldedChar c = ':' ↔ c = ':' := by
  constructor
  · intro h
    unfold foldedChar at h
    split at h
    · rename_i code hcode
      have hlt := lt_of_partner hcode
      have hne : (Char.ofNat code).toNat ≠ 58 := by
        by_cases hvalid : code.isValidChar
        · have hcode : Char.ofNat code = Char.ofNatAux code hvalid := dif_pos hvalid
          rw [hcode]
          exact (Nat.ne_of_lt hlt).symm
        · have hnone : Char.ofNat code = ⟨0, _⟩ := dif_neg hvalid
          rw [hnone]
          decide
      exact absurd (congrArg Char.toNat h) hne
    · exact h
  · rintro rfl
    decide +kernel

/-- The small letters fold to themselves, and the capitals to them. -/
theorem foldedChar_small {c : Char} (hlow : 91 ≤ c.toNat) (hhigh : c.toNat ≤ 122) :
    foldedChar c = c := by
  have hapart : foldRuns.all (fun run => run.last < 91 || 122 < run.first) = true := by
    decide +kernel
  have hnone : foldRuns.findSome? (·.partner? c.toNat) = none := by
    refine List.findSome?_eq_none_iff.mpr fun run hrun => ?_
    have hrun := List.all_eq_true.mp hapart run hrun
    simp only [Bool.or_eq_true, decide_eq_true_eq] at hrun
    refine if_neg fun hin => ?_
    simp only [Bool.and_eq_true, decide_eq_true_eq] at hin
    omega
  rw [foldedChar, hnone]

theorem foldedChar_capital {c : Char} (hlow : 65 ≤ c.toNat) (hhigh : c.toNat ≤ 90) :
    foldedChar c = Char.ofNat (c.toNat + 32) := by
  have hsome : foldRuns.findSome? (·.partner? c.toNat) = some (c.toNat + 32) := by
    refine List.findSome?_eq_some_iff.mpr ⟨[], ⟨0x41, 0x5A, 1, 32⟩, foldRuns.tail, rfl, ?_, nofun⟩
    refine if_pos ?_
    simp only [Bool.and_eq_true, decide_eq_true_eq, beq_iff_eq]
    omega
  rw [foldedChar, hsome]

theorem toNat_toUpper {c : Char} (hlow : 97 ≤ c.toNat) (hhigh : c.toNat ≤ 122) :
    c.toUpper.toNat = c.toNat - 32 := by
  have hupper : c.toUpper = ⟨c.val + ('A'.val - 'a'.val), _⟩ := dif_pos ⟨hlow, hhigh⟩
  have hval : c.val.toNat = c.toNat := rfl
  have hshift : ('A'.val - 'a'.val).toNat = 2 ^ 32 - 32 := rfl
  rw [hupper, Char.toNat, UInt32.toNat_add, hval, hshift]
  omega

theorem foldedChar_toUpper (c : Char) : foldedChar c.toUpper = foldedChar c := by
  by_cases h : 97 ≤ c.toNat ∧ c.toNat ≤ 122
  · have hupper := toNat_toUpper h.1 h.2
    rw [foldedChar_capital (by omega) (by omega), foldedChar_small (by omega) h.2, hupper,
      Nat.sub_add_cancel (by omega), Char.ofNat_toNat]
  · exact congrArg foldedChar (dif_neg h)

theorem Caseless.length_eq {s t : String} (h : Caseless s t) :
    s.toList.length = t.toList.length := by
  simpa only [List.length_map] using congrArg List.length h

/-- Marks stay marks in any case. -/
theorem Caseless.marked {s t : String} (h : Caseless s t) (hs : [':', ':'] <:+: s.toList) :
    [':', ':'] <:+: t.toList := by
  obtain ⟨before, after, hsplit⟩ := hs
  rw [Caseless, ← hsplit] at h
  simp only [List.map_append, List.map_cons, List.map_nil] at h
  obtain ⟨left, after', htext, hleft, -⟩ := List.map_eq_append_iff.mp h.symm
  obtain ⟨before', marks, rfl, -, hmarks⟩ := List.map_eq_append_iff.mp hleft
  obtain ⟨a, rest, rfl, ha, hrest⟩ := List.map_eq_cons_iff.mp hmarks
  obtain ⟨b, rest, rfl, hb, hnil⟩ := List.map_eq_cons_iff.mp hrest
  obtain rfl := List.map_eq_nil_iff.mp hnil
  obtain rfl := foldedChar_eq_colon.mp (ha.trans (foldedChar_eq_colon.mpr rfl))
  obtain rfl := foldedChar_eq_colon.mp (hb.trans (foldedChar_eq_colon.mpr rfl))
  exact ⟨before', after', htext.symm⟩

/-! ## Sets of characters between anchors -/

namespace Pattern

/-- No mark but perhaps the one where so many characters are behind and so many ahead. -/
def marksAt (behind : Nat) (mark : Bool) (ahead : Nat) : Marks :=
  List.replicate behind false ++ mark :: List.replicate ahead false

theorem marks_textStart : ∀ (c : Char) (cs : List Char),
    Look.textStart.marks (some c) cs = List.replicate (cs.length + 1) false
  | _, [] => rfl
  | _, d :: cs => congrArg (false :: ·) (marks_textStart d cs)

theorem marks_textEnd : ∀ (before : Option Char) (cs : List Char),
    Look.textEnd.marks before cs = List.replicate cs.length false ++ [true]
  | _, [] => rfl
  | _, c :: cs => congrArg (false :: ·) (marks_textEnd (some c) cs)

theorem zipWith_false {α : Type} {f : α → Bool → Bool} (hf : ∀ x, f x false = false) :
    ∀ (xs : List α) (n : Nat), xs.zipWith f (List.replicate (xs.length + n) false) =
      List.replicate xs.length false
  | [], _ => rfl
  | x :: xs, n => by
    rw [List.length_cons, Nat.succ_add, List.replicate_succ, List.zipWith_cons_cons, hf,
      zipWith_false hf xs n, List.replicate_succ]

theorem zipWith_true : ∀ marks : Marks,
    Marks.intersection (List.replicate marks.length true) marks = marks
  | [] => rfl
  | mark :: marks => congrArg (mark :: ·) (zipWith_true marks)

theorem start_marksAt (text : List Char) :
    Marks.intersection (List.replicate (text.length + 1) true) (Look.textStart.marks none text) =
      marksAt 0 true text.length := by
  have hstart : Look.textStart.marks none text = marksAt 0 true text.length := by
    cases text with
    | nil => rfl
    | cons c cs => exact congrArg (true :: ·) (marks_textStart c cs)
  have hlength : text.length + 1 = (marksAt 0 true text.length).length := by simp [marksAt]
  rw [hstart, hlength, zipWith_true]

theorem step_marksAt (test : Char → Bool) (mark : Bool) (before : List Char) (c : Char)
    (after : List Char) :
    (marksAt before.length mark (c :: after).length).step (before ++ c :: after) test =
      marksAt (before ++ [c]).length (mark && test c) after.length := by
  have hbefore := zipWith_false (f := fun c mark => mark && test c) (fun _ => rfl) before 0
  have hafter := zipWith_false (f := fun c mark => mark && test c) (fun _ => rfl) after 1
  rw [Nat.add_zero] at hbefore
  rw [Marks.step, marksAt, List.zipWith_append (by simp), hbefore, List.zipWith_cons_cons,
    List.length_cons, hafter, marksAt, List.length_append, List.length_singleton,
      List.replicate_succ, List.cons_append]

/-- Behind the end there is nothing to step over. -/
theorem step_marksAt_end (test : Char → Bool) (mark : Bool) (before : List Char) :
    (marksAt before.length mark 0).step before test = marksAt before.length false 0 := by
  have hbefore := zipWith_false (f := fun c mark => mark && test c) (fun _ => rfl) before 0
  rw [Nat.add_zero] at hbefore
  have hstep : before.zipWith (fun c mark => mark && test c) (marksAt before.length mark 0) =
      (before ++ []).zipWith (fun c mark => mark && test c) (List.replicate before.length false ++
        [mark]) := by
    rw [List.append_nil, marksAt, List.replicate_zero]
  rw [Marks.step, hstep, List.zipWith_append (by simp), hbefore, List.zipWith_nil_left,
    List.append_nil, marksAt, List.replicate_zero, ← List.replicate_succ, List.replicate_succ']

theorem intersection_false : ∀ marks : Marks,
    Marks.intersection (List.replicate marks.length false) marks = List.replicate marks.length false
  | [] => rfl
  | _ :: marks => congrArg (false :: ·) (intersection_false marks)

/-- Only the mark behind the last character stands at the end. -/
theorem any_end_marksAt (mark : Bool) (before after : List Char) :
    ((marksAt before.length mark after.length).intersection
      (Look.textEnd.marks none (before ++ after))).any id = true ↔
      mark = true ∧ after = [] := by
  have hend : Look.textEnd.marks none (before ++ after) =
      List.replicate before.length false ++ (List.replicate after.length false ++ [true]) := by
    rw [marks_textEnd, List.length_append, ← List.replicate_append_replicate, List.append_assoc]
  have hbefore := intersection_false (List.replicate before.length false)
  rw [List.length_replicate, Marks.intersection] at hbefore
  rw [hend, Marks.intersection, marksAt, List.zipWith_append rfl, hbefore, List.any_append]
  cases after with
  | nil => simp
  | cons c cs =>
    have hafter := intersection_false (List.replicate cs.length false ++ [true])
    rw [List.length_append, List.length_replicate, List.length_singleton,
      Marks.intersection] at hafter
    have hshape : List.replicate (c :: cs).length false ++ [true] =
        false :: (List.replicate cs.length false ++ [true]) := rfl
    rw [hshape, List.zipWith_cons_cons, List.length_cons, hafter]
    simp

/-- What is matched from one place to the end of the text. -/
theorem any_advance_sets (sets : List CharSet) (mark : Bool) (before after : List Char) :
    (advanceAll (before ++ after) (sets.map .chars ++ [.look .textEnd])
      (marksAt before.length mark after.length)).any id
        = true ↔
      mark = true ∧ List.Forall₂ (fun s c => s.has c = true) sets after := by
  induction sets generalizing mark before after with
  | nil =>
    rw [List.forall₂_nil_left_iff, ← any_end_marksAt]
    rfl
  | cons s sets ih =>
    have hadvance (text : List Char) (marks : Marks) :
        advanceAll text ((s :: sets).map .chars ++ [.look .textEnd]) marks =
          advanceAll text (sets.map .chars ++ [.look .textEnd]) (marks.step text s.has) := by
      rw [List.map_cons, List.cons_append, advanceAll, advance]
    rw [hadvance]
    cases after with
    | nil =>
      have hnone := ih false before []
      rw [List.append_nil, List.length_nil] at hnone ⊢
      rw [step_marksAt_end, hnone]
      simp
    | cons c cs =>
      have hrest := ih (mark && s.has c) (before ++ [c]) cs
      rw [List.append_assoc, List.singleton_append] at hrest
      rw [step_marksAt, hrest, List.forall₂_cons, Bool.and_eq_true, and_assoc]

/-- One character of each set in turn, from the start of the text to its end. -/
def anchoredSets (sets : List CharSet) : Pattern :=
  .sequence (.look .textStart :: (sets.map .chars ++ [.look .textEnd]))

theorem isMatch_anchoredSets (sets : List CharSet) (text : String) :
    (anchoredSets sets).isMatch text = true ↔
      List.Forall₂ (fun s c => s.has c = true) sets text.toList := by
  have hsets := any_advance_sets sets true [] text.toList
  rw [List.nil_append, List.length_nil, ← start_marksAt] at hsets
  rw [isMatch, anchoredSets, advance, advanceAll, advance, ← String.length_toList, hsets]
  simp

/-- The pattern of a name, each letter in capitals or in small. -/
def ofName (name : String) : Pattern :=
  anchoredSets (name.toList.map fun c => ⟨[⟨c.toUpper.toNat, c.toUpper.toNat⟩, ⟨c.toNat, c.toNat⟩]⟩)

theorem has_letterCases {c d : Char}
    (h : CharSet.has ⟨[⟨c.toUpper.toNat, c.toUpper.toNat⟩, ⟨c.toNat, c.toNat⟩]⟩ d = true) :
    d = c.toUpper ∨ d = c := by
  simp only [CharSet.has, CharRange.has, List.any_cons, List.any_nil, Bool.or_false,
    Bool.or_eq_true, Bool.and_eq_true, decide_eq_true_eq] at h
  exact h.imp (fun h => Char.toNat_inj.mp (Nat.le_antisymm h.2 h.1)) fun h =>
    Char.toNat_inj.mp (Nat.le_antisymm h.2 h.1)

theorem caseless_of_ofName {name text : String} (h : (ofName name).isMatch text = true) :
    Caseless text name := by
  have hsets := (isMatch_anchoredSets _ _).mp h
  rw [List.forall₂_map_left_iff] at hsets
  rw [Caseless]
  revert hsets
  generalize text.toList = cs
  generalize name.toList = ds
  intro hsets
  induction hsets with
  | nil => rfl
  | @cons d c ds cs hd _ ih =>
    rw [List.map_cons, List.map_cons, ih]
    congr 1
    rcases has_letterCases hd with rfl | rfl
    · exact foldedChar_toUpper d
    · rfl

end Pattern

end SqlWeave
