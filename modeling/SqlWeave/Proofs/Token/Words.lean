import SqlWeave.Proofs.Token.Pieces
import SqlWeave.Text.Case

/-! Words, in whatever case they are written and whatever ends them. -/

namespace SqlWeave

namespace Text

theorem toUpper_toLower (c : Char) : c.toLower.toUpper = c.toUpper := by
  by_cases h : 'A'.val ≤ c.val ∧ c.val ≤ 'Z'.val
  · have hall : ∀ n < 91, 65 ≤ n →
        (Char.ofNat n).toLower.toUpper = (Char.ofNat n).toUpper := by decide
    have hlow : 65 ≤ c.toNat := h.1
    have hhigh : c.toNat ≤ 90 := h.2
    have hc := hall c.toNat (by omega) hlow
    rwa [Char.ofNat_toNat] at hc
  · have hsame : c.toLower = c := dif_neg h
    rw [hsame]

theorem asciiUpper_congr {a b : String} (h : sameAscii a b = true) :
    asciiUpper a = asciiUpper b := by
  have hupper (s : String) :
      s.toList.map Char.toUpper = (s.toList.map Char.toLower).map Char.toUpper := by
    rw [List.map_map]
    exact List.map_congr_left fun c _ => (toUpper_toLower c).symm
  rw [asciiUpper, asciiUpper, hupper a, hupper b, beq_iff_eq.mp h]

/-- Only the letters of ASCII become such letters. -/
theorem toNat_of_toLower {c : Char} (h : c.toLower.toNat < 0x80) : c.toNat < 0x80 := by
  by_cases hupper : 'A'.val ≤ c.val ∧ c.val ≤ 'Z'.val
  · exact Nat.lt_of_le_of_lt (show c.toNat ≤ 90 from hupper.2) (by decide)
  · rwa [show c.toLower = c from dif_neg hupper] at h

theorem lowerFrom_ascii (before : List Char) {cs : List Char} (h : ∀ c ∈ cs, c.toNat < 0x80) :
    lowerFrom before cs = cs.map Char.toLower := by
  induction cs generalizing before with
  | nil => rfl
  | cons c cs ih =>
    have hc := h c List.mem_cons_self
    have hne : c ≠ 'Σ' := by
      rintro rfl
      exact absurd hc (by decide)
    rw [lowerFrom, if_neg hne, ih _ fun d hd => h d (List.mem_cons_of_mem c hd), lowerChar,
      if_pos hc]
    rfl

/-- A word that is one of ASCII in small letters is that word. -/
theorem lower_of_sameAscii {a b : String} (h : sameAscii a b = true)
    (hb : b.toList.all (·.toNat < 0x80) = true) (hsmall : b.toList.map Char.toLower = b.toList) :
    lower a = b := by
  have hsame : a.toList.map Char.toLower = b.toList := (beq_iff_eq.mp h).trans hsmall
  have hascii : ∀ c ∈ a.toList, c.toNat < 0x80 := by
    intro c hc
    have hmem : c.toLower ∈ b.toList := hsame ▸ List.mem_map_of_mem hc
    exact toNat_of_toLower (of_decide_eq_true (List.all_eq_true.mp hb _ hmem))
  rw [lower, lowerFrom_ascii [] hascii, hsame, String.ofList_toList]

end Text

theorem Keyword.lookup?_congr {a b : String} (h : Text.sameAscii a b = true) :
    lookup? a = lookup? b := by
  rw [lookup?, lookup?, Text.asciiUpper_congr h]

theorem toNat_of_isAlpha {c : Char} (h : c.isAlpha = true) : c.toNat < 0x80 := by
  delta Char.isAlpha Char.isUpper Char.isLower at h
  simp only [Bool.or_eq_true, Bool.and_eq_true, decide_eq_true_eq, ge_iff_le,
    UInt32.le_iff_toNat_le] at h
  rcases h with ⟨-, hlast⟩ | ⟨-, hlast⟩
  · exact Nat.lt_of_le_of_lt hlast (by decide)
  · exact Nat.lt_of_le_of_lt hlast (by decide)

theorem isAlphabetic_of_isAlpha {c : Char} (h : c.isAlpha = true) : Text.isAlphabetic c = true := by
  rw [Text.isAlphabetic, if_pos (toNat_of_isAlpha h), h]

theorem isNumeric_of_isDigit {c : Char} (h : c.isDigit = true) : Text.isNumeric c = true := by
  have hcode : c.toNat < 0x80 := by
    simp only [Char.isDigit, Bool.and_eq_true, decide_eq_true_eq, ge_iff_le,
      UInt32.le_iff_toNat_le] at h
    exact Nat.lt_of_le_of_lt h.2 (by decide)
  rw [Text.isNumeric, if_pos hcode, h]

namespace Token

theorem isAlpha_of_toLower {c : Char} (h : c.toLower.isAlpha = true) : c.isAlpha = true := by
  by_cases hupper : 'A'.val ≤ c.val ∧ c.val ≤ 'Z'.val
  · have hletter : c.isUpper = true := decide_eq_true hupper
    exact Bool.or_eq_true_iff.mpr (.inl hletter)
  · rwa [show c.toLower = c from dif_neg hupper] at h

/-- A name that differs from a word of letters in case only is a word. -/
theorem isWord_of_sameAscii {a b : String} (h : Text.sameAscii a b = true) (hne : b ≠ "")
    (hb : b.toList.all (·.toLower.isAlpha) = true) : isWord a = true := by
  have hsame : a.toList.map Char.toLower = b.toList.map Char.toLower := beq_iff_eq.mp h
  have hletters : ∀ c ∈ a.toList, c.isAlpha = true := by
    intro c hc
    have hmem : c.toLower ∈ b.toList.map Char.toLower := hsame ▸ List.mem_map_of_mem hc
    obtain ⟨x, hx, hlower⟩ := List.mem_map.mp hmem
    exact isAlpha_of_toLower (hlower ▸ List.all_eq_true.mp hb x hx)
  cases ha : a.toList with
  | nil =>
    rw [ha, List.map_nil, eq_comm, List.map_eq_nil_iff] at hsame
    exact absurd (String.toList_eq_nil_iff.mp hsame) hne
  | cons c cs =>
    rw [ha] at hletters
    have hstart : isNameStart c = true := by
      rw [isNameStart, isAlphabetic_of_isAlpha (hletters c List.mem_cons_self), Bool.true_or]
    have hrest : cs.all isNameChar = true := List.all_eq_true.mpr fun d hd => by
      have hd := isAlphabetic_of_isAlpha (hletters d (List.mem_cons_of_mem c hd))
      rw [isNameChar, Text.isAlphanumeric, hd, Bool.true_or, Bool.true_or, Bool.true_or]
    rw [isWord, ha]
    exact Bool.and_eq_true_iff.mpr ⟨hstart, hrest⟩

theorem endsWord_of_isApart {rest : List Char} (h : isApart rest = true) :
    endsWord rest = true := by
  cases rest with
  | nil => rfl
  | cons c cs =>
    have hc : stopsToken c = true := stopsToken_of_endsToken h
    have hquote : c ≠ '\'' := boundary_ne hc (by decide)
    simp [endsWord, isNameChar_boundary hc, hquote]

/-- A word is one piece before whatever ends it. -/
theorem Cuts.word {q : Quoting} {name : String} {rest : List Char} (h : isWord name = true)
    (hrest : endsWord rest = true) : Cuts q rest name.toList [.ofWord name] := by
  unfold isWord at h
  cases hname : name.toList with
  | nil => simp [hname] at h
  | cons c cs =>
    obtain ⟨hstart, hcs⟩ : isNameStart c = true ∧ cs.all isNameChar = true := by
      simpa [hname] using h
    have hscan : scan q c (cs ++ rest) = (wordKind name, cs.length) := by
      rw [scan_word q hstart (startsHex_word hcs hrest), scanWord_eq, countWhile,
        takeWhile_word hcs hrest, ← hname, String.ofList_toList]
    have hcuts := Cuts.whole (isNameStart_not_blank hstart) (comment?_of_isNameStart hstart _) hscan
    rw [← hname, String.ofList_toList] at hcuts
    rwa [← hname]

end Token

end SqlWeave
