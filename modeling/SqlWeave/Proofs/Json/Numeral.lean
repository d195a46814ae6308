import Mathlib.Data.List.TakeWhile
import SqlWeave.Json.Printer
import SqlWeave.Json.Reader
import SqlWeave.Proofs.Digits

/-! Numbers in JSON text. What is read of a number does not hang on what comes after it, as long as
no number goes on there, and integers of 64 bits are read back from their texts. -/

namespace SqlWeave.Json

open Decimal (naturalOf)

/-- No number goes on with what comes next. -/
def EndsNumber (rest : List Char) : Prop :=
  ∀ c ∈ rest.head?, c.isDigit = false ∧ c ≠ '.' ∧ c ≠ 'e' ∧ c ≠ 'E'

section Append

variable {p : Char → Bool} {rest : List Char} (hrest : ∀ c ∈ rest.head?, p c = false)
include hrest

theorem takeWhile_append_of_head (cs : List Char) : (cs ++ rest).takeWhile p = cs.takeWhile p := by
  induction cs with
  | nil => cases rest <;> simp_all
  | cons c cs ih => rw [List.cons_append, List.takeWhile_cons, List.takeWhile_cons, ih]

theorem dropWhile_append_of_head (cs : List Char) :
    (cs ++ rest).dropWhile p = cs.dropWhile p ++ rest := by
  induction cs with
  | nil => cases rest <;> simp_all
  | cons c cs ih =>
    rw [List.cons_append, List.dropWhile_cons, List.dropWhile_cons, ih]
    split <;> rfl

end Append

/-- The digits before the point: a zero stands alone. -/
def wholeDigits : List Char → List Char
  | '0' :: _ => ['0']
  | cs => cs.takeWhile Char.isDigit

/-- A numeral after its sign. -/
def readUnsigned (negative : Bool) (cs : List Char) : Option (Numeral × List Char) := do
  let whole := wholeDigits cs
  if whole.isEmpty then none
  else
    let rest := cs.drop whole.length
    if rest.head?.any Char.isDigit then none
    else
      let (fraction, rest) ← readFraction rest
      let (exponent, rest) ← readExponent rest
      return (⟨negative, whole, fraction, exponent⟩, rest)

theorem readNumeral_minus (cs : List Char) : readNumeral ('-' :: cs) = readUnsigned true cs := rfl

theorem readNumeral_of_ne {cs : List Char} (h : cs.head? ≠ some '-') :
    readNumeral cs = readUnsigned false cs := by
  unfold readNumeral
  split
  rename_i heq
  split at heq
  · simp at h
  · cases heq
    rfl

theorem wholeDigits_append {cs rest : List Char} (hrest : EndsNumber rest)
    (h : (wholeDigits cs).isEmpty = false) :
    wholeDigits (cs ++ rest) = wholeDigits cs := by
  cases cs with
  | nil => cases h
  | cons c cs =>
    by_cases hc : c = '0'
    · subst hc
      rfl
    · have hdigits (ds : List Char) : wholeDigits (c :: ds) = (c :: ds).takeWhile Char.isDigit := by
        unfold wholeDigits
        split
        · simp_all
        · rfl
      rw [List.cons_append, hdigits, hdigits, ← List.cons_append]
      exact takeWhile_append_of_head (fun c hc => (hrest c hc).1) _

theorem drop_wholeDigits_append (cs rest : List Char) :
    (cs ++ rest).drop (wholeDigits cs).length = cs.drop (wholeDigits cs).length ++ rest := by
  refine List.drop_append_of_le_length ?_
  unfold wholeDigits
  split
  · simp
  · exact (List.takeWhile_sublist _).length_le

theorem readFraction_append {cs tail rest : List Char} {fraction : Option (List Char)}
    (hrest : EndsNumber rest) (h : readFraction cs = some (fraction, tail)) :
    readFraction (cs ++ rest) = some (fraction, tail ++ rest) := by
  have hdigit : ∀ c ∈ rest.head?, Char.isDigit c = false := fun c hc => (hrest c hc).1
  by_cases hpoint : ∃ ds, cs = '.' :: ds
  · obtain ⟨ds, rfl⟩ := hpoint
    simp only [List.cons_append, readFraction, takeWhile_append_of_head hdigit,
      dropWhile_append_of_head hdigit] at h ⊢
    split at h
    · cases h
    · cases h
      rw [if_neg ‹_›]
  · have hnone (ds : List Char) (hds : ∀ es, ds ≠ '.' :: es) :
        readFraction ds = some (none, ds) := by
      unfold readFraction
      split
      · exact absurd rfl (hds _)
      · rfl
    rw [hnone cs fun es hes => hpoint ⟨es, hes⟩] at h
    cases h
    refine hnone _ fun es hes => ?_
    cases cs with
    | nil => exact (hrest '.' (by simp [show rest = _ from hes])).2.1 rfl
    | cons c cs => exact hpoint ⟨cs, by rw [(List.cons.inj hes).1]⟩

/-- The sign of an exponent and what follows it. -/
def exponentSign : List Char → Bool × List Char
  | '+' :: cs => (false, cs)
  | '-' :: cs => (true, cs)
  | cs => (false, cs)

/-- The digits of an exponent. -/
def exponentDigits (negative : Bool) (cs : List Char) : Option (Option Int × List Char) :=
  let ds := cs.takeWhile Char.isDigit
  let n : Int := Int.ofNat (naturalOf ds)
  if ds.isEmpty then none else some (some (if negative then -n else n), cs.dropWhile Char.isDigit)

theorem readExponent_cons (c : Char) (cs : List Char) : readExponent (c :: cs) =
    if c == 'e' || c == 'E' then exponentDigits (exponentSign cs).1 (exponentSign cs).2
    else some (none, c :: cs) := rfl

theorem exponentSign_append {cs : List Char} (h : cs ≠ []) (rest : List Char) :
    exponentSign (cs ++ rest) = ((exponentSign cs).1, (exponentSign cs).2 ++ rest) := by
  obtain ⟨c, cs, rfl⟩ := List.exists_cons_of_ne_nil h
  by_cases hplus : c = '+'
  · subst hplus
    rfl
  · by_cases hminus : c = '-'
    · subst hminus
      rfl
    · have hnone (ds : List Char) : exponentSign (c :: ds) = (false, c :: ds) := by
        unfold exponentSign
        split <;> simp_all
      rw [List.cons_append, hnone, hnone]
      rfl

theorem readExponent_append {cs tail rest : List Char} {exponent : Option Int}
    (hrest : EndsNumber rest) (h : readExponent cs = some (exponent, tail)) :
    readExponent (cs ++ rest) = some (exponent, tail ++ rest) := by
  have hdigit : ∀ c ∈ rest.head?, Char.isDigit c = false := fun c hc => (hrest c hc).1
  cases cs with
  | nil =>
    cases h
    cases rest with
    | nil => rfl
    | cons c rest =>
      obtain ⟨-, -, he, hE⟩ := hrest c rfl
      rw [List.nil_append, readExponent_cons, if_neg (by simp [he, hE])]
  | cons c cs =>
    rw [List.cons_append, readExponent_cons]
    rw [readExponent_cons] at h
    split at h
    · have hcs : cs ≠ [] := by
        rintro rfl
        cases h
      rw [if_pos ‹_›, exponentSign_append hcs]
      simp only [exponentDigits, takeWhile_append_of_head hdigit,
        dropWhile_append_of_head hdigit] at h ⊢
      split at h
      · cases h
      · cases h
        rw [if_neg ‹_›]
    · cases h
      rw [if_neg ‹_›]
      rfl

theorem readUnsigned_append {negative : Bool} {cs tail rest : List Char} {n : Numeral}
    (hrest : EndsNumber rest) (h : readUnsigned negative cs = some (n, tail)) :
    readUnsigned negative (cs ++ rest) = some (n, tail ++ rest) := by
  simp only [readUnsigned] at h ⊢
  split at h
  · cases h
  · rename_i hwhole
    rw [wholeDigits_append hrest (by simpa using hwhole), if_neg hwhole, drop_wholeDigits_append]
    split at h
    · cases h
    · rename_i hdigit
      have hhead : ((cs.drop (wholeDigits cs).length ++ rest).head?.any Char.isDigit) = false := by
        cases hdrop : cs.drop (wholeDigits cs).length with
        | nil =>
          cases hhead : rest.head? with
          | none => simp [hhead]
          | some c => simp [hhead, (hrest c hhead).1]
        | cons c ds => simpa [hdrop] using hdigit
      rw [if_neg (ne_true_of_eq_false hhead)]
      obtain ⟨⟨fraction, ds⟩, hfraction, h⟩ := Option.bind_eq_some_iff.mp h
      obtain ⟨⟨exponent, es⟩, hexponent, h⟩ := Option.bind_eq_some_iff.mp h
      cases h
      rw [readFraction_append hrest hfraction, Option.bind_eq_bind, Option.bind_some,
        readExponent_append hrest hexponent]
      rfl

theorem readNumeral_append {cs tail rest : List Char} {n : Numeral} (hrest : EndsNumber rest)
    (h : readNumeral cs = some (n, tail)) : readNumeral (cs ++ rest) = some (n, tail ++ rest) := by
  by_cases hminus : cs.head? = some '-'
  · obtain ⟨cs, rfl⟩ := List.head?_eq_some_iff.mp hminus
    exact readUnsigned_append hrest h
  · have hne : cs ≠ [] := by
      rintro rfl
      cases h
    rw [readNumeral_of_ne hminus] at h
    have hhead : (cs ++ rest).head? = cs.head? := by
      rw [List.head?_append, List.head?_eq_some_head hne, Option.some_or]
    rw [readNumeral_of_ne (hhead ▸ hminus)]
    exact readUnsigned_append hrest h

/-! ## The text of a number -/

/-- The number is read back from its text. -/
def Number.ReadsBack (n : Number) : Prop := readNumber n.text.toList = some (.number n, [])

theorem readNumber_eq_some {cs rest : List Char} {v : Json} :
    readNumber cs = some (v, rest) ↔
      ∃ n value, readNumeral cs = some (n, rest) ∧
        numberOf n.negative n.whole n.fraction n.exponent = some value ∧ v = .number value := by
  simp only [readNumber, Option.bind_eq_bind, Option.bind_eq_some_iff, Option.pure_def,
    Option.some.injEq, Prod.mk.injEq, Prod.exists]
  constructor
  · rintro ⟨n, _, hnumeral, value, hvalue, rfl, rfl⟩
    exact ⟨n, value, hnumeral, hvalue, rfl⟩
  · rintro ⟨n, value, hnumeral, hvalue, rfl⟩
    exact ⟨n, rest, hnumeral, value, hvalue, rfl, rfl⟩

theorem Number.ReadsBack.append {n : Number} (h : n.ReadsBack) {rest : List Char}
    (hrest : EndsNumber rest) :
    readNumber (n.text.toList ++ rest) = some (.number n, rest) := by
  obtain ⟨numeral, value, hnumeral, hvalue, heq⟩ := readNumber_eq_some.mp h
  exact readNumber_eq_some.mpr ⟨numeral, value, readNumeral_append hrest hnumeral, hvalue, heq⟩

theorem readUnsigned_toDigits (negative : Bool) (n : Nat) :
    readUnsigned negative (Nat.toDigits 10 n) =
      some (⟨negative, Nat.toDigits 10 n, none, none⟩, []) := by
  have hdigits : (Nat.toDigits 10 n).takeWhile Char.isDigit = Nat.toDigits 10 n :=
    List.takeWhile_eq_self_iff.mpr fun c hc =>
      Nat.isDigit_of_mem_toDigits (by decide) (by decide) hc
  have hwhole : wholeDigits (Nat.toDigits 10 n) = Nat.toDigits 10 n := by
    by_cases hn : n = 0
    · subst hn
      rfl
    · unfold wholeDigits
      split
      · rename_i heq
        exact absurd (by rw [heq]; rfl) (Decimal.head?_toDigits hn)
      · exact hdigits
  simp only [readUnsigned, hwhole, List.drop_length]
  simp [Nat.toDigits_ne_nil, readFraction, readExponent]

theorem numberOf_natural {n : Nat} (hn : n < Nat.pow 2 64) :
    numberOf false (Nat.toDigits 10 n) none none = some (.int n) := by
  have hfits : Int.ofNat n < (Nat.pow 2 64 : Nat) := Int.ofNat_lt.mpr hn
  simp only [numberOf, Decimal.naturalOf_toDigits, Bool.false_and, Bool.not_false, Bool.true_and,
    hfits, decide_true, Bool.false_eq_true, ↓reduceIte]
  rfl

theorem numberOf_negative {n : Nat} (hn : n < Nat.pow 2 63) :
    numberOf true (Nat.toDigits 10 (n + 1)) none none = some (.int (-(n + 1 : Nat))) := by
  have hpos : 0 < Int.ofNat (n + 1) := Int.natCast_pos.mpr (Nat.succ_pos n)
  have hfits : Int.ofNat (n + 1) ≤ (Nat.pow 2 63 : Nat) := Int.ofNat_le.mpr hn
  simp only [numberOf, Decimal.naturalOf_toDigits, hpos, hfits, decide_true, Bool.and_self,
    ↓reduceIte]
  rfl

/-- Integers of 64 bits are read back. -/
theorem Number.readsBack_int {i : Int} (hlow : -(Nat.pow 2 63 : Nat) ≤ i)
    (hhigh : i < (Nat.pow 2 64 : Nat)) :
    (Number.int i).ReadsBack := by
  cases i with
  | ofNat n =>
    have htext : (Number.int (Int.ofNat n)).text.toList = Nat.toDigits 10 n := Nat.toList_repr
    have hhead : (Nat.toDigits 10 n).head? ≠ some '-' := by
      intro hminus
      obtain ⟨ds, hds⟩ := List.head?_eq_some_iff.mp hminus
      have hdigit := Nat.isDigit_of_mem_toDigits (by decide) (by decide) (hds ▸ List.mem_cons_self)
      exact absurd hdigit (by decide)
    have hnumeral := (readNumeral_of_ne hhead).trans (readUnsigned_toDigits false n)
    rw [ReadsBack, htext]
    exact readNumber_eq_some.mpr ⟨_, _, hnumeral, numberOf_natural (Int.ofNat_lt.mp hhigh), rfl⟩
  | negSucc n =>
    have htext : (Number.int (Int.negSucc n)).text.toList = '-' :: Nat.toDigits 10 (n + 1) := by
      have hrepr : (Number.int (Int.negSucc n)).text = "-" ++ (n + 1).repr := rfl
      rw [hrepr, String.toList_append, Nat.toList_repr]
      rfl
    have hnumeral := (readNumeral_minus _).trans (readUnsigned_toDigits true (n + 1))
    rw [ReadsBack, htext]
    exact readNumber_eq_some.mpr ⟨_, _, hnumeral, numberOf_negative (by omega), rfl⟩

end SqlWeave.Json
