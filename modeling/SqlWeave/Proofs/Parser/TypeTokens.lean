import SqlWeave.Proofs.Parser.Finds

/-! What is read as a type, part by part: its name, what stands in parentheses behind it, pairs of
brackets and the words at its end. -/

namespace SqlWeave.Parser

open Decimal (word64?)
open Token (Piece)

variable {d : Dialect} {i : Nested} {ks rest : List Piece} {t : DataType Expr}

/-! ## Names -/

/-- Two words that are the name of a type. -/
def IsTwoWord (first second : String) : Prop :=
  ∃ words ∈ twoWordTypes, Text.sameAscii first words.1 = true ∧ Text.sameAscii second words.2 = true

/-- A name is a word as it is written or what stands between quotes, and some have a second word. -/
inductive TypeNamed : List Piece → String → List Piece → Prop
  | word {k : Piece} {rest : List Piece} (hk : isTypeWord k.kind = true) :
      TypeNamed (k :: rest) k.text rest
  | quoted {k : Piece} {name : String} {rest : List Piece} (hk : k.kind = .quotedIdentifier name) :
      TypeNamed (k :: rest) name rest
  | second {ks rest : List Piece} {k : Piece} {name : String} (h : TypeNamed ks name (k :: rest))
      (hk : isTypeWord k.kind = true) (hwords : IsTwoWord name k.text) :
      TypeNamed ks (name ++ " " ++ k.text) rest

theorem typeName_finds : Finds d typeName ks (TypeNamed ks) := by
  refine .look ?_
  cases ks with
  | nil => exact .unexpected
  | cons k ks =>
    rw [next_cons]
    split
    · exact .text (.step (.pure (.word (by simp [isTypeWord, *]))))
    · exact .text (.step (.pure (.word (by simp [isTypeWord, *]))))
    · exact .step (.pure (.quoted ‹_›))
    · exact .unexpected

theorem secondWord_finds {words : List (String × String)} (hwords : words ⊆ twoWordTypes)
    {name : String} {js : List Piece} (h : TypeNamed ks name js) :
    Finds d (secondWord name words) js (TypeNamed ks) := by
  induction words generalizing name js with
  | nil => exact .pure h
  | cons pair words ih =>
    obtain ⟨first, second⟩ := pair
    have hwords' : words ⊆ twoWordTypes := fun w hw => hwords (List.mem_cons_of_mem _ hw)
    refine .test (isAtWord_asks second) ?_
    split
    · rename_i hboth
      obtain ⟨hfirst, hsecond⟩ := Bool.and_eq_true_iff.mp hboth
      cases js with
      | nil => cases hsecond
      | cons k js =>
        rw [next_cons] at hsecond
        refine .real fun hreal => ?_
        obtain ⟨text, htext, hsecond⟩ := TokenKind.isWord_eq_true.mp hsecond
        obtain rfl := (hreal k List.mem_cons_self).identifier htext
        have hword : isTypeWord k.kind = true := by rw [htext]; rfl
        exact .text
          (.step (ih hwords' (h.second hword ⟨_, hwords List.mem_cons_self, hfirst, hsecond⟩)))
    · exact ih hwords' h

/-! ## What stands in parentheses -/

/-- The number that a token is, if it fits 64 bits. -/
def size? : TokenKind → Option Nat
  | .number text => word64? text
  | _ => none

def isNumber : TokenKind → Bool
  | .number _ => true
  | _ => false

/-- Nothing in parentheses, a length, a length and whatever stands where the scale should, or
arguments. -/
inductive Sized (argument : List Piece → Expr → List Piece → Prop) (t : DataType Expr) :
    List Piece → DataType Expr → List Piece → Prop
  | none {rest : List Piece} (h : next rest ≠ .symbol .leftParen) : Sized argument t rest t rest
  | length {opening length closing : Piece} {rest : List Piece}
      (hopening : opening.kind = .symbol .leftParen) (hlength : isNumber length.kind = true)
      (hclosing : closing.kind = .symbol .rightParen) :
      Sized argument t (opening :: length :: closing :: rest)
        { t with length := size? length.kind, scale := .none } rest
  | scale {opening length comma scale closing : Piece} {rest : List Piece}
      (hopening : opening.kind = .symbol .leftParen) (hlength : isNumber length.kind = true)
      (hcomma : comma.kind = .symbol .comma) (hclosing : closing.kind = .symbol .rightParen) :
      Sized argument t (opening :: length :: comma :: scale :: closing :: rest)
        { t with length := size? length.kind, scale := size? scale.kind } rest
  | arguments {opening closing : Piece} {ks rest : List Piece} {args : List Expr}
      (hopening : opening.kind = .symbol .leftParen)
      (hargs : Found argument ks args (closing :: rest))
      (hclosing : closing.kind = .symbol .rightParen) :
      Sized argument t (opening :: ks) { t with args } rest

/-- Behind a comma the token is taken, whatever it is. -/
theorem typeSize_finds {text : String} :
    Finds d (typeSize text) ks fun size rest => (size = (word64? text, none) ∧ rest = ks.tail) ∨
      (next ks.tail = .symbol .comma ∧ size = (word64? text, size? (next ks.tail.tail)) ∧
        rest = ks.tail.tail.tail) := by
  refine .step (.takeIf (isAt_asks .comma) (fun hcomma => ?_) fun _ => .pure (.inl ⟨rfl, rfl⟩))
  refine .look ?_
  cases hscale : next ks.tail.tail with
  | number scale => exact .pureBind (.step (.pure (.inr ⟨beq_iff_eq.mp hcomma, rfl, rfl⟩)))
  | _ => exact .pureBind (.step (.pure (.inr ⟨beq_iff_eq.mp hcomma, rfl, rfl⟩)))

theorem typeArguments_finds {argument : List Piece → Expr → List Piece → Prop}
    (hargument : ∀ ks, Finds d i.typeArgument ks (argument ks)) :
    Finds d (i.typeArguments t) ks (Sized argument t ks) := by
  refine .takeIf (isAt_asks .leftParen) (fun htaken => ?_) fun hno =>
    .pure (.none (beq_eq_false_iff_ne.mp hno))
  cases ks with
  | nil => cases beq_iff_eq.mp htaken
  | cons opening ks =>
    have hopening : opening.kind = .symbol .leftParen := beq_iff_eq.mp htaken
    refine .look ?_
    rw [List.tail_cons]
    split
    · rename_i text hlength
      cases ks with
      | nil => cases hlength
      | cons length ks =>
        rw [next_cons] at hlength
        have hnumber : isNumber length.kind = true := by rw [hlength]; rfl
        have hsize : word64? text = size? length.kind := by rw [hlength]; rfl
        refine .bind (typeSize_finds.mono fun size rest hfound => ?_)
        rw [List.tail_cons, hsize] at hfound
        rcases hfound with ⟨rfl, rfl⟩ | ⟨hcomma, rfl, rfl⟩
        · refine .pureBind (.expect fun closing rest hrest hclosing => .pure ?_)
          subst hrest
          exact .length hopening hnumber hclosing
        · refine .pureBind (.expect fun closing rest hrest hclosing => .pure ?_)
          rcases ks with _ | ⟨comma, _ | ⟨scale, ks⟩⟩
          · cases hcomma
          · cases hrest
          · rw [show ks = _ from hrest]
            exact .scale hopening hnumber hcomma hclosing
    · refine .bind ((Finds.commaSeparated hargument).mono fun args rest hargs => ?_)
      refine .pureBind (.expect fun closing rest hrest hclosing => .pure ?_)
      subst hrest
      exact .arguments hopening hargs hclosing

/-! ## What stands behind -/

/-- So many pairs of brackets. -/
inductive Bracketed : Nat → List Piece → List Piece → Prop
  | none {rest : List Piece} : Bracketed 0 rest rest
  | pair {n : Nat} {opening closing : Piece} {ks rest : List Piece}
      (hopening : opening.kind = .symbol .leftBracket)
      (hclosing : closing.kind = .symbol .rightBracket) (h : Bracketed n ks rest) :
      Bracketed (n + 1) (opening :: closing :: ks) rest

theorem brackets_finds {n : Nat} :
    Finds d (manyWithin Nested.bracketPair advance n) ks fun pairs rest =>
      Bracketed pairs.length ks rest := by
  induction n generalizing ks with
  | zero => exact .outOfRounds
  | succ n ih =>
    refine .bind (.test (isAt_asks .leftBracket) (.peek ?_))
    split
    · rename_i hboth
      obtain ⟨hopening, hclosing⟩ := Bool.and_eq_true_iff.mp hboth
      rcases ks with _ | ⟨opening, _ | ⟨closing, ks⟩⟩
      · cases beq_iff_eq.mp hopening
      · cases beq_iff_eq.mp hclosing
      · refine .step (.pure (.step (.bind (ih.mono fun pairs rest hpairs => .pure ?_))))
        exact .pair (beq_iff_eq.mp hopening) (beq_iff_eq.mp hclosing) hpairs
    · exact .pure (.pure .none)

/-- The words that may stand at the end of a type. -/
def typeSuffixes : List String := ["unsigned", "signed", "zerofill"]

/-- Words at the end of a type, which are kept in small letters. -/
inductive Suffixed : List Piece → List String → List Piece → Prop
  | none {rest : List Piece} : Suffixed rest [] rest
  | word {k : Piece} {ks rest : List Piece} {word : String} {words : List String}
      (hword : word ∈ typeSuffixes) (hk : k.kind = .identifier k.text)
      (hsame : Text.sameAscii k.text word = true) (h : Suffixed ks words rest) :
      Suffixed (k :: ks) (Text.lower k.text :: words) rest

theorem suffixWords_finds {n : Nat} : Finds d (Nested.suffixWords n) ks (Suffixed ks) := by
  induction n generalizing ks with
  | zero => exact .outOfRounds
  | succ n ih =>
    refine .bind (.test (isAtAnyWord_asks typeSuffixes) ?_)
    split
    · rename_i hany
      obtain ⟨word, hword, hsame⟩ := List.any_eq_true.mp hany
      cases ks with
      | nil => cases hsame
      | cons k ks =>
        refine .real fun hreal => ?_
        obtain ⟨text, htext, hsame⟩ := TokenKind.isWord_eq_true.mp hsame
        obtain rfl := (hreal k List.mem_cons_self).identifier htext
        exact .text
          (.step (.pure (.bind (ih.mono fun words rest hwords =>
          .pure (.word hword htext hsame hwords)))))
    · exact .pure (.pure .none)

end SqlWeave.Parser
