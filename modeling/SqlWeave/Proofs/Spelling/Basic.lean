import SqlWeave.Parser.Script
import SqlWeave.Proofs.Parser.Reads
import SqlWeave.Proofs.Tree.Core
import SqlWeave.Render.Expr

/-! Texts that are read as what they were written for. A text is legible if its pieces are known and
the readers for what nests less deep than it has pieces read them, wherever something stands behind
that cannot belong to it. -/

namespace SqlWeave

open Token (Piece Lexes Quoting)
open SqlWeave.Parser (Nested Reads nested next Asks)
open Render (Result commas sqls)

/-! ## Results that are there -/

theorem mapM_ok {ε α β : Type} {f : α → Except ε β} {g : α → β} {xs : List α}
    (h : ∀ x ∈ xs, f x = .ok (g x)) :
    xs.mapM f = .ok (xs.map g) := by
  induction xs with
  | nil => rfl
  | cons x xs ih =>
    rw [List.mapM_cons, h x List.mem_cons_self, ih fun y hy => h y (List.mem_cons_of_mem _ hy)]
    rfl

/-- One text and one sequence of pieces for each member. -/
theorem exists_spellings {α : Type} {P : α → String → List Piece → Prop} {xs : List α}
    (h : ∀ x ∈ xs, ∃ text ks, P x text ks) :
    ∃ (text : α → String) (spelling : α → List Piece), ∀ x ∈ xs, P x (text x) (spelling x) := by
  classical
  have hpair (x : α) : ∃ p : String × List Piece, x ∈ xs → P x p.1 p.2 := by
    by_cases hx : x ∈ xs
    · obtain ⟨text, ks, hp⟩ := h x hx
      exact ⟨(text, ks), fun _ => hp⟩
    · exact ⟨("", []), fun hmem => absurd hmem hx⟩
  exact ⟨fun x => (hpair x).choose.1, fun x => (hpair x).choose.2, fun x => (hpair x).choose_spec⟩

/-! ## Legible texts -/

/-- The text has these pieces, and from them `x` is read before everything that `ends` allows. -/
structure Legible {α : Type} (q : Quoting) (p : Nested → Parser α) (ends : TokenKind → Bool) (x : α)
    (text : String) (ks : List Piece) : Prop where
  lexes : Lexes q text ks
  reads : ∀ n, ks.length < n → ∀ rest, ends (next rest) = true →
    Reads (p (nested n)) (ks ++ rest) x rest

namespace Legible

variable {α : Type} {q : Quoting} {p : Nested → Parser α} {ends : TokenKind → Bool} {x : α}
  {xs : List α}
  {text : String} {ks : List Piece}

/-- What `Legible.commas` ends before. -/
def endsList (ends : TokenKind → Bool) (k : TokenKind) : Bool := ends k && k != .symbol .comma

theorem commas {text : α → String} {spelling : α → List Piece}
    (h : ∀ y ∈ x :: xs, Legible q p ends y (text y) (spelling y))
    (hcomma : ends (.symbol .comma) = true) :
    Legible q (fun i => Parser.commaSeparated (p i)) (endsList ends) (x :: xs)
      (Render.commas ((x :: xs).map text))
        (spelling x ++ xs.flatMap fun y => .comma :: spelling y) where
  lexes := .commas fun y hy => (h y hy).lexes
  reads := by
    intro n hn rest hrest
    simp only [endsList, Bool.and_eq_true, bne_iff_ne] at hrest
    rw [List.append_assoc]
    refine Parser.separated_reads (Parser.isAt_asks .comma) rfl (beq_eq_false_iff_ne.mpr hrest.2) ?_
    intro y hy more hmore
    refine (h y hy).reads n ?_ more ?_
    · refine Nat.lt_of_le_of_lt ?_ hn
      rw [List.length_append]
      rcases List.mem_cons.mp hy with rfl | hmem
      · omega
      · have hsub : (spelling y).length < (xs.flatMap fun y => Piece.comma :: spelling y).length :=
          Parser.length_lt_flatMap hmem
        omega
    · rcases hmore with hmore | hmore
      · rw [hmore]
        exact hcomma
      · rw [hmore]
        exact hrest.1

end Legible

end SqlWeave
