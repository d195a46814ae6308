import SqlWeave.Proofs.ExprReadBack
import SqlWeave.Proofs.Parser.QueryShapes
import SqlWeave.Proofs.Parser.StatementMakes
import SqlWeave.Proofs.Render.Nodes

/-! The parentheses and qualifiers of an expression that is read stand in its text. Where a text
loses nothing, every node has the parentheses it is marked with, besides those of the syntax around
it. An aggregate takes those of a tuple that is all its argument for its own. -/

namespace SqlWeave

open SqlWeave.Parser (parseExpr)
open Token (tokenize)

variable {d : Dialect} {text : String} {least : Nat} {e : Expr} {refs : References}

/-! ## What is read has the shape of what is read -/

theorem Parser.parseExpr_shaped (h : parseExpr d text least = .ok (e, refs)) :
    e.Shaped d.quoting := by
  obtain ⟨t, ht, -⟩ := parseExpr_eq_ok.mp h
  exact (((nested_shaped _).expr least).returns
    (startState_onText fun _ ha => Token.tokenize_kept ha) ht).1

/-! ## Expressions that lose nothing -/

/-- A difference in parentheses times a sign. -/
def scaledDifference : Expr :=
  ((Expr.qualifiedColumn "t" "a").binary "-" (.column "b")).parenthesized.binary "*"
    (.unary "-" (.column "c"))

theorem scaledDifference_core : Phrase.Core .mySql (.expr scaledDifference) := by
  have hpowers : ("-", 13) ∈ Operator.betweenOperands ∧ ("*", 15) ∈ Operator.betweenOperands ∧
      ("-", 15) ∈ Operator.beforeOperand := by decide
  have hqualified : Qualified none none (some "t") := by constructor <;> decide
  have hcolumn : Phrase.Core .mySql (.expr (.qualifiedColumn "t" "a")) :=
    .column _ ⟨hqualified, ⟨"a", rfl, by decide⟩, rfl, rfl⟩
  have hdifference := Phrase.Core.binary "-" 13 _ _ hcolumn
    (.ofName (show isName "b" = true by decide)) hpowers.1 rfl rfl rfl
    fun h => nomatch h
  have hsign : Phrase.Core .mySql (.expr (.unary "-" (.column "c"))) :=
    .unary "-" 15 _ (.ofName (by decide)) hpowers.2.2 rfl (by decide)
  exact .binary "*" 15 _ _ (.parenthesized _ hdifference rfl) hsign hpowers.2.1 rfl rfl rfl fun h =>
    nomatch h

section Lossless

variable {r : Renderer} {operator : String} {left right : Expr} {parens : Bool}

theorem column_lossless {c : ColumnRef Expr} (hname : ∀ e, c.column ≠ .computed e) :
    ∀ n, (Expr.mk (.column c)).HasNode n → n.Lossless r :=
  Expr.forall_hasNode.mpr ⟨⟨List.forall_mem_nil _, List.forall_mem_nil _, nofun, nofun⟩,
    ColumnName.all_slots hname⟩

theorem binary_lossless (hleft : ∀ n, left.HasNode n → n.Lossless r)
    (hright : ∀ n, right.HasNode n → n.Lossless r) :
    ∀ n, (Expr.mk (.binary operator left right parens)).HasNode n → n.Lossless r := by
  refine Expr.forall_hasNode.mpr ⟨⟨List.forall_mem_nil _, List.forall_mem_nil _, nofun, nofun⟩, ?_⟩
  exact Slot.all_append.mpr ⟨.of_expr hleft, .of_expr hright⟩

end Lossless

theorem scaledDifference_lossless :
    ∀ n, scaledDifference.HasNode n → n.Lossless { config := ⟨.mySql, .strict⟩ } := by
  have hsign : ∀ n, (Expr.unary "-" (.column "c")).HasNode n →
      n.Lossless { config := ⟨.mySql, .strict⟩ } := by
    refine Expr.forall_hasNode.mpr ⟨⟨List.forall_mem_nil _, List.forall_mem_nil _, nofun, ?_⟩, ?_⟩
    · rintro _ _ _ text ⟨⟩ htext
      cases htext.symm.trans (show _ = Except.ok "`c`" from rfl)
      decide
    · exact .of_expr (column_lossless fun e h => nomatch h)
  exact binary_lossless (binary_lossless (column_lossless fun e h => nomatch h)
    (column_lossless fun e h => nomatch h)) hsign

/-- What an aggregate has for its argument. -/
def Expr.aggregated? (e : Expr) : Option Expr :=
  match e.node with
  | .aggregate _ arg .. => some arg
  | _ => none

/-- A tuple that is all an aggregate has is shown in parentheses of its own, behind those of the
call. -/
theorem Shows.aggregated {arg : Expr} {ks : List TokenKind} (h : Shows d e ks)
    (he : e.aggregated? = some arg) (harg : arg.isTuple = true) :
    2 ≤ ks.count (.symbol .leftParen) := by
  obtain ⟨n⟩ := e
  obtain ⟨inner, hinner, -, rfl⟩ := h
  have hmarked : arg.node.isParenthesized = true := by
    unfold Expr.isTuple at harg
    split at harg
    · rename_i hnode
      rw [hnode]
      exact harg
    · cases harg
  cases n <;> cases he
  refine Nat.le_trans ?_ (Nat.le_trans hinner.openings_le ?_)
  · have hargument : Mark.opens (.part arg) = true := hmarked
    show 2 ≤ (Mark.opening :: Mark.part arg :: _).countP Mark.opens
    rw [List.countP_cons_of_pos rfl, List.countP_cons_of_pos hargument]
    exact Nat.le_add_left ..
  · rw [Node.count_wrap]
    exact Nat.le_add_left ..

end SqlWeave
