import SqlWeave.Proofs.Tree.Precedence
import SqlWeave.Proofs.Wire.Plain
import SqlWeave.Token.Basic

/-! Trees that a parser has built: they are plain, every literal between quotes in them is a token
that was read, and the operators in them stand where their binding powers put them. -/

namespace SqlWeave

open HasSlots (slots)

/-- The token that a literal between quotes is. -/
def TextKind.quoted? : TextKind → String → Option TokenKind
  | .string, value => some (.string value)
  | .doubleQuoted, value => some (.doubleQuoted value)
  | _, _ => none

/-- A literal between quotes is a token of a kind in `K`, and an operator has the operands it
binds. -/
def Node.From (K : TokenKind → Prop) : Node Expr → Prop
  | .text kind value _ => ∀ k, kind.quoted? value = some k → K k
  | .binary operator left right _ => Operator.Between operator left right
  | .unary front operand _ => Operator.Before front operand
  | _ => True

def Slot.Built (K : TokenKind → Prop) (s : Slot) : Prop :=
  s.Plain ∧ ∀ e, s.expr? = some e → e.node.From K

def Expr.Built (K : TokenKind → Prop) (e : Expr) : Prop :=
  e.node.From K ∧ ∀ s, e.Holds s → s.Built K

abbrev AllBuilt (K : TokenKind → Prop) : List Slot → Prop := Slot.Throughout (Slot.Built K)

def BuiltPart (K : TokenKind → Prop) {α : Type} [SizeOf α] [HasSlots α] (x : α) : Prop :=
  AllBuilt K (slots x)

variable {K : TokenKind → Prop}

theorem Expr.built_mk {n : Node Expr} : (Expr.mk n).Built K ↔ n.From K ∧ AllBuilt K n.slots :=
  and_congr_right fun _ => throughout_mk

theorem Expr.Built.slots {n : Node Expr} (h : (Expr.mk n).Built K) : AllBuilt K n.slots :=
  (built_mk.mp h).2

@[simp 1100] theorem allBuilt_expr {e : Expr} {ss : List Slot} :
    AllBuilt K (.expr e :: ss) ↔ e.Built K ∧ AllBuilt K ss := by
  simp [Slot.Built, Slot.Plain, Slot.expr?, Expr.Built]

@[simp] theorem allBuilt_optionals {x : Option Expr} :
    AllBuilt K (Slot.optionals x) ↔ ∀ e, x = some e → e.Built K := by
  cases x <;> simp [Slot.optionals, Slot.Built, Slot.Plain, Slot.expr?, Expr.Built]

@[simp] theorem allBuilt_wrappings {x : Option Expr} :
    AllBuilt K (Slot.wrappings x) ↔ ∀ e, x = some e → e.Built K := by
  cases x <;> simp [Slot.wrappings, Slot.Built, Slot.Plain, Slot.expr?, Expr.Built]

@[simp] theorem allBuilt_nameLists {x : Option (List String)} :
    AllBuilt K (Slot.nameLists x) ↔ ∀ l, x = some l → l ≠ [] := by
  cases x <;> simp [Slot.nameLists, Slot.Built, Slot.Plain, Slot.expr?]

@[simp] theorem allBuilt_exprs {es : List Expr} : AllBuilt K (slots es) ↔ ∀ e ∈ es, e.Built K := by
  rw [AllBuilt, throughout_list]
  simp

@[simp] theorem allBuilt_limit {l : Limit Expr} :
    AllBuilt K (slots l) ↔ l.Settled ∧ AllBuilt K (slots l.count) ∧
      AllBuilt K (slots l.offset) := by
  simp [Slot.Built, Slot.Plain, Slot.expr?]

@[simp] theorem built_query {q : Query Expr} : (Expr.query q).Built K ↔ AllBuilt K (slots q) :=
  Expr.built_mk.trans (and_iff_right trivial)

theorem built_ofText (text : String) : AllBuilt K (ColumnName.slots (.ofText text)) := by
  rw [ColumnName.ofText]
  split
  · exact throughout_nil
  · rename_i hne
    exact throughout_cons.mpr ⟨⟨⟨hne, fun _ he => by cases he⟩, fun _ he => by cases he⟩,
      throughout_nil⟩

/-- The node is that of the expression or of a subexpression at any depth. -/
def Expr.HasNode (e : Expr) (n : Node Expr) : Prop :=
  e.node = n ∨ ∃ s e', e.Holds s ∧ s.expr? = some e' ∧ e'.node = n

theorem Expr.Built.hasNode {K : TokenKind → Prop} {e : Expr} {n : Node Expr} (h : e.Built K)
    (hn : e.HasNode n) :
    n.From K := by
  rcases hn with rfl | ⟨s, e', hs, he, rfl⟩
  · exact h.1
  · exact (h.2 s hs).2 e' he

/-- What is built is plain. -/
theorem AllBuilt.plain {ss : List Slot} (h : AllBuilt K ss) : AllPlain ss :=
  fun s hs => ⟨(h s hs).1.1, fun e he t ht => ((h s hs).2 e he t ht).1⟩

end SqlWeave
