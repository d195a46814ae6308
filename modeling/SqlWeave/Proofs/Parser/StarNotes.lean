import SqlWeave.Proofs.Parser.ExprNotes

/-! Stars without a qualifier. The sign is read without being noted, except at the start of a select
list, while a quoted name that is a star is noted like any other column. So an expression that does
not start with the sign comes out as a star only if that has been noted. -/

namespace SqlWeave.Parser

variable {exact : Prop} {i : Nested}

theorem isStar_parenthesized (e : Expr) : e.parenthesized.isStar = false := by
  obtain ⟨n⟩ := e
  cases n
  case column c => simp [Expr.parenthesized, Expr.node, Expr.isStar]
  all_goals rfl

theorem isStar_numberLiteral (text : String) : (numberLiteral text).isStar = false := by
  unfold numberLiteral
  split
  · rfl
  · split
    · rfl
    · split <;> rfl

/-- A star that the reader returns has been noted. -/
def NotesStar (p : Parser Expr) : Prop :=
  ∀ src s e t, Returns p src s e t → e.isStar = true →
    t.references.Has (.column (.of s.verb none "*"))

namespace NotesStar

variable {α : Type} {p q : Parser Expr} {f : α → Parser Expr}

theorem none (h : Ensures (·.isStar = false) p) : NotesStar p :=
  fun src s e t hr he => absurd he (by simp [h src s e t hr])

theorem unexpected {what : String} : NotesStar (unexpected what) :=
  fun _ _ _ _ hr _ => absurd hr not_returns_unexpected

theorem quiet {p : Parser α} (hp : Quiet p) (hf : ∀ x, NotesStar (f x)) : NotesStar (p >>= f) := by
  intro src s e t hr he
  obtain ⟨x, u, hx, hr⟩ := Returns.bind hr
  rw [← (hp src s x u hx).1]
  exact hf x src u e t hr he

theorem ite {c : Prop} [Decidable c] (hp : NotesStar p) (hq : NotesStar q) :
    NotesStar (if c then p else q) := by
  split
  · exact hp
  · exact hq

end NotesStar

theorem columnOf_notesStar (qualifiers : List String) (column : Option String) :
    NotesStar (columnOf qualifiers column) := by
  intro src s e t hr he
  obtain ⟨_, u, hu, hr⟩ := Returns.bind hr
  obtain ⟨rfl, rfl⟩ := Returns.pure hr
  obtain ⟨-, new, hnew, hcover, -⟩ := @addColumn_notes False s.verb _ _ src s _ u rfl hu
  have hnoted := (hnew _).mpr (.inr ((hcover _ rfl).resolve_left id))
  cases hq : qualifiers.reverse with
  | cons table outer => simp [Expr.isStar, hq] at he
  | nil =>
    have hstar : column.getD "*" = "*" := by
      by_cases hc : column.getD "*" = "*"
      · exact hc
      · simp [Expr.isStar, hq, ColumnName.ofText, hc] at he
    rw [hq, hstar] at hnoted
    exact hnoted

namespace Nested

theorem aggregateCall_isStar (name : String) : Ensures (·.isStar = false) (i.aggregateCall name) :=
  .bind fun _ => .bind fun _ => .bind fun _ => .bind fun _ => .bind fun _ => .bind fun _ =>
    .pure rfl

theorem plainCall_isStar (name : String) : Ensures (·.isStar = false) (i.plainCall name) := by
  refine .bind fun args => .bind fun window => ?_
  split
  · exact .ite (.pure rfl) (.pure rfl)
  · exact .ite (.pure rfl) (.pure rfl)
  · exact .pure rfl

theorem callOf_notesStar (name : String) : NotesStar (i.callOf name) :=
  .none (.bind fun _ => .bind fun _ => .ite (aggregateCall_isStar name) (plainCall_isStar name))

theorem path_notesStar (first : String) : NotesStar (i.path first) := by
  refine .quiet rounds_quiet fun n => .quiet (pathTail_quiet n) fun _ =>
    .ite (columnOf_notesStar _ _) ?_
  exact .quiet (isAt_quiet _) fun _ => .ite (callOf_notesStar _) (columnOf_notesStar _ _)

theorem mapLiteral_notesStar (keyword : String) : NotesStar (i.mapLiteral keyword) := by
  refine .none (.bind fun _ => .bind fun _ => .bind fun _ => .ite (.pure rfl) ?_)
  exact fun _ _ _ _ hr => absurd hr not_returns_throw

theorem nameExpr_notesStar : NotesStar i.nameExpr := by
  refine .quiet kind_quiet fun _ => .quiet identifier_quiet fun _ => .ite (path_notesStar _) ?_
  refine .quiet (isAt_quiet _) fun _ => .ite (callOf_notesStar _) (.ite (.none (.pure rfl)) ?_)
  refine .quiet (isAt_quiet _) fun _ =>
    .ite (.ite ?_ (.ite (mapLiteral_notesStar _) (path_notesStar _)))
    (path_notesStar _)
  exact .none (.bind fun _ => .bind fun _ => .pure rfl)

theorem parenthesizedExpr_isStar : Ensures (·.isStar = false) i.parenthesizedExpr := by
  refine .bind fun _ => .ite (.bind fun _ => .pure rfl)
    (.bind fun _ => .bind fun _ => .bind fun _ => ?_)
  exact .ite (.pure (isStar_parenthesized _)) (.pure rfl)

theorem caseExpr_isStar : Ensures (·.isStar = false) i.caseExpr := by
  refine .bind fun _ => .ite (.bind ?arms) (.bind fun _ => .bind ?arms)
  refine fun _ => .bind fun _ =>
    .ite (fun _ _ _ _ hr => absurd hr not_returns_unexpected) (.bind fun _ => ?_)
  exact .ite (.bind fun _ => .bind fun _ => .bind fun _ => .pure rfl)
    (.bind fun _ => .bind fun _ => .pure rfl)

theorem intervalExpr_isStar : Ensures (·.isStar = false) i.intervalExpr := by
  refine .bind fun _ => .bind fun k => ?_
  split
  · exact .bind fun _ => .pure rfl
  · exact .pure rfl

theorem fullTextSearch_isStar : Ensures (·.isStar = false) i.fullTextSearch := by
  refine .bind fun _ => .bind fun _ => .bind fun _ => .bind fun _ => .bind fun _ => ?_
  exact .bind fun _ => .bind fun _ => .bind fun _ => .pure rfl

theorem wordExpr_notesStar (word : Keyword) : NotesStar (i.wordExpr word) := by
  refine .quiet nextKind_quiet fun _ => .ite ?_ (.ite nameExpr_notesStar .unexpected)
  exact .quiet currentText_quiet fun _ => .quiet advance_quiet fun _ => callOf_notesStar _

theorem keywordExpr_notesStar (word : Keyword) : NotesStar (i.keywordExpr word) := by
  unfold Nested.keywordExpr
  split
  case h_5 => exact .none (.bind fun _ => caseExpr_isStar)
  case h_6 =>
    exact .none (.bind fun _ => .bind fun _ => .bind fun _ => .bind fun _ => .bind fun _ =>
      .bind fun _ => .pure rfl)
  case h_7 => exact .none (.bind fun _ => .bind fun _ => .bind fun _ => .pure rfl)
  case h_8 => exact .none (.bind fun _ => intervalExpr_isStar)
  case h_9 =>
    exact .none (.bind fun _ => .bind fun _ => .bind fun _ => .bind fun _ => .bind fun _ =>
      .bind fun _ => .pure rfl)
  case h_10 => exact .none (.bind fun _ => fullTextSearch_isStar)
  case h_11 => exact wordExpr_notesStar _
  all_goals exact .none (.bind fun _ => .pure rfl)

theorem readPrimary_notesStar {src : Source} {s t : ParserState} {e : Expr}
    (hr : Returns i.readPrimary src s e t) (hk : s.current.kind ≠ .symbol .star)
    (he : e.isStar = true) :
    t.references.Has (.column (.of s.verb none "*")) := by
  obtain ⟨k, u, hkind, hr⟩ := Returns.bind hr
  obtain ⟨rfl, rfl⟩ := kind_returns hkind
  split at hr
  case h_1 text _ =>
    exact NotesStar.none (.bind fun _ => .pure (isStar_numberLiteral text)) _ _ _ _ hr he
  case h_8 hstar => exact absurd hstar hk
  case h_9 => exact NotesStar.none (.bind fun _ => parenthesizedExpr_isStar) _ _ _ _ hr he
  case h_10 => exact NotesStar.none (.bind fun _ => .bind fun _ => .pure rfl) _ _ _ _ hr he
  case h_11 =>
    exact NotesStar.none (.bind fun _ => .bind fun _ => .bind fun _ => .bind fun _ => .pure rfl)
      _ _ _ _ hr he
  case h_12 word _ => exact keywordExpr_notesStar word _ _ _ _ hr he
  case h_13 => exact nameExpr_notesStar _ _ _ _ hr he
  case h_14 => exact nameExpr_notesStar _ _ _ _ hr he
  case h_15 => exact absurd hr not_returns_unexpected
  all_goals exact NotesStar.none (.bind fun _ => .pure rfl) _ _ _ _ hr he

theorem readOperand_notesStar {src : Source} {s t : ParserState} {e : Expr}
    (hr : Returns i.readOperand src s e t) (hk : s.current.kind ≠ .symbol .star)
    (he : e.isStar = true) :
    t.references.Has (.column (.of s.verb none "*")) := by
  obtain ⟨k, u, hkind, hr⟩ := Returns.bind hr
  obtain ⟨rfl, rfl⟩ := kind_returns hkind
  split at hr
  · exact NotesStar.none (.bind fun _ => .bind fun _ => .pure rfl) _ _ _ _ hr he
  · exact readPrimary_notesStar hr hk he

theorem postfixForm_isStar (left : Expr) : Ensures (·.isStar = false) (i.postfixForm left) := by
  refine .bind fun _ => .ite (.bind fun _ => .pure rfl)
    (.bind fun _ => .ite (.bind fun _ => .pure rfl) ?_)
  exact .bind fun _ => .bind fun _ => .pure rfl

theorem predicate_isStar (left : Expr) (negation : String) (power : Nat) :
    Ensures (·.isStar = false) (i.predicate left negation power) := by
  refine .bind fun _ => .ite (.bind fun _ => .pure rfl)
    (.bind fun _ => .ite (.bind fun _ => .pure rfl) ?_)
  refine .bind fun k => ?_
  split
  · exact .bind fun _ => .bind fun _ => .pure rfl
  · exact fun _ _ _ _ hr => absurd hr not_returns_unexpected

theorem infixForm_isStar (left : Expr) (power : Nat) :
    Ensures (fun e => ∀ x, e = some x → x.isStar = false) (i.infixForm left power) := by
  have hpredicate (negation : String) :
      Ensures (fun e => ∀ x, e = some x → x.isStar = false)
        (do return some (← i.predicate left negation power)) :=
    .andThen (predicate_isStar left negation power) fun e he => .pure fun x hx =>
      Option.some.inj hx ▸ he
  refine .bind fun k => ?_
  split
  · exact .bind fun _ => .bind fun _ => .bind fun _ => .pure fun x hx => Option.some.inj hx ▸ rfl
  · exact .bind fun _ => .ite (.bind fun _ => hpredicate _) (.pure nofun)
  · exact hpredicate _
  · exact hpredicate _
  · refine .bind fun operator => ?_
    cases operator with
    | none => exact .pure nofun
    | some operator =>
      exact .bind fun _ => .bind fun _ => .pure fun x hx => Option.some.inj hx ▸ rfl

/-- What an operator adds to is no star any more. -/
theorem operators_isStar (least n : Nat) (left : Expr) :
    Ensures (fun e => e.isStar = true → left.isStar = true) (i.operators least n left) := by
  induction n generalizing left with
  | zero => exact fun _ _ _ _ hr => absurd hr not_returns_outOfRounds
  | succ n ih =>
    have hstop (e : Expr) (he : e.isStar = false) :
        Ensures (fun e => e.isStar = true → left.isStar = true) (i.operators least n e) :=
      fun src s x t hr hx => absurd (ih e src s x t hr hx) (by simp [he])
    refine .bind fun k => .ite (.ite (.pure id) (.andThen (postfixForm_isStar left) hstop)) ?_
    split
    · exact .pure id
    · refine .ite (.pure id) (.andThen (infixForm_isStar left _) fun e he => ?_)
      cases e with
      | none => exact .pure id
      | some e => exact hstop e (he e rfl)

theorem Noted.readExpr_star (h : i.Noted exact) {least : Nat} {src : Source} {s t : ParserState}
    {e : Expr} (hr : Returns (i.readExpr least) src s e t) (hk : s.current.kind ≠ .symbol .star)
    (he : e.isStar = true) : t.references.Has (.column (.of s.verb none "*")) := by
  obtain ⟨left, u, hleft, hr⟩ := Returns.bind hr
  obtain ⟨n, u', hn, hr⟩ := Returns.bind hr
  obtain ⟨-, rfl⟩ := rounds_returns hn
  have hnoted := readOperand_notesStar hleft hk (operators_isStar least n left _ _ _ _ hr he)
  obtain ⟨-, new, hnew, -⟩ := h.operators least n left _ _ _ _ rfl hr
  exact (hnew _).mpr (.inl hnoted)

end Nested

end SqlWeave.Parser
