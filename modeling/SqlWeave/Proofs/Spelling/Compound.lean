import SqlWeave.Proofs.Spelling.Operand

/-! Operands of several parts: calls, CASE and EXISTS. -/

namespace SqlWeave

open Token (Piece Lexes Quoting)
open SqlWeave.Parser (Nested Reads nested next)
open Render (Result Item commas inParens)

variable {r : Renderer} {e : Expr} {text : String} {ks : List Piece}

/-! ## Calls -/

theorem opensExpr_not_closing {k : TokenKind} (h : opensExpr k = true) :
    (k == .symbol .rightParen) = false := by
  cases k with
  | symbol mark => cases mark <;> first | rfl | cases h
  | _ => rfl

/-- The arguments of a call; there may be none. -/
theorem Spelled.args {args : List Expr} (h : ∀ e ∈ args, ∃ text ks, Spelled r e text ks) :
    ∃ (text : Expr → String) (ks : List Piece), (∀ e ∈ args, r.expr e = .ok (text e)) ∧
      Lexes r.config.dialect.quoting (commas (args.map text)) ks ∧
      ∀ n, ks.length < n → ∀ rest, Reads ((nested n).exprsUpTo .rightParen) (ks ++ .closing :: rest)
        args rest := by
  have hclose (rest : List Piece) : Reads (Parser.expect .rightParen) (.closing :: rest) () rest :=
    Parser.expect_reads .rightParen ")"
  by_cases hne : args = []
  · subst hne
    refine ⟨fun _ => "", [], fun e he => (List.not_mem_nil he).elim, .empty, fun n _ rest => ?_⟩
    exact .isTrue (Parser.isAt_asks .rightParen) rfl (.pureBind ((hclose rest).bind (.pure _)))
  · obtain ⟨text, ks, hrendered, hopens, hlegible⟩ := Spelled.list hne h
    refine ⟨text, ks, hrendered, hlegible.lexes, fun n hn rest => ?_⟩
    refine .isFalse (Parser.isAt_asks .rightParen) ?_
      ((hlegible.reads n hn _ rfl).bind ((hclose rest).bind (.pure _)))
    rw [Parser.next_append (ne_nil_of_opens hopens)]
    exact opensExpr_not_closing hopens

theorem call_rendered {name : String} {args : List Expr} {text : Expr → String}
    (h : ∀ e ∈ args, r.expr e = .ok (text e)) :
    r.expr (.call name args) = .ok (name ++ inParens (commas (args.map text))) := by
  have hcall : Render.call name (some (r.item (.list args))) none none =
      .ok (name ++ inParens (commas (args.map text))) := by
    simp only [Render.call, Renderer.callArgs_ok h]
    show Except.ok (name ++ inParens _ ++ "" ++ "") = _
    rw [String.append_empty, String.append_empty]
  rw [Expr.call, r.expr_mk]
  show (do return Text.parenthesize false (← Render.call name (some (r.item (.list args)))
      none none)) = _
  rw [hcall]
  rfl

theorem callOf_reads {name : String} (hname : IsFunction name) {args : List Expr} {n : Nat}
    {rest : List Piece} (hargs : Reads ((nested n).exprsUpTo .rightParen) ks args rest)
    (hover : next rest ≠ .keyword .OVER) :
    Reads ((nested n).callOf name) (.opening :: ks) (.call name args) rest := by
  have hplain := hname.plain
  simp only [List.mem_cons, not_or] at hplain
  have haggregate : Parser.aggregates.contains (Text.asciiUpper name) = false := by
    simpa using hplain.2
  have hunnest : (Text.asciiUpper name == "UNNEST") = false := beq_eq_false_iff_ne.mpr hplain.1
  refine (Parser.expect_reads .leftParen "(").bind (.test (Parser.isAt_asks .rightParen) ?_)
  rw [haggregate, Bool.false_and]
  have hwindow : Reads (nested n).over? rest none rest :=
    .left (Parser.isAtKeyword_asks .OVER) (beq_eq_false_iff_ne.mpr hover) (.pure _)
  refine hargs.bind (hwindow.bind ?_)
  simp only [hunnest, Bool.false_eq_true, if_false]
  split
  · exact .pure _
  · rename_i hnone
    cases hnone
  · exact .pure _

theorem Spelled.call {name : String} (hname : IsFunction name) {args : List Expr}
    (h : ∀ e ∈ args, ∃ text ks, Spelled r e text ks) :
    ∃ text ks, Spelled r (.call name args) text ks := by
  obtain ⟨text, ks, hrendered, hlexes, hreads⟩ := Spelled.args h
  have hname' : Lexes r.config.dialect.quoting name [.plain name] :=
    .plain hname.word hname.unreserved
  refine ⟨name ++ inParens (commas (args.map text)), .plain name :: .opening :: (ks ++ [.closing]),
    call_rendered hrendered, ?_, rfl, ?_, ?_, ?_⟩
  · exact hname'.append hlexes.inParens (by simp [inParens, Token.isApart]; rfl)
  · have hword := hname.word
    unfold Token.isWord at hword
    cases hcs : name.toList with
    | nil => simp [hcs] at hword
    | cons c cs =>
      obtain ⟨hstart, -⟩ : Token.isNameStart c = true ∧ cs.all Token.isNameChar = true := by
        simpa [hcs] using hword
      refine ⟨c, cs ++ (inParens (commas (args.map text))).toList, by simp [hcs], ?_,
        fun hdash => ?_⟩
      · exact Token.ne_of_isNameStart hstart (by decide)
      · exact absurd hdash (Token.ne_of_isNameStart hstart (by decide))
  · exact fun h => by cases h
  · refine .operand fun n hn rest hrest => ?_
    simp only [Expr.leaves, endsOperand, Bool.and_eq_true, Bool.not_eq_true', Bool.or_eq_false_iff,
      beq_eq_false_iff_ne] at hrest
    simp only [List.length_cons, List.length_append] at hn
    have hargs := hreads n (by omega) rest
    rw [List.cons_append, List.cons_append, List.append_assoc]
    refine opensExpr_not_leading rfl rfl (.look (.look ((Parser.identifier_reads rfl).bind ?_)))
    exact .isTrue (Parser.isAt_asks .leftParen) rfl (callOf_reads hname hargs hrest.1.2)

/-! ## EXISTS -/

theorem Query.Spelled.existence {q : Query Expr} (h : q.Spelled r text ks) :
    SqlWeave.Spelled r (.unary "EXISTS" (.query q.parenthesized)) ("EXISTS" ++ " " ++ inParens text)
      (.word .EXISTS :: .opening :: (ks ++ [.closing])) where
  rendered := by
    have hrendered : r.expr (.query q.parenthesized) = .ok (inParens text) := h.subquery.rendered
    rw [Expr.unary, r.expr_mk]
    show (do return Text.parenthesize false (← Render.unary "EXISTS"
        (r.item (.query q.parenthesized)))) = _
    have htext : Render.operatorText "EXISTS" = "EXISTS" := by decide
    unfold Render.unary
    rw [htext, show (r.item (.query q.parenthesized)).sql = _ from hrendered]
    rfl
  lexes := Lexes.spaced (.keyword .EXISTS) h.legible.lexes.inParens
  opens := rfl
  first := ⟨'E', "XISTS (".toList ++ (text ++ ")").toList, by simp [inParens], by decide,
    fun h => by cases h⟩
  negates := fun h => by cases h
  continues := .operand fun n hn rest _ => by
    simp only [List.length_cons, List.length_append] at hn
    have hquery := h.parenthesizedQuery_reads (n := n) (by omega) rest
    rw [List.cons_append, List.cons_append, List.append_assoc]
    refine opensExpr_not_leading rfl rfl
      (.look (.step ((Parser.expect_reads .leftParen "(").bind ?_)))
    exact hquery.bind (.pure _)

/-! ## CASE -/

/-- What comes before and after the arms of CASE. -/
def isArmEnd (k : TokenKind) : Bool :=
  k == .keyword .WHEN || k == .keyword .ELSE || k == .keyword .END

theorem endsExpr_of_isArmEnd {k : TokenKind} (h : isArmEnd k = true) : endsExpr k = true := by
  simp only [isArmEnd, Bool.or_eq_true, beq_iff_eq] at h
  rcases h with (rfl | rfl) | rfl
  · rfl
  · rfl
  · rfl

/-- An arm of CASE, without its first word. -/
structure ArmSpelled (r : Renderer) (arm : CaseArm Expr) (text : String)
    (ks : List Piece) : Prop where
  rendered : Render.caseArm (arm.map r.item) = .ok text
  lexes : Lexes r.config.dialect.quoting text (.word .WHEN :: ks)
  reads : ∀ n, ks.length < n → ∀ rest, isArmEnd (next rest) = true →
    Reads (nested n).caseArm (ks ++ rest) arm rest

theorem ArmSpelled.of {condition result : Expr}
    (hcondition : ∃ text ks, Spelled r condition text ks)
    (hresult : ∃ text ks, Spelled r result text ks) :
    ∃ text ks, ArmSpelled r (.when condition result) text ks := by
  obtain ⟨text, ks, hc⟩ := hcondition
  obtain ⟨text', ks', hr⟩ := hresult
  refine ⟨"WHEN " ++ text ++ " THEN " ++ text', ks ++ .word .THEN :: ks', ?_, ?_, ?_⟩
  · show (do return "WHEN " ++ (← r.expr condition) ++ " THEN " ++ (← r.expr result)) = _
    rw [hc.rendered, hr.rendered]
    rfl
  · have hlexes : Lexes r.config.dialect.quoting ("WHEN" ++ " " ++ text ++ " " ++ "THEN" ++
        " " ++ text')
        ([.word .WHEN] ++ ks ++ [.word .THEN] ++ ks') :=
      (((Lexes.keyword .WHEN).spaced hc.lexes).spaced (.keyword .THEN)).spaced hr.lexes
    have htext : "WHEN " ++ text ++ " THEN " ++ text' = "WHEN" ++ " " ++ text ++ " " ++ "THEN" ++
        " " ++ text' := by
      simp only [String.append_assoc]
      rfl
    rw [htext]
    simpa using hlexes
  · intro n hn rest hrest
    rw [List.length_append, List.length_cons] at hn
    rw [List.append_assoc, List.cons_append]
    refine (hc.legible.reads n (by omega) _ rfl).bind ((Parser.expectKeyword_reads .THEN).bind ?_)
    exact (hr.legible.reads n (by omega) rest (endsExpr_of_isArmEnd hrest)).bind (.pure _)

section Case

variable {subject otherwise : Option Expr} {arms : List (CaseArm Expr)} {text : Expr → String}
  {spelling : Expr → List Piece} {armText : CaseArm Expr → String}
  {armSpelling : CaseArm Expr → List Piece}

/-- The pieces of a CASE behind its first word. -/
def casePieces (spelling : Expr → List Piece) (armSpelling : CaseArm Expr → List Piece)
    (subject otherwise : Option Expr) (arms : List (CaseArm Expr)) : List Piece :=
  subject.toList.flatMap spelling ++ (arms.flatMap (fun a => .word .WHEN :: armSpelling a) ++
    (otherwise.toList.flatMap (fun e => .word .ELSE :: spelling e) ++ [.word .END]))

/-- The text of a CASE. -/
def caseText (text : Expr → String) (armText : CaseArm Expr → String)
    (subject otherwise : Option Expr) (arms : List (CaseArm Expr)) : String :=
  " ".intercalate (["CASE"] ++ subject.toList.map text ++
    (arms.map armText ++ otherwise.toList.map fun e => "ELSE" ++ " " ++ text e) ++ ["END"])

theorem case_rendered (hsubject : ∀ e ∈ subject, r.expr e = .ok (text e))
    (harms : ∀ a ∈ arms, Render.caseArm (a.map r.item) = .ok (armText a))
    (hotherwise : ∀ e ∈ otherwise, r.expr e = .ok (text e)) :
    r.expr (.mk (.case subject (arms ++ otherwise.toList.map .otherwise) false)) =
      .ok (caseText text armText subject otherwise arms) := by
  have hwhen : arms.mapM (Render.caseArm ∘ CaseArm.map r.item) = .ok (arms.map armText) :=
    mapM_ok harms
  have helse : otherwise.toList.mapM ((Render.caseArm ∘ CaseArm.map r.item) ∘ CaseArm.otherwise) =
      .ok (otherwise.toList.map fun e => "ELSE" ++ " " ++ text e) := by
    refine mapM_ok fun e he => ?_
    show (do return "ELSE " ++ (← r.expr e)) = _
    rw [hotherwise e (Option.mem_toList.mp he)]
    rfl
  have hall : ((arms ++ otherwise.toList.map CaseArm.otherwise).map (CaseArm.map r.item)).mapM
      Render.caseArm =
      .ok (arms.map armText ++ otherwise.toList.map fun e => "ELSE" ++ " " ++ text e) := by
    rw [List.mapM_map, List.mapM_append, hwhen, List.mapM_map, helse]
    rfl
  rw [r.expr_mk]
  show (do return Text.parenthesize false (← Render.case (subject.map r.item)
    ((arms ++ otherwise.toList.map CaseArm.otherwise).map (CaseArm.map r.item)))) = _
  unfold Render.case
  rw [hall]
  cases subject with
  | none => rfl
  | some e =>
    simp only [Option.map_some]
    rw [show (r.item e).sql = _ from hsubject e rfl]
    rfl

theorem case_lexes {q : Quoting} (hsubject : ∀ e ∈ subject, Lexes q (text e) (spelling e))
    (harms : ∀ a ∈ arms, Lexes q (armText a) (.word .WHEN :: armSpelling a))
    (hotherwise : ∀ e ∈ otherwise, Lexes q (text e) (spelling e)) :
    Lexes q (caseText text armText subject otherwise arms)
      (.word .CASE :: casePieces spelling armSpelling subject otherwise arms) := by
  have hparts := @Lexes.blanks q ("CASE", [.word .CASE])
    (subject.toList.map (fun e => (text e, spelling e)) ++
      (arms.map (fun a => (armText a, .word .WHEN :: armSpelling a)) ++
      (otherwise.toList.map (fun e => ("ELSE" ++ " " ++ text e, [.word .ELSE] ++ spelling e)) ++
        [("END", [.word .END])]))) (by
    intro p hp
    simp only [List.mem_cons, List.mem_append, List.mem_map, Option.mem_toList, List.not_mem_nil,
      or_false] at hp
    rcases hp with rfl | ⟨e, he, rfl⟩ | ⟨a, ha, rfl⟩ | ⟨e, he, rfl⟩ | rfl
    · exact .keyword .CASE
    · exact hsubject e he
    · exact harms a ha
    · exact Lexes.spaced (.keyword .ELSE) (hotherwise e he)
    · exact .keyword .END)
  simpa [caseText, casePieces, List.flatMap_append, List.flatMap_map, Function.comp_def]
    using hparts

theorem case_first : ∃ cs, (caseText text armText subject otherwise arms).toList = 'C' :: cs := by
  obtain ⟨next, more, hmore⟩ := List.exists_cons_of_ne_nil
    (l := subject.toList.map text ++
      (arms.map armText ++ otherwise.toList.map fun e => "ELSE" ++ " " ++ text e) ++ ["END"])
    (by simp)
  refine ⟨"ASE".toList ++ (" " ++ " ".intercalate (next :: more)).toList, ?_⟩
  rw [caseText, List.append_assoc, List.append_assoc,
    ← List.append_assoc (subject.toList.map text), hmore, List.singleton_append,
      String.intercalate_cons_cons]
  simp

theorem caseExpr_reads (hsubject : ∀ e ∈ subject, Spelled r e (text e) (spelling e))
    (hne : arms ≠ []) (harms : ∀ a ∈ arms, ArmSpelled r a (armText a) (armSpelling a))
    (hotherwise : ∀ e ∈ otherwise, Spelled r e (text e) (spelling e)) {n : Nat}
    (hn : (casePieces spelling armSpelling subject otherwise arms).length ≤ n) (rest : List Piece) :
    Reads (nested n).caseExpr (casePieces spelling armSpelling subject otherwise arms ++ rest)
      (.mk (.case subject (arms ++ otherwise.toList.map .otherwise) false)) rest := by
  simp only [casePieces, List.length_append, List.length_singleton] at hn
  simp only [casePieces, List.append_assoc, List.singleton_append]
  -- what follows the arms
  have hend : Reads (do
      let otherwise ←
        if ← Parser.eatKeyword .ELSE then pure [CaseArm.otherwise (← (nested n).expr 0)]
        else pure []
      Parser.expectKeyword .END
      return Expr.mk (.case subject (arms ++ otherwise) false))
      (otherwise.toList.flatMap (fun e => .word .ELSE :: spelling e) ++ .word .END :: rest)
      (.mk (.case subject (arms ++ otherwise.toList.map .otherwise) false)) rest := by
    cases otherwise with
    | none =>
      refine .left (Parser.isAtKeyword_asks .ELSE) rfl (.pureBind ?_)
      exact (Parser.expectKeyword_reads .END).bind (.pure _)
    | some e =>
      simp only [Option.toList_some, List.flatMap_cons, List.flatMap_nil, List.append_nil,
        List.length_cons] at hn ⊢
      refine .taken (Parser.isAtKeyword_asks .ELSE) rfl
        (((hotherwise e rfl).legible.reads n (by omega) _ rfl).bind ?_)
      exact .pureBind ((Parser.expectKeyword_reads .END).bind (.pure _))
  have hstop : isArmEnd (next (otherwise.toList.flatMap (fun e => .word .ELSE :: spelling e) ++
      .word .END :: rest)) =
      true ∧ next (otherwise.toList.flatMap (fun e => .word .ELSE :: spelling e) ++
        .word .END :: rest) ≠
        .keyword .WHEN := by
    cases otherwise with
    | none => exact ⟨rfl, fun h => by cases h⟩
    | some e => exact ⟨rfl, fun h => by cases h⟩
  have harms' :=
    @Parser.many_reads _ (otherwise.toList.flatMap (fun e => .word .ELSE :: spelling e) ++
    .word .END :: rest) _ _ (nested n).caseArm (.word .WHEN) armSpelling arms
      (Parser.isAtKeyword_asks .WHEN) rfl
    (beq_eq_false_iff_ne.mpr hstop.2) (by
      intro a ha more hmore
      have hlength : (armSpelling a).length <
          (arms.flatMap fun a => Piece.word .WHEN :: armSpelling a).length :=
        Parser.length_lt_flatMap ha
      refine (harms a ha).reads n (by omega) more ?_
      rcases hmore with hmore | hmore
      · rw [hmore]
        rfl
      · rw [hmore]
        exact hstop.1)
  have hempty : arms.isEmpty = false := by simpa using hne
  obtain ⟨arm, more, hcons⟩ := List.exists_cons_of_ne_nil hne
  cases subject with
  | none =>
    refine .isTrue (Parser.isAtKeyword_asks .WHEN) ?_ (.pureBind (harms'.bind ?_))
    · rw [hcons]
      rfl
    · rw [hempty]
      exact hend
  | some e =>
    have he := hsubject e rfl
    simp only [Option.toList_some, List.flatMap_cons, List.flatMap_nil, List.append_nil] at hn ⊢
    refine .isFalse (Parser.isAtKeyword_asks .WHEN) ?_
      ((he.legible.reads n (by omega) _ ?_).bind (.pureBind (harms'.bind ?_)))
    · rw [Parser.next_append (ne_nil_of_opens he.opens)]
      have hopens := he.opens
      refine beq_eq_false_iff_ne.mpr fun hwhen => ?_
      rw [hwhen] at hopens
      cases hopens
    · rw [hcons]
      rfl
    · rw [hempty]
      exact hend

end Case

theorem Spelled.case {subject otherwise : Option Expr} {arms : List (Expr × Expr)} (hne : arms ≠ [])
    (hsubject : ∀ e ∈ subject, ∃ text ks, Spelled r e text ks)
    (hwhen : ∀ a ∈ arms, ∃ text ks, Spelled r a.1 text ks)
    (hthen : ∀ a ∈ arms, ∃ text ks, Spelled r a.2 text ks)
    (hotherwise : ∀ e ∈ otherwise, ∃ text ks, Spelled r e text ks) :
    ∃ text ks, Spelled r (.mk (.case subject
      (arms.map (fun a => .when a.1 a.2) ++ otherwise.toList.map .otherwise) false)) text ks := by
  obtain ⟨text, spelling, hspelled⟩ : ∃ (text : Expr → String) (spelling : Expr → List Piece),
      ∀ e ∈ subject.toList ++ otherwise.toList, Spelled r e (text e) (spelling e) := by
    refine exists_spellings fun e he => ?_
    rcases List.mem_append.mp he with he | he
    · exact hsubject e (Option.mem_toList.mp he)
    · exact hotherwise e (Option.mem_toList.mp he)
  obtain ⟨armText, armSpelling, harms⟩ :
      ∃ (text : CaseArm Expr → String) (spelling : CaseArm Expr → List Piece),
      ∀ a ∈ arms.map (fun a => CaseArm.when a.1 a.2), ArmSpelled r a (text a) (spelling a) := by
    refine exists_spellings fun a ha => ?_
    obtain ⟨arm, harm, rfl⟩ := List.mem_map.mp ha
    exact ArmSpelled.of (hwhen arm harm) (hthen arm harm)
  have hs : ∀ e ∈ subject, Spelled r e (text e) (spelling e) := fun e he =>
    hspelled e (List.mem_append_left _ (Option.mem_toList.mpr he))
  have ho : ∀ e ∈ otherwise, Spelled r e (text e) (spelling e) := fun e he =>
    hspelled e (List.mem_append_right _ (Option.mem_toList.mpr he))
  refine ⟨_, _, case_rendered (fun e he => (hs e he).rendered) (fun a ha => (harms a ha).rendered)
      (fun e he => (ho e he).rendered),
    case_lexes (fun e he => (hs e he).lexes) (fun a ha => (harms a ha).lexes)
      (fun e he => (ho e he).lexes),
    rfl, ?_, (fun h => by cases h), ?_⟩
  · obtain ⟨cs, hcs⟩ := case_first
    exact ⟨'C', cs, hcs, by decide, fun h => by cases h⟩
  · refine .operand fun n hn rest _ => ?_
    rw [List.length_cons] at hn
    refine opensExpr_not_leading rfl rfl (.look (.step ?_))
    exact caseExpr_reads hs (by simpa using hne) harms ho (by omega) rest

end SqlWeave
