import SqlWeave.Proofs.Render.Queries

/-! The texts of nodes. If the subexpressions of a node are shown, it has the shape of what is read,
and its text loses nothing, then the node is shown. -/

namespace SqlWeave

open HasSlots (slots)
open Token (Opens Plain PlainOpens Stands isStop isWhole)
open Render

/-! ## What a text may lose -/

/-- What of a node is written as it is. -/
def Node.bareTexts : Node Expr → List String
  | .call name _ w _ _ => name :: w.toList.flatMap WindowSpec.bareTexts
  | .aggregate _ _ _ _ _ w _ => w.toList.flatMap WindowSpec.bareTexts
  | .windowCall _ _ w => w.bareTexts
  | .cast _ _ _ t _ | .dataType t => [t.name]
  | .columnDefinition c => [c.type.name]
  | .collate _ name _ => [name]
  | .extract field _ => [Text.upper field]
  | .interval _ unit => [Text.upper unit]
  | .fullText _ _ _ _ mode => [upper? mode]
  | .query x => (x.head :: x.rest).flatMap Select.bareTexts
  | _ => []

/-- The columns that a node writes without delimiters. -/
def Node.bareColumns : Node Expr → List (ColumnRef Expr)
  | .subscript base _ =>
    match base.node with
    | .column c => [c]
    | _ => []
  | .query x => (x.head :: x.rest).flatMap Select.bareColumns
  | _ => []

/-- Whether the expression is a list in parentheses of its own. -/
def Expr.isTuple (e : Expr) : Bool :=
  match e.node with
  | .list _ _ parens => parens
  | _ => false

/-- Nothing that is read from the expression is lost in the text of the node. -/
structure Node.Lossless (r : Renderer) (n : Node Expr) : Prop where
  whole : AllWhole r.config.dialect n.bareTexts
  bare : ∀ c ∈ n.bareColumns, c.Bare r.config.dialect
  /-- A list in parentheses is not all that an aggregate has. -/
  argument : ∀ name arg distinct order separator w parens,
    n = .aggregate name arg distinct order separator w parens → arg.isTuple = false
  /-- A sign makes neither a comment nor a longer sign with what stands behind it. -/
  sign : ∀ operator operand parens text, n = .unary operator operand parens →
    r.expr operand = .ok text →
    (operator = "-" → text.toList.head? ≠ some '-') ∧
      (operator = "!" → text.toList.head? ≠ some '=')

variable {r : Renderer} {opening closing : Char} {d : Dialect} {ms : List Mark} {n : Node Expr}
  {text : String}

/-! ## Lists -/

section Lists

variable {es : List Expr}

/-- The subexpressions in the slots, in order. -/
def Layout.ofSlots {α : Type} [SizeOf α] [HasSlots α] (x : α) : List Mark :=
  parts ((slots x).filterMap Slot.expr?)

theorem Layout.ofSlots_list {α : Type} [SizeOf α] [HasSlots α] (xs : List α) :
    ofSlots xs = (xs.map ofSlots).flatten := by
  induction xs with
  | nil => rfl
  | cons x xs ih =>
    rw [List.map_cons, List.flatten_cons, ← ih, ofSlots, slots_cons, List.filterMap_append, parts,
      List.map_append]
    rfl

theorem Layout.ofSlots_exprs (es : List Expr) : ofSlots es = parts es :=
  (ofSlots_list es).trans ((flatten_parts (fun e => e) es).trans (by rw [List.map_id']))

/-- What is written for the members is written for the list. -/
theorem Written.list {separator : Option String} (h : Written d text (Layout.parts es)) :
    Written d text [.part (.mk (.list es separator false))] := by
  rw [← Layout.ofSlots_exprs] at h
  obtain ⟨ks, hks, haround⟩ := h
  exact ⟨ks, hks, .shown ⟨ks, haround, trivial, rfl⟩⟩

theorem list_showing (h : AllShowing r es) (parens : Bool) :
    Showing r (.mk (.list es none parens)) := by
  have hnode : r.node ((Node.list es none parens).map r.item) = do
      return Text.parenthesize parens (← (do return commas (← sqls (es.map r.item)))) := by
    rw [bind_assoc]
    rfl
  have hprints := list_prints h
  rw [← Layout.ofSlots_exprs] at hprints
  exact .of_prints hnode (fun _ => trivial) hprints

/-- A list that is not in parentheses stands for its members. -/
theorem callArgs_prints {e : Expr} (h : Showing r e) (htuple : e.isTuple = false) :
    Prints r.config.dialect (callArgs (r.item e)) [.part e] := by
  obtain ⟨n⟩ := e
  cases n
  case list es separator parens =>
    obtain rfl : parens = false := htuple
    cases separator with
    | some separator => exact h.prints
    | none =>
      have hsame :
          callArgs (r.item (.mk (.list es none false))) = r.expr (.mk (.list es none false)) := by
        show (do return commas (← (r.rendered (.mk (.list es none false))).members)) = _
        rw [r.members_mk, r.expr_mk]
        rfl
      exact hsame ▸ h.prints
  all_goals exact h.prints

theorem arguments_prints {e : Expr} (h : Showing r e) (he : e.IsArguments) :
    Prints r.config.dialect (callArgs (r.item e)) [.part e] := by
  obtain ⟨items, rfl⟩ := he
  exact callArgs_prints h rfl

end Lists

/-! ## Operators -/

section Operators

variable {operator : String} {left right : Expr} {parens : Bool}

/-- What every operator between two operands is written as, and which of them have two bounds. -/
theorem infix_facts {power : Nat} (h : (operator, power) ∈ Operator.infixes) :
    (operator.toList.all Token.isWording = true ∨
      (Token.operatorSigns.lookup operator).isSome = true) ∧
      operatorText operator = operator ∧
        (isBetween operator = true → operator ∈ Operator.ranges) := by
  rcases List.mem_append.mp h with h | h
  · have hwritten : ∀ o ∈ Operator.betweenOperands, o.1.toList.all Token.isWording = true ∨
        (Token.operatorSigns.lookup o.1).isSome = true := by decide +kernel
    obtain ⟨htext, hbetween, -⟩ := betweenOperands_plain _ h
    exact ⟨hwritten _ h, htext, fun h => by cases hbetween.symm.trans h⟩
  · have hwords : ∀ o ∈ Operator.memberships ++ Operator.ranges,
        o.toList.all Token.isWording = true ∧
        operatorText o = o ∧ (isBetween o = true → o ∈ Operator.ranges) := by decide
    obtain ⟨o, ho, heq⟩ := List.mem_map.mp h
    cases heq
    exact ⟨.inl (hwords _ ho).1, (hwords _ ho).2⟩

theorem infix_plain {power : Nat} (q : Token.Quoting) (h : (operator, power) ∈ Operator.infixes) :
    Plain q operator := by
  rcases (infix_facts h).1 with hwords | hsign
  · exact .wording hwords
  · obtain ⟨mark, hmark⟩ := Option.isSome_iff_exists.mp hsign
    obtain ⟨before, after, hsplit, -⟩ := List.lookup_eq_some_iff.mp hmark
    have hmem : (operator, mark) ∈ Token.operatorSigns :=
      hsplit ▸ List.mem_append_right _ List.mem_cons_self
    have hplain : ∀ o ∈ Token.operatorSigns, (TokenKind.symbol o.2).isParenthesis =
        false := by decide
    exact (Stands.sign hmem).plain (hplain _ hmem)

theorem isMembership_of_isBetween (h : isBetween operator = true) :
    isMembership operator = false := by
  simp only [isBetween, Bool.or_eq_true, beq_iff_eq] at h
  rcases h with rfl | rfl <;> rfl

theorem rightSide_prints (h : Showing r right) (hmembers : Slot.All (Showing r) right.node.slots)
    (hbounds : isBetween operator = true → ∃ low high : Expr, right = .list [low, high]) :
    Prints r.config.dialect (rightSide operator (r.item right)) (Layout.side operator right) := by
  obtain ⟨n⟩ := right
  cases n
  case list es separator parens =>
    have hitems : (r.rendered (.mk (.list es separator parens))).members = sqls (es.map r.item) :=
      r.members_mk _
    have hprinted := members_printed hmembers
    unfold rightSide Layout.side
    simp only [Renderer.item, Expr.node] at hitems ⊢
    rw [hitems]
    split
    · rename_i hboth
      obtain ⟨hbetween, -⟩ := Bool.and_eq_true_iff.mp hboth
      obtain ⟨low, high, heq⟩ := hbounds hbetween
      cases heq
      rw [isMembership_of_isBetween hbetween]
      refine hprinted.bind fun texts htexts => .pure ?_
      have hsides : Written r.config.dialect (" AND ".intercalate texts) [.part low, .part high] :=
        .intercalate (.wording (by decide) rfl)
          (fun b => by rw [String.toList_append]; exact Token.isStop_of_isApart rfl)
          htexts
      exact hsides.list
    · split
      · rename_i hboth
        obtain ⟨-, hparens⟩ := Bool.and_eq_true_iff.mp hboth
        obtain rfl : parens = false := by simpa using hparens
        exact hprinted.bind fun texts htexts => .pure (Written.commaParts htexts).list.inParens
      · exact h.prints
  case query x =>
    unfold rightSide Layout.side
    simp only [Renderer.item, Expr.node]
    split
    · exact h.prints.bind fun _ htext => .pure htext.inParens
    · exact h.prints
  all_goals exact h.prints

theorem binary_showing (h : Showing r left) (h' : Showing r right)
    (hmembers : Slot.All (Showing r) right.node.slots)
    (hsides : Operator.Between operator left right) :
    Showing r (.mk (.binary operator left right parens)) := by
  obtain ⟨-, htext, hranges⟩ := infix_facts hsides.known
  have hbounds : isBetween operator = true → ∃ low high : Expr, right = .list [low, high] := by
    intro hbetween
    obtain ⟨low, high, heq, -⟩ := hsides.bounds (hranges hbetween)
    exact ⟨low, high, heq⟩
  have hright := rightSide_prints h' hmembers hbounds
  have hlayout : (Node.binary operator left right parens).layout r.config.dialect =
      .part left :: Layout.side operator right :=
    congrArg (fun text => Mark.part left :: Layout.side text right) htext
  refine .of_prints (x := binary operator (r.item left) (r.item right)) rfl (fun _ => trivial) ?_
  rw [hlayout, binary, htext]
  refine h.prints.bind fun tl hl => hright.bind fun tr hr => .pure ?_
  exact (hl.spaced (.plain (infix_plain _ hsides.known))).spaced hr

theorem unary_showing (h : Showing r left) (hoperator : operator ∈ frontOperators)
    (hsign : ∀ text, r.expr left = .ok text →
      (operator = "-" → text.toList.head? ≠ some '-') ∧
        (operator = "!" → text.toList.head? ≠ some '=')) :
    Showing r (.mk (.unary operator left parens)) := by
  obtain ⟨text, htext, ks, hks, hshows⟩ := h
  obtain ⟨hdash, heq⟩ := hsign text htext
  have hspaced {word : String} (hword : word.toList.all Token.isWording = true)
      (hlast : word.toList.getLast? = some ' ') :
      Written r.config.dialect (word ++ text) [.part left] :=
    Written.behind (.wording hword hlast) ⟨ks, hks, .shown hshows⟩
  have htight {c : Char} {mark : Symbol} (hmark : (c, mark) ∈ Token.leadingSigns)
      (hc : c = '-' → operator = "-") (hc' : c = '!' → operator = "!")
      (hplain : (TokenKind.symbol mark).isParenthesis = false) :
      Written r.config.dialect (String.singleton c ++ text) [.part left] :=
    ⟨_, hks.tight hmark (fun h => hdash (hc h)) fun h => heq (hc' h), .token hplain (.shown hshows)⟩
  have hrendered : unary operator (r.item left) =
      .ok (operatorText operator ++ (if tightOperators.contains (operatorText operator) then ""
        else " ") ++ text) := by
    show (do return operatorText operator ++ _ ++ (← r.expr left)) = _
    rw [htext]
    rfl
  refine .of_prints (x := unary operator (r.item left)) rfl (fun _ => trivial) ⟨_, hrendered, ?_⟩
  show Written r.config.dialect _ [.part left]
  simp only [frontOperators, List.mem_cons, List.not_mem_nil, or_false] at hoperator
  rcases hoperator with rfl | rfl | rfl | rfl | rfl | rfl
  · exact @htight '-' .minus (by decide) (fun _ => rfl) (fun h => by cases h) rfl
  · exact @htight '+' .plus (by decide) (fun h => by cases h) (fun h => by cases h) rfl
  · exact @htight '~' .bitNot (by decide) (fun h => by cases h) (fun h => by cases h) rfl
  · exact @htight '!' .bang (by decide) (fun h => by cases h) (fun _ => rfl) rfl
  · exact hspaced (show "NOT ".toList.all Token.isWording = true by decide) rfl
  · exact hspaced (show "EXISTS ".toList.all Token.isWording = true by decide) rfl

end Operators

/-! ## Calls -/

section Calls

variable {name : String} {args separator : Option Expr} {arg : Expr} {w : Option (WindowSpec Expr)}
  {parens : Bool}

theorem call_showing (hargs : AllShowing r args) (hw : AllShowing r w)
    (harguments : ∀ e ∈ args, e.IsArguments) (hshaped : ∀ v ∈ w, v.Shaped r.config.dialect.quoting)
    (hwhole : AllWhole r.config.dialect (Node.call name args w none parens).bareTexts) :
    Showing r (.mk (.call name args w none parens)) := by
  have hname : Written r.config.dialect name [] := .plain (hwhole.plain List.mem_cons_self)
  have hwindow := over_prints hw hshaped fun text htext =>
    hwhole text (List.mem_cons_of_mem _ htext)
  refine .of_prints (x := call name (args.map r.item) (w.map (·.map r.item)) none) rfl
    (fun _ => trivial) ?_
  cases args with
  | none =>
    refine hwindow.bind fun clause hover => .pure ?_
    simpa [Node.layout] using hname.trailed hover
  | some e =>
    have hprinted := arguments_prints (optional_shown hargs e rfl) (harguments e rfl)
    refine hprinted.bind fun text htext => hwindow.bind fun clause hover => .pure ?_
    simpa [Node.layout] using (hname.trailed (.inParens htext)).trailed hover

theorem aggregate_showing {distinct : Bool} {order : Option (List (OrderItem Expr))}
    (harg : Showing r arg) (horder : AllShowing r order) (hseparator : AllShowing r separator)
    (hw : AllShowing r w) (htuple : arg.isTuple = false)
    (hshaped : (Node.aggregate name arg distinct order separator w parens).Shaped
      r.config.dialect.quoting) (hwhole :
      AllWhole r.config.dialect (w.toList.flatMap WindowSpec.bareTexts)) :
    Showing r (.mk (.aggregate name arg distinct order separator w parens)) := by
  obtain ⟨hname, hitems, hwindows⟩ := hshaped
  have hlast : Prints r.config.dialect (optional "SEPARATOR" (separator.map r.item))
      (Layout.optional separator) := by
    cases separator with
    | none => exact .pure .empty
    | some e =>
      have hword : Written r.config.dialect "SEPARATOR" [] := .wording (by decide)
      exact (optional_shown hseparator e rfl).prints.bind fun _ htext => .pure (hword.spaced htext)
  refine .of_prints (x := aggregate name (r.item arg) distinct (order.map (·.map (·.map r.item)))
    (separator.map r.item)
    (w.map (·.map r.item))) rfl (fun _ => trivial) ?_
  refine (callArgs_prints harg htuple).bind fun args hargs =>
    (orderBy_prints horder hitems).bind fun order horder => ?_
  refine hlast.bind fun separator hseparator =>
    (over_prints hw hwindows hwhole).bind fun clause hover => .pure ?_
  have hinner := (Written.onlyIf (w := "DISTINCT") (by decide) distinct).fragment
    (hargs.fragment (horder.fragment
    (hseparator.fragment .noFragments)))
  have hall := ((Written.plain hname).trailed (.inParens hinner)).trailed hover
  simpa only [Node.layout, List.nil_append, List.cons_append, List.append_nil] using hall

theorem windowCall_showing {w : WindowSpec Expr} (hargs : AllShowing r args) (hw : AllShowing r w)
    (hshaped : (Node.windowCall name args w).Shaped r.config.dialect.quoting)
    (hwhole : AllWhole r.config.dialect w.bareTexts) :
    Showing r (.mk (.windowCall name args w)) := by
  obtain ⟨hname, harguments, hwindow⟩ := hshaped
  have hover := overClause_prints hw hwindow hwhole
  refine .of_bare rfl (fun _ => trivial) ?_
  cases args with
  | none =>
    have hnone : Written r.config.dialect "" [] := .empty
    exact hover.bind fun clause hover =>
      .pure (((Written.plain hname).trailed (.inParens hnone)).spaced hover)
  | some e =>
    refine (arguments_prints (optional_shown hargs e rfl) (harguments e rfl)).bind fun args hargs =>
      ?_
    exact hover.bind fun clause hover =>
      .pure (((Written.plain hname).trailed (.inParens hargs)).spaced hover)

end Calls

/-! ## Words and brackets -/

section Words

variable {e left right : Expr} {es : List Expr} {name keyword : String} {parens : Bool}

theorem cast_showing {symbol : String} {t : DataType Expr} (h : Showing r e) (ht : AllShowing r t)
    (hshaped : (Node.cast keyword e symbol t parens).Shaped r.config.dialect.quoting)
    (hname : isWhole r.config.dialect.quoting t.name = true) :
    Showing r (.mk (.cast keyword e symbol t parens)) := by
  obtain ⟨hkeyword, htype⟩ := hshaped
  refine .of_prints (x := cast keyword (r.item e) symbol (t.map r.item)) rfl (fun _ => trivial) ?_
  refine h.prints.bind fun text htext =>
    (dataType_prints ht htype hname).bind fun target htarget => ?_
  simp only [Node.layout]
  split
  · have hall := htext.trailed (.colons htarget)
    rw [← String.append_assoc] at hall
    exact .pure hall
  · have hinner := htext.between (w := " AS ") (by decide) rfl rfl htarget
    exact .pure ((Written.plain hkeyword).trailed (.inParens hinner))

theorem caseArm_prints {arm : CaseArm Expr} (h : AllShowing r arm) :
    Prints r.config.dialect (caseArm (arm.map r.item)) (Layout.ofSlots arm) := by
  cases arm with
  | when condition result =>
    have hcondition : Showing r condition := h _ List.mem_cons_self condition rfl
    have hresult : Showing r result := h _ (List.mem_cons_of_mem _ List.mem_cons_self) result rfl
    refine hcondition.prints.bind fun c hc => hresult.prints.bind fun t ht => .pure ?_
    exact (Written.behind (a := "WHEN ") (.wording (by decide) rfl) hc).between (w := " THEN ")
      (by decide) rfl rfl ht
  | otherwise result =>
    have hresult : Showing r result := h _ List.mem_cons_self result rfl
    exact hresult.prints.bind fun t ht => .pure (ht.behind (.wording (by decide) rfl))

theorem case_showing {subject : Option Expr} {arms : List (CaseArm Expr)}
    (hsubject : AllShowing r subject) (harms : AllShowing r arms) :
    Showing r (.mk (.case subject arms parens)) := by
  have htexts : Succeeds (AllWritten r.config.dialect · (arms.map Layout.ofSlots))
      ((arms.map (·.map r.item)).mapM caseArm) := by
    rw [List.mapM_map]
    exact .mapM fun arm harm => caseArm_prints (harms.of_mem harm)
  have hword {w : String} (hw : w.toList.all Token.isWording = true) :
      AllWritten r.config.dialect [w] [[]] :=
    .cons (.wording hw) .nil
  have hfirst := hword (w := "CASE") (by decide)
  have hlast := hword (w := "END") (by decide)
  have hlayout : (Node.case subject arms parens).layout r.config.dialect =
      Layout.ofSlots subject ++ (arms.map Layout.ofSlots).flatten := by
    rw [← Layout.ofSlots_list]
    cases subject <;> rfl
  refine .of_prints (x := Render.case (subject.map r.item) (arms.map (·.map r.item))) rfl
    (fun _ => trivial) ?_
  rw [hlayout]
  cases subject with
  | none =>
    refine htexts.bind fun texts htexts => .pure ?_
    show Written r.config.dialect _ (arms.map Layout.ofSlots).flatten
    simpa using Written.blanks (List.rel_append (List.rel_append hfirst htexts) hlast)
  | some e =>
    refine (optional_shown hsubject e rfl).prints.bind fun text htext =>
      htexts.bind fun texts htexts => .pure ?_
    have hsubject : AllWritten r.config.dialect [text] [[.part e]] := .cons htext .nil
    show Written r.config.dialect _ (.part e :: (arms.map Layout.ofSlots).flatten)
    simpa using Written.blanks (List.rel_append
      (List.rel_append (List.rel_append hfirst hsubject) htexts) hlast)

theorem subscript_showing (h : Showing r e) (hes : AllShowing r es)
    (hq : r.config.dialect.quoting.bracketNames = false)
    (hname : ∀ c, e.node = .column c → c.Shaped)
    (hbare : ∀ c, e.node = .column c → c.Bare r.config.dialect) :
    Showing r (.mk (.subscript e es)) := by
  have hbase {x : Result String} (hx : Prints r.config.dialect x [.part e]) :
      Prints r.config.dialect (do
      let base ← x
      let indices ← sqls (es.map r.item)
      return base ++ String.join (indices.map fun index => "[" ++ index ++ "]"))
      ((Node.subscript e es).layout r.config.dialect) := by
    refine hx.bind fun base hbase => (members_printed hes).bind fun indices hindices => .pure ?_
    have hall :=
      hbase.trailed (.join (List.forall₂_map_left_iff.mpr
        (hindices.imp fun _ _ hindex => .inBrackets hindex hq)))
    rwa [flatten_parts (fun e => e), List.map_id', ← Layout.ofSlots_exprs] at hall
  refine .of_bare rfl (fun _ => trivial) ?_
  obtain ⟨n⟩ := e
  cases n
  case column c =>
    exact hbase (.pure (bareColumn_written (hname c rfl).name (hbare c rfl)))
  all_goals exact hbase h.prints

theorem entries_print {entries : List (Expr × Expr)} (h : AllShowing r entries) :
    Succeeds (AllWritten r.config.dialect · (entries.map Layout.ofSlots))
      ((entries.map fun (a, b) => (r.item a, r.item b)).mapM pair) := by
  rw [List.mapM_map]
  refine .mapM fun entry hentry => ?_
  obtain ⟨key, value⟩ := entry
  have hboth := h.of_mem hentry
  have hkey : Showing r key := hboth _ List.mem_cons_self key rfl
  have hvalue : Showing r value := hboth _ (List.mem_cons_of_mem _ List.mem_cons_self) value rfl
  refine hkey.prints.bind fun a ha => hvalue.prints.bind fun b hb => .pure ?_
  have hall := ha.trailed (.comma hb)
  rwa [← String.append_assoc] at hall

theorem mapLiteral_showing {entries : List (Expr × Expr)} (hentries : AllShowing r entries)
    (hshaped : (Node.mapLiteral keyword entries).Shaped r.config.dialect.quoting) :
    Showing r (.mk (.mapLiteral keyword entries)) := by
  refine .of_bare rfl (fun _ => trivial) ((entries_print hentries).bind fun texts htexts =>
    .pure ?_)
  have hall := (Written.plain hshaped.1).trailed (.inBrackets (Written.commas htexts) hshaped.2)
  rwa [← Layout.ofSlots_list, ← String.append_assoc, ← String.append_assoc] at hall

theorem array_showing {brackets : Bool} {keyword : Option String} (hes : AllShowing r es)
    (hshaped : (Node.array keyword brackets es).Shaped r.config.dialect.quoting) :
    Showing r (.mk (.array keyword brackets es)) := by
  obtain ⟨hkeyword, rfl, hq⟩ := hshaped
  refine .of_bare rfl (fun _ => trivial) ?_
  refine (members_printed hes).bind fun texts htexts => .pure ?_
  have hall := (Written.plain hkeyword).trailed (.inBrackets (Written.commaParts htexts) hq)
  rwa [← Layout.ofSlots_exprs, ← String.append_assoc, ← String.append_assoc] at hall

theorem struct_showing (hes : AllShowing r es) : Showing r (.mk (.struct none es)) := by
  have hopening : PlainOpens r.config.dialect.quoting "\x7b" := by
    have hmark : Opens r.config.dialect.quoting "\x7b" [.symbol .leftBrace] :=
      Opens.mark (c := '\x7b') (by decide) (fun _ => rfl) (fun _ => rfl)
    exact hmark.plain rfl
  have hclosing : Trailing r.config.dialect "\x7d" [] := by
    have hmark : Opens r.config.dialect.quoting "\x7d" [.symbol .rightBrace] :=
      Opens.mark (c := '\x7d') (by decide) (fun _ => rfl) (fun _ => rfl)
    exact ⟨.plain (hmark.stands.plain rfl), Token.isStop_of_stopsToken (by decide) (by decide)⟩
  refine .of_bare rfl (fun _ => trivial) ((members_printed hes).bind fun texts htexts => .pure ?_)
  have hall := ((Written.commaParts htexts).behind hopening).trailed hclosing
  rwa [List.append_nil, ← Layout.ofSlots_exprs] at hall

theorem assign_showing (h : Showing r left) (h' : Showing r right) :
    Showing r (.mk (.assign left ":" right)) := by
  refine .of_bare rfl (fun _ => trivial) ?_
  refine h.prints.bind fun tl hl => h'.prints.bind fun tr hr => .pure ?_
  have hall := hl.trailed (.colon hr)
  rwa [← String.append_assoc] at hall

theorem interval_showing (h : Showing r e)
    (hunit : isWhole r.config.dialect.quoting (Text.upper name) = true) :
    Showing r (.mk (.interval e name)) := by
  refine .of_bare rfl (fun _ => trivial) (h.prints.bind fun text htext => ?_)
  have hamount := htext.behind (a := "INTERVAL ") (.wording (by decide) rfl)
  split
  · exact .pure hamount
  · exact .pure (hamount.spaced (.plain (.ofWhole hunit)))

theorem extract_showing (h : Showing r e)
    (hfield : isWhole r.config.dialect.quoting (Text.upper name) = true) :
    Showing r (.mk (.extract name e)) := by
  refine .of_bare rfl (fun _ => trivial) (h.prints.bind fun text htext => .pure ?_)
  have hinner := (Written.plain (.ofWhole hfield)).between (w := " FROM ") (by decide) rfl rfl htext
  have hall := (Written.wording (a := "EXTRACT") (by decide)).trailed (.inParens hinner)
  have hopening : "EXTRACT" ++ "(" = "EXTRACT(" := rfl
  simp only [inParens, ← String.append_assoc, hopening] at hall
  exact hall

theorem collate_showing {operand : Option Expr} (h : AllShowing r operand)
    (hname : isWhole r.config.dialect.quoting name = true) :
    Showing r (.mk (.collate operand name none)) := by
  have hcollate : Written r.config.dialect ("COLLATE " ++ name) [] :=
    (Written.plain (.ofWhole hname)).behind (.wording (by decide) rfl)
  refine .of_bare rfl (fun _ => trivial) ?_
  cases operand with
  | none => exact .pure (Written.empty.fragment (hcollate.fragment .noFragments))
  | some e =>
    refine (optional_shown h e rfl).prints.bind fun text htext => .pure ?_
    exact htext.fragment (hcollate.fragment .noFragments)

theorem unnest_showing (h : Showing r e) : Showing r (.mk (.unnest e)) := by
  refine .of_bare rfl (fun _ => trivial) (h.prints.bind fun text htext => .pure ?_)
  exact (Written.wording (a := "UNNEST") (by decide)).trailed (.inParens htext)

end Words

/-! ## Columns and queries -/

section Columns

/-- The mode of a search stands behind its phrase. -/
theorem Written.searchMode {mode : Option String} (h : Written d text ms) :
    Plain d.quoting (upper? mode) → Written d (text ++ match mode with
      | some mode => " " ++ Text.upper mode
      | none => "") ms := by
  intro hmode
  cases mode with
  | none => simpa using h
  | some mode => simpa [String.append_assoc, upper?] using h.spaced (.plain hmode)

theorem fullText_showing (hr : r.Standard opening closing)
    {matchWord againstWord mode : Option String} {columns : List (ColumnRef Expr)} {phrase : Expr}
    (h : Showing r phrase)
    (hshaped : (Node.fullText matchWord columns againstWord phrase mode).Shaped
      r.config.dialect.quoting) (hloss :
      (Node.fullText matchWord columns againstWord phrase mode).Lossless r) :
    Showing r (.mk (.fullText matchWord columns againstWord phrase mode)) := by
  obtain ⟨hmatch, hagainst, hcolumns⟩ := hshaped
  have hsame : r.node ((Node.fullText matchWord columns againstWord phrase mode).map r.item) =
      standardFullText r.config matchWord (columns.map (·.map r.item)) againstWord (r.item phrase)
        mode := by
    cases r
    cases hr.registry
    rfl
  have htexts :
      Succeeds (AllWritten r.config.dialect · (columns.map fun c => [.part (.mk (.column c))]))
      ((columns.map (·.map r.item)).mapM (standardColumnRef r.config)) := by
    rw [List.mapM_map]
    refine .mapM fun c hc => ?_
    have hprints := (columnRef_showing hr (hcolumns c hc)).prints
    rwa [r.expr_mk, Node.map, Renderer.node_column hr.registry] at hprints
  have hmode : Plain r.config.dialect.quoting (upper? mode) :=
    hloss.whole.plain (List.mem_singleton_self _)
  refine .of_bare rfl (fun _ => trivial) ?_
  rw [hsame]
  refine htexts.bind fun texts htexts => h.prints.bind fun text htext => .pure ?_
  have hinner := htext.searchMode hmode
  have hlists := Written.commas htexts
  rw [flatten_parts fun c => Expr.mk (.column c)] at hlists
  have hall := (((Written.plain hmatch).spaced hlists.inParens).spaced (.plain hagainst)).spaced
    hinner.inParens
  rwa [List.nil_append, List.append_nil] at hall

theorem columnDefinition_showing (hr : r.Standard opening closing) {c : ColumnDefinition Expr}
    (hshaped : (Node.columnDefinition c).Shaped r.config.dialect.quoting) (ht : AllShowing r c.type)
    (hname : isWhole r.config.dialect.quoting c.type.name = true) :
    Showing r (.mk (.columnDefinition c)) := by
  obtain ⟨name, t, rfl, htype⟩ := hshaped
  obtain ⟨text, -, hcolumnName, -, -⟩ :=
    (ColumnRef.ofText name).name_text (ColumnName.ofText_ne_computed name)
  have hnode : r.node ((Node.columnDefinition (.ofName name t)).map r.item) = do
      return fragments [r.config.dialect.quoteIdentifier text, ← Render.dataType (t.map r.item), "",
        "", "", "", "", "", ""] := by
    have hrule : r.node ((Node.columnDefinition (.ofName name t)).map r.item) =
        standardColumnDefinition r.config ((ColumnDefinition.ofName name t).map r.item) := by
      cases r
      cases hr.registry
      rfl
    rw [hrule]
    show (do
      let name ← columnName r.config.dialect
          ((ColumnRef.ofText name : ColumnRef Expr).column.map r.item)
      return fragments [name, ← Render.dataType (t.map r.item), "", "", "", "", "", "", ""]) = _
    rw [hcolumnName]
    rfl
  refine .of_bare rfl (fun _ => trivial) ?_
  rw [hnode]
  refine (dataType_prints ht htype hname).bind fun type htype => .pure ?_
  have hquoted : Written r.config.dialect (r.config.dialect.quoteIdentifier text) [] :=
    .plain (.name hr.delimiters text)
  have hempty : Written r.config.dialect "" [] := .empty
  have hall :=
    hquoted.fragment (htype.fragment
      (hempty.fragment (hempty.fragment (hempty.fragment (hempty.fragment
    (hempty.fragment (hempty.fragment (hempty.fragment .noFragments))))))))
  simp only [List.append_nil, List.nil_append] at hall
  show Written r.config.dialect _ (Layout.dataType t ++ [] ++ [])
  rwa [List.append_nil, List.append_nil]

theorem query_showing (hr : r.Standard opening closing) {x : Query Expr} (h : AllShowing r x)
    (hshaped : x.Shaped r.config.dialect.quoting) (hloss : (Node.query x).Lossless r) :
    Showing r (.mk (.query x)) := by
  obtain ⟨hhead, hrest⟩ := Slot.all_append.mp h
  have hwhole : ∀ s ∈ x.head :: x.rest, AllWhole r.config.dialect s.bareTexts :=
    fun s hs text htext => hloss.whole text (List.mem_flatMap.mpr ⟨s, hs, htext⟩)
  have hbare : ∀ s ∈ x.head :: x.rest, ∀ c ∈ s.bareColumns, c.Bare r.config.dialect :=
    fun s hs c hc => hloss.bare c (List.mem_flatMap.mpr ⟨s, hs, hc⟩)
  have hselects := hshaped.selects
  rw [List.forall_mem_cons] at hwhole hbare hselects
  have hnode : r.node ((Node.query x).map r.item) = do
      return Text.parenthesize x.parens (← (do
        let head ← r.select (x.head.map r.item)
        let rest ← r.chain x.head.setOperator (x.rest.map (·.map r.item))
        return head ++ rest)) := by
    simp only [bind_assoc, pure_bind]
    rfl
  refine .of_prints hnode (fun _ => trivial) ?_
  refine (select_prints hr hhead hselects.1 hwhole.1 hbare.1).bind fun head hhead => ?_
  refine (chain_prints hr hselects.1.operator hrest hselects.2 hwhole.2 hbare.2).bind
    fun rest hrest => .pure ?_
  exact hhead.trailed hrest

end Columns

/-! ## Literals -/

theorem literal_showing (hplain : Plain r.config.dialect.quoting text)
    (hlayout : n.layout r.config.dialect = []) (hnamed : ∀ ks, n.Named r.config.dialect ks)
    (hnode : r.node (n.map r.item) = .ok (Text.parenthesize n.isParenthesized text)) :
    Showing r (.mk n) := by
  refine .of_prints (x := .ok text) hnode hnamed (.pure ?_)
  rw [hlayout]
  exact .plain hplain

/-! ## All nodes -/

/-- What the text of a node is put together from. -/
structure Expr.Ready (r : Renderer) (e : Expr) : Prop where
  showing : Showing r e
  members : Slot.All (Showing r) e.node.slots
  shaped : e.node.Shaped r.config.dialect.quoting

theorem node_showing {K : TokenKind → Prop} (hr : r.Standard opening closing)
    (h : Slot.All (Expr.Ready r) n.slots) (hshaped : n.Shaped r.config.dialect.quoting)
    (hfrom : n.From K) (hloss : n.Lossless r) : Showing r (.mk n) := by
  have hall : Slot.All (Showing r) n.slots := fun s hs e he => (h s hs e he).showing
  cases n
  case column c => exact columnRef_showing hr hshaped
  case binary operator left right parens =>
    have hright : right.Ready r := h _ (List.mem_cons_of_mem _ List.mem_cons_self) right rfl
    exact binary_showing (hall _ List.mem_cons_self left rfl) hright.showing hright.members hfrom
  case unary operator operand parens =>
    exact unary_showing (hall _ List.mem_cons_self operand rfl) hshaped fun text htext =>
      hloss.sign _ _ _ text rfl htext
  case call name args w suffix parens =>
    obtain ⟨harguments, hwindow, rfl⟩ := hshaped
    obtain ⟨hargs, hw⟩ := Slot.all_append.mp hall
    exact call_showing (Slot.all_optionals.mp hargs) hw harguments hwindow hloss.whole
  case aggregate name arg distinct order separator w parens =>
    obtain ⟨harg, hrest⟩ := Slot.all_cons.mp hall
    obtain ⟨hrest, hw⟩ := Slot.all_append.mp hrest
    obtain ⟨horder, hseparator⟩ := Slot.all_append.mp hrest
    exact aggregate_showing (harg arg rfl) horder (Slot.all_optionals.mp hseparator) hw
      (hloss.argument _ _ _ _ _ _ _ rfl) hshaped hloss.whole
  case cast keyword e symbol t parens =>
    obtain ⟨he, ht⟩ := Slot.all_cons.mp hall
    exact cast_showing (he e rfl) ht hshaped (hloss.whole _ (List.mem_singleton_self _))
  case case subject arms parens =>
    obtain ⟨hsubject, harms⟩ := Slot.all_append.mp hall
    exact case_showing (Slot.all_optionals.mp hsubject) harms
  case windowCall name args w =>
    obtain ⟨hargs, hw⟩ := Slot.all_append.mp hall
    exact windowCall_showing (Slot.all_optionals.mp hargs) hw hshaped hloss.whole
  case subscript base indices =>
    obtain ⟨hbase, hindices⟩ := Slot.all_cons.mp hall
    have hready : base.Ready r := h _ List.mem_cons_self base rfl
    refine subscript_showing (hbase base rfl) hindices hshaped (fun c hc => ?_) fun c hc =>
      hloss.bare c ?_
    · have hcolumn := hready.shaped
      rwa [hc] at hcolumn
    · rw [Node.bareColumns, hc]
      exact List.mem_singleton_self _
  case list items separator parens =>
    cases (show separator = none from hshaped)
    exact list_showing hall parens
  case query x => exact query_showing hr hall hshaped hloss
  case «variable» v => exact literal_showing hshaped rfl (fun _ => trivial) rfl
  case mapLiteral keyword entries => exact mapLiteral_showing hall hshaped
  case fullText matchWord columns againstWord phrase mode =>
    obtain ⟨-, hphrase⟩ := Slot.all_append.mp hall
    exact fullText_showing hr (hphrase _ (List.mem_singleton_self _) phrase rfl) hshaped hloss
  case columnDefinition c =>
    obtain ⟨hrest, -⟩ := Slot.all_append.mp hall
    obtain ⟨hrest, -⟩ := Slot.all_append.mp hrest
    obtain ⟨-, ht⟩ := Slot.all_append.mp hrest
    exact columnDefinition_showing hr hshaped ht (hloss.whole _ (List.mem_singleton_self _))
  case interval amount unit =>
    exact interval_showing (hall _ List.mem_cons_self amount rfl)
      (hloss.whole _ (List.mem_singleton_self _))
  case extract field source =>
    exact extract_showing (hall _ List.mem_cons_self source rfl)
      (hloss.whole _ (List.mem_singleton_self _))
  case collate operand name symbol =>
    cases (show symbol = none from hshaped)
    exact collate_showing (Slot.all_optionals.mp hall) (hloss.whole _ (List.mem_singleton_self _))
  case dataType t =>
    exact .of_bare rfl (fun _ => trivial)
      (dataType_prints hall hshaped (hloss.whole _ (List.mem_singleton_self _)))
  case assign left symbol right =>
    cases (show symbol = ":" from hshaped)
    exact assign_showing (hall _ List.mem_cons_self left rfl)
      (hall _ (List.mem_cons_of_mem _ List.mem_cons_self) right rfl)
  case array keyword brackets items => exact array_showing hall hshaped
  case struct keyword items =>
    cases (show keyword = none from hshaped)
    exact struct_showing hall
  case unnest operand => exact unnest_showing (hall _ List.mem_cons_self operand rfl)
  case number value parens => exact literal_showing hshaped rfl (fun _ => trivial) rfl
  case text kind value parens => exact literal_showing hshaped rfl (fun _ => trivial) rfl
  case bool value parens =>
    have hplain : Plain r.config.dialect.quoting (if value then "TRUE" else "FALSE") := by
      cases value <;> exact .wording (by decide)
    exact literal_showing hplain rfl (fun _ => trivial) rfl
  case null =>
    have hplain : Plain r.config.dialect.quoting "NULL" := .wording (by decide)
    exact literal_showing hplain rfl (fun _ => trivial) rfl
  all_goals exact hshaped.elim

/-- An expression is shown if each of its nodes has the shape of what is read and loses nothing. -/
theorem Expr.ready {K : TokenKind → Prop} (hr : r.Standard opening closing) {e : Expr}
    (h : ∀ n, e.HasNode n → n.Shaped r.config.dialect.quoting ∧ n.From K ∧
      n.Lossless r) : e.Ready r := by
  induction e using Expr.slot_induction with
  | step n ih =>
    have hparts : Slot.All (Expr.Ready r) n.slots :=
      fun s hs e he => ih s hs e he fun m hm => h m (.below hs he hm)
    obtain ⟨hshaped, hfrom, hloss⟩ := h n (.inl rfl)
    exact ⟨node_showing hr hparts hshaped hfrom hloss, fun s hs e he => (hparts s hs e he).showing,
      hshaped⟩

end SqlWeave
