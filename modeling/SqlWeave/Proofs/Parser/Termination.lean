import SqlWeave.Proofs.Parser.Rounds
import SqlWeave.Proofs.TableList

/-! Reading a text comes to an end. Each round of a loop starts at a later token than the one
before, and so does whatever nests; only a WITH clause before SELECT is read again, once, from the
start of its statement. -/

namespace SqlWeave.Parser

variable {α β : Type} {m : Nat} {src : Source} {s t : ParserState}

/-! ## Between statements -/

/-- The readers do the same at `s`. -/
def SameAt (src : Source) (s : ParserState) (p q : Parser α) : Prop := p src s = q src s

theorem SameAt.bind {p : Parser α} {f g : α → Parser β}
    (h : ∀ x t, Returns p src s x t → SameAt src t (f x) (g x)) :
    SameAt src s (p >>= f) (p >>= g) := by
  unfold SameAt
  rw [run_bind, run_bind]
  cases hrun : p src s with
  | error e => rfl
  | ok r => exact h r.1 r.2 hrun

theorem manyWithin_eat_ends {mark : Symbol} {item : Parser α} {n : Nat} {xs : List α}
    (h : Returns (manyWithin (eat mark) item n) src s xs t) : t.current.kind ≠ .symbol mark := by
  induction n generalizing s xs with
  | zero => exact absurd h not_returns_outOfRounds
  | succ n ih =>
    obtain ⟨b, u, hb, h⟩ := Returns.bind h
    cases b with
    | false =>
      obtain ⟨-, rfl⟩ := Returns.pure h
      obtain ⟨hne, rfl⟩ := eat_refuses hb
      exact hne
    | true =>
      obtain ⟨x, v, -, h⟩ := Returns.bind h
      obtain ⟨ys, v, hys, h⟩ := Returns.bind h
      obtain ⟨-, rfl⟩ := Returns.pure h
      exact ih hys

theorem semicolons_ends (h : Returns semicolons src s () t) :
    t.current.kind ≠ .symbol .semicolon := by
  obtain ⟨_, u, hmany, h⟩ := Returns.bind h
  obtain ⟨-, rfl⟩ := Returns.pure h
  obtain ⟨n, v, hn, hmany⟩ := Returns.bind hmany
  exact manyWithin_eat_ends hmany

/-! ## Starting over -/

/-- Goes onward, and where it goes back it goes to `start` and does so once. -/
inductive Backs (start : ParserState) : {α : Type} → Parser α → Prop
  | onward {α : Type} {p : Parser α} (hp : Onward p) : Backs start p
  | back {α : Type} {p : Parser α} (hp : Onward p) : Backs start (do rewind start; p)
  | seq {α β : Type} {p : Parser α} {f : α → Parser β} (hp : Onward p)
      (hf : ∀ x, Backs start (f x)) :
    Backs start (p >>= f)

/-- Goes onward, and where it goes back it goes to where it starts and does so once. -/
inductive BacksToStart : {α : Type} → Parser α → Prop
  | onward {α : Type} {p : Parser α} (hp : Onward p) : BacksToStart p
  | mark {α : Type} {f : ParserState → Parser α} (hf : ∀ start, Backs start (f start)) :
      BacksToStart (get >>= f)
  | look {α β : Type} {p : Parser α} {f : α → Parser β} (hp : Still p)
      (hf : ∀ x, BacksToStart (f x)) :
    BacksToStart (p >>= f)

/-- A succession of readers of which each goes back at most once, to its own start. -/
inductive BacksWithin : {α : Type} → Parser α → Prop
  | single {α : Type} {p : Parser α} (hp : BacksToStart p) : BacksWithin p
  | seq {α β : Type} {p : Parser α} {f : α → Parser β} (hp : BacksWithin p)
      (hf : ∀ x, BacksWithin (f x)) :
    BacksWithin (p >>= f)

theorem Backs.later {start : ParserState} {p : Parser α} {x : α} (hp : Backs start p)
    (hs : Later 0 start s) (h : Returns p src s x t) : Later 0 start t := by
  induction hp generalizing s with
  | onward hp => exact hs.trans (hp.later h)
  | back hp =>
    obtain ⟨_, u, hu, h⟩ := Returns.bind h
    obtain rfl := rewind_returns hu
    exact (Later.of_tokens rfl rfl).trans (hp.later h)
  | seq hp _ ih =>
    obtain ⟨y, u, hy, h⟩ := Returns.bind h
    exact ih y (hs.trans (hp.later hy)) h

theorem BacksToStart.forward {p : Parser α} (hp : BacksToStart p) : Forward p := by
  induction hp with
  | onward hp => exact hp.forward
  | mark hf => exact fun src s x t h => (hf s).later (.of_tokens rfl rfl) h
  | look hp _ ih => exact (Onward.still hp).forward.andThen ih

theorem BacksWithin.forward {p : Parser α} (hp : BacksWithin p) : Forward p := by
  induction hp with
  | single hp => exact hp.forward
  | seq _ _ ihp ihf => exact ihp.andThen ihf

namespace Nested

variable {i j : Nested}

namespace Onward

variable (h : i.Onward)
include h

theorem withStatement : BacksToStart i.withStatement := by
  have hwiths := ((h.agree 0).withClause (P := fun _ => True)).same.left
  refine .mark fun start => .seq hwiths fun withs => .seq inferInstance fun k => ?_
  cases k
  case keyword word =>
    cases word
    case SELECT => exact .back (.seq h.query fun _ => inferInstance)
    case UPDATE => exact .onward (.seq ((h.agree 0).update _).left fun _ => inferInstance)
    case DELETE => exact .onward (.seq ((h.agree 0).delete _).left fun _ => inferInstance)
    all_goals exact .onward inferInstance
  all_goals exact .onward inferInstance

theorem statement : BacksToStart i.statement := by
  refine .look kind_still fun k => ?_
  cases k
  case keyword word =>
    cases word
    case SELECT => exact .onward (.seq h.query fun _ => inferInstance)
    case WITH => exact h.withStatement
    case INSERT => exact .onward (.seq ((h.agree 0).insert _).left fun _ => inferInstance)
    case REPLACE => exact .onward (.seq ((h.agree 0).insert _).left fun _ => inferInstance)
    case UPDATE => exact .onward (.seq ((h.agree 0).update _).left fun _ => inferInstance)
    case DELETE => exact .onward (.seq ((h.agree 0).delete _).left fun _ => inferInstance)
    case CREATE => exact .onward (.seq ((h.agree 0).create).left fun _ => inferInstance)
    case DROP => exact .onward .parts
    case SHOW => exact .onward .parts
    all_goals exact .onward inferInstance
  all_goals exact .onward inferInstance

theorem statements (n : Nat) : BacksWithin (i.statements n) := by
  induction n with
  | zero => exact .single (.onward (inferInstanceAs (Parser.Onward outOfRounds)))
  | succ n ih =>
    refine .seq (.single (.onward inferInstance)) fun _ =>
      .seq (.single (.onward inferInstance)) fun k => ?_
    split
    · exact .single (.onward inferInstance)
    · refine .seq (.single h.statement) fun _ => .seq (.single (.onward inferInstance)) fun b => ?_
      split
      · exact .seq ih fun _ => .single (.onward inferInstance)
      · exact .single (.onward inferInstance)

theorem script : BacksWithin i.script := by
  refine .seq (.single (.onward inferInstance)) fun n => .seq (h.statements n) fun ss => ?_
  cases ss with
  | nil => exact .single (.onward inferInstance)
  | cons s ss => exact .single (.onward inferInstance)

end Onward

namespace Agree

variable (h : i.Agree m j)
include h

/-- The query after a WITH clause is read from where that clause starts. -/
theorem withStatement : SameAhead m i.withStatement j.withStatement where
  left := h.left.withStatement.forward
  right := h.right.withStatement.forward
  agree := by
    have hwiths : Same m i.withClause j.withClause :=
      h.withClause.same.mono (Nat.le_succ m) fun _ => id
    refine .mark fun start hstart hm => hwiths.alike.andThen hwiths.left.forward fun withs =>
      (SameOn.refl (p := kind)).alike.andThen (Onward.forward inferInstance) fun k => ?_
    cases k
    case keyword word =>
      cases word
      case SELECT => exact .back (SameOn.andThen h.query fun _ => .refl).alike hstart hm
      case UPDATE => exact (SameOn.andThen (h.update _) fun _ => .refl).alike
      case DELETE => exact (SameOn.andThen (h.delete _) fun _ => .refl).alike
      all_goals exact SameOn.refl.alike
    all_goals exact SameOn.refl.alike

theorem statement : SameAhead m i.statement j.statement := by
  refine .andThen (SameOn.refl (p := kind)).ahead fun k => ?_
  cases k
  case keyword word =>
    cases word
    case SELECT => exact (SameOn.andThen h.query fun _ => .refl).ahead
    case WITH => exact h.withStatement
    case INSERT => exact (SameOn.andThen (h.insert _) fun _ => .refl).ahead
    case REPLACE => exact (SameOn.andThen (h.insert _) fun _ => .refl).ahead
    case UPDATE => exact (SameOn.andThen (h.update _) fun _ => .refl).ahead
    case DELETE => exact (SameOn.andThen (h.delete _) fun _ => .refl).ahead
    case CREATE => exact (SameOn.andThen h.create fun _ => .refl).ahead
    all_goals exact SameOn.refl.ahead
  all_goals exact SameOn.refl.ahead

theorem statements (n : Nat) : SameAhead m (i.statements n) (j.statements n) := by
  induction n with
  | zero => exact (SameOn.outOfRounds).ahead
  | succ n ih =>
    refine .andThen (SameOn.refl (p := semicolons)).ahead fun _ =>
      .andThen (SameOn.refl (p := kind)).ahead fun k => ?_
    refine .ite SameOn.refl.ahead (.andThen h.statement fun s =>
      .andThen SameOn.refl.ahead fun b => ?_)
    exact .ite (.andThen ih fun _ => SameOn.refl.ahead) SameOn.refl.ahead

theorem script : SameAhead m i.script j.script := by
  refine .andThen (SameOn.refl (p := rounds)).ahead fun n => .andThen (h.statements n) fun ss => ?_
  cases ss with
  | nil => exact SameOn.refl.ahead
  | cons s ss => exact SameOn.refl.ahead

end Agree

/-- A round of statements. -/
def statementsRound (i : Nested) (again : Unit → Parser (List (Statement Expr))) (_ : Unit) :
    Parser (List (Statement Expr)) := do
  semicolons
  if (← kind) == .eof then return []
  else
    let s ← i.statement
    if ← isAtStatementEnd then return s :: (← again ()) else unexpected "end of statement"

theorem Onward.statementsRound_forward (h : i.Onward)
    {again : Unit → Parser (List (Statement Expr))} (hagain : Forward (again ())) :
    Forward (i.statementsRound again ()) := by
  refine .andThen (Parser.Onward.forward inferInstance) fun _ =>
    .andThen (Parser.Onward.forward inferInstance) fun k => ?_
  refine .ite (Parser.Onward.forward inferInstance) (.andThen h.statement.forward fun s => ?_)
  refine .andThen (Parser.Onward.forward inferInstance) fun b => ?_
  exact .ite (.andThen hagain fun _ => Parser.Onward.forward inferInstance)
    (Parser.Onward.forward inferInstance)

/-- A statement starts where none can end. -/
theorem Onward.statements_driven (h : i.Onward) :
    TokenDriven SameAhead (fun n (_ : Unit) => i.statements n) i.statementsRound where
  zero _ := rfl
  succ _ _ := rfl
  later {m f g} hagain _ := by
    refine ⟨h.statementsRound_forward (hagain ()).left,
      h.statementsRound_forward (hagain ()).right, ?_⟩
    intro src s hs hm
    show SameAt src s _ _
    refine .bind fun _ u hu => .bind fun k v hk => ?_
    obtain ⟨rfl, rfl⟩ := kind_returns hk
    split
    · rfl
    rename_i heof
    refine .bind fun x v hx => .bind fun b w hb => ?_
    obtain ⟨rfl, rfl⟩ := isAtStatementEnd_asks.returns hb
    split
    · rename_i hend
      have hlater : Later 1 u v := by
        refine (h.statement.forward _ _ _ _ hx).of_ne fun he => ?_
        rw [he] at hend
        simp only [Bool.or_eq_true, beq_iff_eq] at hend heof
        exact hend.elim (semicolons_ends hu) heof
      have hv := (Parser.Onward.later inferInstance hu).trans hlater
      have hrest := hv.rest_le
      exact Alike.andThen (hagain ()).agree (hagain ()).left (fun _ _ _ _ _ => rfl)
        _ _ (hv.ended hs) (by omega)
    · rfl

/-- Statements are read up to the end of input. -/
theorem statements_end {n : Nat} {ss : List (Statement Expr)}
    (h : Returns (i.statements n) src s ss t) :
    t.current.kind = .eof := by
  induction n generalizing s ss with
  | zero => exact absurd h not_returns_outOfRounds
  | succ n ih =>
    obtain ⟨_, u, -, h⟩ := Returns.bind h
    obtain ⟨k, v, hk, h⟩ := Returns.bind h
    obtain ⟨rfl, rfl⟩ := kind_returns hk
    split at h
    · rename_i heof
      obtain ⟨-, rfl⟩ := Returns.pure h
      exact beq_iff_eq.mp heof
    · obtain ⟨x, v, -, h⟩ := Returns.bind h
      obtain ⟨b, w, -, h⟩ := Returns.bind h
      split at h
      · obtain ⟨ss', w, hss, h⟩ := Returns.bind h
        obtain ⟨-, rfl⟩ := Returns.pure h
        exact ih hss
      · exact absurd h not_returns_unexpected

/-! ## Nesting -/

/-- Readers of what nests that refuse to where no token has been taken since `s`. -/
def onlyAfter (s : ParserState) (i : Nested) : Nested where
  expr least := Parser.onlyAfter s (i.expr least)
  operand := Parser.onlyAfter s i.operand
  primary := Parser.onlyAfter s i.primary
  query := Parser.onlyAfter s i.query
  dataType := Parser.onlyAfter s i.dataType

/-- The readers around those of what nests call them at strictly later tokens only. -/
structure CallsLater (i : Nested) : Prop where
  expr : ∀ {src s}, Ended s → ∀ least,
    i.around.expr least src s = (i.onlyAfter s).around.expr least src s
  operand : ∀ {src s}, Ended s → i.around.operand src s = (i.onlyAfter s).around.operand src s
  primary : ∀ {src s}, Ended s → i.around.primary src s = (i.onlyAfter s).around.primary src s
  query : ∀ {src s}, Ended s → i.around.query src s = (i.onlyAfter s).around.query src s
  dataType : ∀ {src s}, Ended s → i.around.dataType src s = (i.onlyAfter s).around.dataType src s

theorem Onward.agree_onlyAfter (h : i.Onward) (s : ParserState) :
    i.Agree s.rest.length (i.onlyAfter s) where
  expr least := .onlyAfter (h.expr least)
  operand := .onlyAfter h.operand
  primary := .onlyAfter h.primary
  query := .onlyAfter h.query
  dataType := .onlyAfter h.dataType

theorem Onward.callsLater (h : i.Onward) : i.CallsLater where
  expr {_ s} hs least := ((h.agree_onlyAfter s).around.expr least).agree hs
    (Nat.lt_succ_self _) trivial
  operand {_ s} hs := (h.agree_onlyAfter s).around.operand.agree hs (Nat.lt_succ_self _) trivial
  primary {_ s} hs := (h.agree_onlyAfter s).around.primary.agree hs (Nat.lt_succ_self _) trivial
  query {_ s} hs := (h.agree_onlyAfter s).around.query.agree hs (Nat.lt_succ_self _) trivial
  dataType {_ s} hs := (h.agree_onlyAfter s).around.dataType.agree hs (Nat.lt_succ_self _) trivial

theorem Onward.around (h : i.Onward) : i.around.Onward := (h.agree 0).around.left

theorem nested_onward (n : Nat) : (nested n).Onward := by
  induction n with
  | zero =>
    have hnone {α : Type} : Parser.Onward (unexpected "expression" : Parser α) := inferInstance
    exact ⟨fun _ => hnone, hnone, hnone, hnone, hnone⟩
  | succ n ih => exact ih.around

theorem nested_eq_iterate (n : Nat) : nested n = Nested.around^[n] (nested 0) := by
  induction n with
  | zero => rfl
  | succ n ih => rw [nested_succ, ih, Function.iterate_succ_apply']

theorem Onward.iterate_around (h : i.Onward) (n : Nat) : (Nested.around^[n] i).Onward :=
  ((h.agree 0).iterate_around n).left

/-- Where no token may be left, there is nothing to agree on. -/
theorem Onward.agree_zero (hi : i.Onward) (hj : j.Onward) : i.Agree 0 j := by
  have hnone {α : Type} {p q : Parser α} (hp : Parser.Onward p)
      (hq : Parser.Onward q) : Same 0 p q :=
    ⟨hp, hq, fun _ hlt _ => absurd hlt (Nat.not_lt_zero _)⟩
  exact ⟨fun least => hnone (hi.expr least) (hj.expr least), hnone hi.operand hj.operand,
    hnone hi.primary hj.primary, hnone hi.query hj.query, hnone hi.dataType hj.dataType⟩

/-- Readers nested deeper than there are tokens left read a script alike, whatever they are nested
around. -/
theorem Onward.script_enough (h : i.Onward) {n : Nat} (hs : Ended s) (hn : s.rest.length < n) :
    (Nested.around^[n] i).script src s = (readersFor s).script src s := by
  obtain ⟨k, rfl⟩ := Nat.exists_eq_add_of_le hn
  rw [readersFor, nested_eq_iterate, Function.iterate_add_apply]
  exact (((h.iterate_around k).agree_zero (nested_onward 0)).iterate_around _).script.agree _ _ hs
    (Nat.lt_succ_self _)

/-! ## Loops -/

/-- Each loop that the readers go through starts its rounds at later and later tokens. -/
structure LoopsAdvance (i : Nested) : Prop where
  marked : ∀ {α : Type} (mark : Symbol) (item : Parser α), Parser.Onward item →
    Advances Parser.Onward (fun n _ => manyWithin (eat mark) item n) (manyRound (eat mark) item)
  worded : ∀ {α : Type} (word : Keyword) (item : Parser α), Parser.Onward item →
    Advances Parser.Onward (fun n _ => manyWithin (eatKeyword word) item n)
      (manyRound (eatKeyword word) item)
  brackets : ∀ {α : Type} (item : Parser α), Parser.Onward item →
    Advances Parser.Onward (fun n _ => manyWithin bracketPair item n) (manyRound bracketPair item)
  skip : Advances Parser.Onward (fun n _ => skipWithin isAtParenthesisOrEnd n) skipRound
  suffixWords : Advances Parser.Onward (fun n _ => Nested.suffixWords n) suffixRound
  pathTail : Advances Parser.Onward (fun n _ => Parser.pathTail n) pathRound
  targetTail : Advances Parser.Onward (fun n _ => Parser.targetTail n) targetRound
  deleteTargets : Advances Parser.Onward (fun n _ => Parser.deleteTargets n) deleteTargetsRound
  skipGroup : Advances Parser.Onward skipGroupWithin skipGroupRound
  tableOptions : Advances Parser.Onward (fun n _ => Parser.tableOptions n) tableOptionsRound
  structFields : Advances Parser.Onward (fun n _ => i.structFields n) i.structFieldsRound
  operators : ∀ least, Advances Parser.Onward (i.operators least) (i.operatorsRound least)
  moreTables : Advances Parser.Onward (fun n _ => i.moreTables n) i.moreTablesRound
  columnConstraints : Advances Parser.Onward i.columnConstraints i.columnConstraintsRound
  statements : Advances Forward (fun n _ => i.statements n) i.statementsRound

theorem Onward.loopsAdvance (h : i.Onward) : i.LoopsAdvance where
  marked mark _ _ := (manyWithin_driven (.eat mark)).advances
  worded word _ _ := (manyWithin_driven (.eatKeyword word)).advances
  brackets _ _ := (manyWithin_driven .bracketPair).advances
  skip := skipWithin_driven.advances
  suffixWords := suffixWords_driven.advances
  pathTail := pathTail_driven.advances
  targetTail := targetTail_driven.advances
  deleteTargets := deleteTargets_driven.advances
  skipGroup := skipGroupWithin_driven.advances
  tableOptions := tableOptions_driven.advances
  structFields := h.structFields_driven.advances
  operators least := (h.operators_driven least).advances
  moreTables := h.moreTables_driven.advances
  columnConstraints := h.columnConstraints_driven.advances
  statements := h.statements_driven.advancesAhead

end Nested

/-! ## Whole texts -/

/-- Reading a text comes to an end, and takes all of it where the text is accepted. Readers nest in
others of the same kind (`around`), never call those nested in them where they stand themselves, and
never go back; nor do the rounds of their loops. Only a statement goes back, to its own start and
once. So neither how deep readers may nest nor how often loops go round makes a difference, once
there are as many as tokens. -/
theorem parseScript_halts :
    (∀ n, nested (n + 1) = (nested n).around ∧ (nested n).Onward) ∧
    (∀ i : Nested, i.Onward →
      i.around.Onward ∧ i.CallsLater ∧ i.LoopsAdvance ∧ BacksToStart i.statement ∧
        BacksWithin i.script) ∧
    ∀ (d : Dialect) (text : String),
      (∀ (i : Nested) n, i.Onward → (startState d text).rest.length < n →
        (Nested.around^[n] i).script ⟨text, d⟩ (startState d text) =
          (readersFor (startState d text)).script ⟨text, d⟩ (startState d text)) ∧
      ∀ script refs, parseScript d text = .ok (script, refs) →
        ∃ t ts, Returns (readersFor (startState d text)).script ⟨text, d⟩ (startState d text)
          script t ∧
          t.references = refs ∧ t.current.kind = .eof ∧ t.rest = [] ∧
            Token.tokenize d text = ts ++ [t.current] := by
  refine ⟨fun n => ⟨Nested.nested_succ n, Nested.nested_onward n⟩, fun i h => ?_,
    fun d text => ⟨fun i n h hn => ?_, ?_⟩⟩
  · exact ⟨h.around, h.callsLater, h.loopsAdvance, h.statement, h.script⟩
  · exact h.script_enough (startState_ended d text) hn
  · intro script refs h
    obtain ⟨t, ht, hrefs⟩ := parseScript_eq_ok.mp h
    obtain ⟨ss, hss, -, -⟩ := script_returns.mp ht
    have heof := Nested.statements_end hss
    have hlater := (Nested.nested_onward _).script.forward _ _ _ _ ht
    have hrest := (hlater.ended (startState_ended d text)).rest_eq_nil heof
    obtain ⟨ts, hts, -⟩ := hlater
    rw [startState_tokens, hrest] at hts
    exact ⟨t, ts, ht, hrefs, heof, hrest, hts⟩

def startedOver : String := "WITH t AS (SELECT 1) SELECT * FROM t"

/-- A statement that is started over, with the readers it is read by and others that nest deeper. -/
theorem parseScript_halts_startedOver :
    ∃ script refs, parseScript .mySql startedOver = .ok (script, refs) ∧
      (nested 3).Onward ∧ (nested 3).around.Onward ∧ (nested 3).CallsLater ∧
        (nested 3).LoopsAdvance ∧
      BacksToStart (nested 3).statement ∧ BacksWithin (nested 3).script ∧
      (startState .mySql startedOver).rest.length < 12 ∧
      (Nested.around^[12] (nested 3)).script ⟨startedOver, .mySql⟩ (startState .mySql startedOver) =
        (readersFor (startState .mySql startedOver)).script ⟨startedOver, .mySql⟩
          (startState .mySql startedOver) ∧
      ∃ (t : ParserState) (ts : List Token), t.references = refs ∧ t.current.kind = .eof ∧
        t.rest = [] ∧
        Token.tokenize .mySql startedOver = ts ++ [t.current] := by
  obtain ⟨script, refs, h, -⟩ :=
    parseScript_of_toOption .mySql startedOver (fun _ _ => ()) (v := ()) (by decide +kernel)
  obtain ⟨hnested, hsteps, htext⟩ := parseScript_halts
  obtain ⟨haround, hcalls, hloops, hstatement, hscript⟩ := hsteps (nested 3) (hnested 3).2
  obtain ⟨henough, htaken⟩ := htext .mySql startedOver
  obtain ⟨t, ts, -, hend⟩ := htaken script refs h
  have hlength : (startState .mySql startedOver).rest.length < 12 := by decide +kernel
  exact ⟨script, refs, h, (hnested 3).2, haround, hcalls, hloops, hstatement, hscript, hlength,
    henough _ 12 (hnested 3).2 hlength, t, ts, hend⟩

end SqlWeave.Parser
