import SqlWeave.Proofs.Parser.ScriptNotes

/-! A SELECT with a condition added. Where the left text is a SELECT without clauses behind its FROM
list, and the right text goes on with WHERE and a condition, the right text is read as the same
SELECT with that condition, and what the condition notes is noted after what the SELECT notes. -/

namespace SqlWeave

/-- No clause comes after the FROM list. -/
structure Select.Bare (s : Select Expr) : Prop where
  condition : s.condition = none
  groupBy : s.groupBy = none
  having : s.having = none
  windows : s.windows = none
  orderBy : s.orderBy = none
  limit : s.limit = none

instance (s : Select Expr) : Decidable s.Bare :=
  decidable_of_iff (s.condition = none ∧ s.groupBy = none ∧ s.having = none ∧ s.windows = none ∧
      s.orderBy = none ∧ s.limit = none)
    ⟨fun ⟨hc, hg, hh, hw, ho, hl⟩ => ⟨hc, hg, hh, hw, ho, hl⟩,
      fun ⟨hc, hg, hh, hw, ho, hl⟩ => ⟨hc, hg, hh, hw, ho, hl⟩⟩

/-- The SELECT a condition behind the query belongs to. -/
def Query.last (q : Query Expr) : Select Expr := q.rest.getLastD q.head

theorem Query.last_append (head : Select Expr) (next : Query Expr) :
    (Query.mk head (next.head :: next.rest)).last = next.last := by
  simp only [last, List.getLastD_cons]

end SqlWeave

namespace SqlWeave.Parser

variable {α : Type} {W : Overlay} {i j : Nested} {src : Source}

/-! ## Clauses that are not there -/

/-- A clause that may be left out: nothing is taken for one that is not there, and none is there at
the end of input. -/
structure Omissible (p : Parser (Option α)) : Prop where
  absent : ∀ src s t, Returns p src s none t → t = s
  atEof : ∀ src s, s.current.kind = .eof → Returns p src s none s

theorem Omissible.pureNone : Omissible (pure none : Parser (Option α)) where
  absent := fun _ _ _ h => (Returns.pure h).2.symm
  atEof := fun _ _ _ => rfl

theorem Omissible.takeIf {check : Parser Bool} {b : TokenKind → Bool} {p q : Parser (Option α)}
    (ht : Asks check b) (he : b .eof = false) (hp : Ensures (· ≠ none) p) (hq : Omissible q) :
    Omissible (takeIf check >>= fun v => if v then p else q) where
  absent := by
    intro src s t h
    obtain ⟨v, u, hv, h⟩ := Returns.bind h
    cases hb : b s.current.kind with
    | true =>
      obtain ⟨rfl, -⟩ := (takeIf_takes ht hb).det hv
      exact absurd rfl (hp _ _ _ _ h)
    | false =>
      obtain ⟨rfl, rfl⟩ := (takeIf_stops ht hb).det hv
      exact hq.absent _ _ _ h
  atEof := by
    intro src s hs
    exact (takeIf_stops ht (by rw [hs, he])).andThen (hq.atEof src s hs)

namespace Nested

theorem condition?_omissible : Omissible i.condition? :=
  .takeIf (isAtKeyword_asks _) rfl (.bind fun _ => .pure (Option.some_ne_none _)) .pureNone

theorem groupBy?_omissible : Omissible i.groupBy? :=
  .takeIf (isAtKeyword_asks _) rfl (.bind fun _ => .bind fun _ => .pure (Option.some_ne_none _))
    .pureNone

theorem having?_omissible : Omissible i.having? :=
  .takeIf (isAtKeyword_asks _) rfl (.bind fun _ => .pure (Option.some_ne_none _)) .pureNone

theorem windows?_omissible : Omissible i.windows? :=
  .takeIf (isAtWord_asks _) rfl (.bind fun _ => .pure (Option.some_ne_none _)) .pureNone

theorem orderBy?_omissible : Omissible i.orderBy? :=
  .takeIf (isAtKeyword_asks _) rfl (.bind fun _ => .bind fun _ => .pure (Option.some_ne_none _))
    .pureNone

theorem limit?_omissible : Omissible i.limit? := by
  refine .takeIf (isAtKeyword_asks _) rfl (.bind fun _ => .pure (Option.some_ne_none _)) ?_
  refine .takeIf (isAtKeyword_asks _) rfl (.bind fun _ => .pure (Option.some_ne_none _)) ?_
  exact .takeIf (isAtKeyword_asks _) rfl (.bind fun _ => .pure (Option.some_ne_none _)) .pureNone

end Nested

theorem setOperator?_omissible : Omissible setOperator? where
  absent := by
    intro src s t h
    obtain ⟨k, u, hk, h⟩ := Returns.bind h
    obtain ⟨-, rfl⟩ := kind_returns hk
    split at h
    · exact (Returns.pure h).2.symm
    · obtain ⟨_, _, _, h⟩ := Returns.bind h
      obtain ⟨_, _, _, h⟩ := Returns.bind h
      split at h
      · cases (Returns.pure h).1
      · obtain ⟨_, _, _, h⟩ := Returns.bind h
        split at h
        · cases (Returns.pure h).1
        · cases (Returns.pure h).1
  atEof := by
    intro src s hs
    refine returns_kind.andThen ?_
    rw [hs]
    rfl

/-! ## The condition -/

/-- Behind the left text the right one goes on with WHERE and a condition that takes the rest of
it. -/
structure Conditioned (W : Overlay) (j : Nested) (added : References) : Prop where
  ending : W.ending.kind = .keyword .WHERE
  reads : ∀ t : ParserState, t.current :: t.rest = W.ending :: W.after → t.verb = "select" →
    ∃ e v, Returns (j.expr 0) W.right t.advance e v ∧ v.current.kind = .eof ∧
      v.references = t.references.append added

/-- The right reader has come to the end, and has noted what the left one has and then `added`. -/
structure Finishes (W : Overlay) (added : References) (s v : ParserState) : Prop where
  atEof : v.current.kind = .eof
  log : ∃ r, s.references = W.leftBase.append r ∧ v.references = (W.rightBase.append r).append added

variable {added : References} {s t s' : ParserState} {ts : List Token}

theorem Overlay.Linked.nil_of_eof (h : W.Linked s t ts) (hs : s.current.kind = .eof) : ts = [] := by
  cases ts with
  | nil => rfl
  | cons k ts => exact absurd hs h.kind_eq.1

theorem Conditioned.finishes (hc : Conditioned W j added) (hl : W.Linked s t [])
    (hverb : t.verb = "select") :
    ∃ e v, Returns j.condition? W.right t (some e) v ∧ Finishes W added s v := by
  obtain ⟨e, v, he, heof, hlog⟩ := hc.reads t hl.right hverb
  have htake : Returns (eatKeyword .WHERE) W.right t true t.advance :=
    takeIf_takes (isAtKeyword_asks _) (by rw [hl.kind_end.2, hc.ending]; rfl)
  refine ⟨e, v, htake.andThen (he.andThen rfl), heof, ?_⟩
  obtain ⟨r, hs, ht⟩ := hl.log
  exact ⟨r, hs, by rw [hlog, ht]⟩

namespace Nested

theorem Tracked.selectCore_conditioned (h : i.Tracked j) (hi : i.Noted True) (hv : W.sameVerb)
    (hc : Conditioned W j added) (hverb : s.verb = "select") {withs : Option (List (Cte Expr))}
    {x : Select Expr} (hl : W.Linked s t ts) (hr : Returns (i.selectCore withs) W.left s x s')
    (hbare : x.Bare) (heof : s'.current.kind = .eof) :
    ∃ y v, Returns (j.selectCore withs) W.right t y v ∧ Finishes W added s' v := by
  have hverb' : s'.verb = "select" := (hi.selectCore withs _ _ _ _ hverb hr).1
  obtain ⟨_, s₁, hselect, hr⟩ := Returns.bind hr
  obtain ⟨distinct, s₂, hdistinct, hr⟩ := Returns.bind hr
  obtain ⟨columns, s₃, hcolumns, hr⟩ := Returns.bind hr
  obtain ⟨tables, s₄, htables, hr⟩ := Returns.bind hr
  -- nothing is taken for the clauses that are not there
  obtain ⟨condition, s₅, hcondition, hr⟩ := Returns.bind hr
  obtain ⟨groupBy, s₆, hgroupBy, hr⟩ := Returns.bind hr
  obtain ⟨having, s₇, hhaving, hr⟩ := Returns.bind hr
  obtain ⟨windows, s₈, hwindows, hr⟩ := Returns.bind hr
  obtain ⟨orderBy, s₉, horderBy, hr⟩ := Returns.bind hr
  obtain ⟨limit, s₁₀, hlimit, hr⟩ := Returns.bind hr
  obtain ⟨rfl, rfl⟩ := Returns.pure hr
  obtain ⟨rfl, rfl, rfl, rfl, rfl, rfl⟩ := hbare
  obtain rfl := condition?_omissible.absent _ _ _ hcondition
  obtain rfl := groupBy?_omissible.absent _ _ _ hgroupBy
  obtain rfl := having?_omissible.absent _ _ _ hhaving
  obtain rfl := windows?_omissible.absent _ _ _ hwindows
  obtain rfl := orderBy?_omissible.absent _ _ _ horderBy
  obtain rfl := limit?_omissible.absent _ _ _ hlimit
  -- the rest is read on the right too, up to the condition
  obtain ⟨t₁, _, hselect', hl₁, _⟩ := expectKeyword_tracks _ _ _ _ trivial hl _ _ hselect
  obtain ⟨t₂, _, hdistinct', hl₂, _⟩ := selectDistinct_tracks _ _ _ trivial hl₁ _ _ hdistinct
  obtain ⟨t₃, _, hcolumns', hl₃, _⟩ := h.columns hv _ _ _ trivial hl₂ _ _ hcolumns
  obtain ⟨t₄, _, htables', hl₄, _⟩ := h.tables? hv _ _ _ trivial hl₃ _ _ htables
  obtain rfl := hl₄.nil_of_eof heof
  obtain ⟨e, v, hcondition', hfinish⟩ := hc.finishes hl₄ ((hl₄.verb hv).symm.trans hverb')
  refine ⟨{ withs, distinct, columns, tables, condition := some e }, v, ?_, hfinish⟩
  refine hselect'.andThen (hdistinct'.andThen
    (hcolumns'.andThen (htables'.andThen (hcondition'.andThen ?_))))
  refine (groupBy?_omissible.atEof _ _ hfinish.atEof).andThen ?_
  refine (having?_omissible.atEof _ _ hfinish.atEof).andThen ?_
  refine (windows?_omissible.atEof _ _ hfinish.atEof).andThen ?_
  refine (orderBy?_omissible.atEof _ _ hfinish.atEof).andThen ?_
  exact (limit?_omissible.atEof _ _ hfinish.atEof).andThen rfl

/-- What follows a set operator has a condition added; what comes before it is the same. -/
theorem Tracked.selectChain_conditioned (h : i.Tracked j) (hii : i.Tracked i) (hi : i.Noted True)
    (hv : W.sameVerb) (hc : Conditioned W j added) (hverb : s.verb = "select")
    {withs : Option (List (Cte Expr))} {q : Query Expr} (hl : W.Linked s t ts)
    (hr : Returns (i.selectChain withs) W.left s q s') (hbare : q.last.Bare)
    (heof : s'.current.kind = .eof)
    (hquery : ∀ u u' us next, W.Linked u u' us → Returns i.query W.left u next s' → next.last.Bare →
      ∃ next' v, Returns j.query W.right u' next' v ∧ Finishes W added s' v) :
    ∃ q' v, Returns (j.selectChain withs) W.right t q' v ∧ Finishes W added s' v := by
  obtain ⟨head, s₁, hcore, htail⟩ := Returns.bind hr
  obtain ⟨operator, s₂, hoperator, hrest⟩ := Returns.bind htail
  cases operator with
  | none =>
    obtain rfl := setOperator?_omissible.absent _ _ _ hoperator
    obtain ⟨rfl, rfl⟩ := Returns.pure hrest
    obtain ⟨y, v, hcore', hfinish⟩ := h.selectCore_conditioned hi hv hc hverb hl hcore hbare heof
    exact ⟨_, v, hcore'.andThen ((setOperator?_omissible.atEof _ _ hfinish.atEof).andThen rfl),
      hfinish⟩
  | some operator =>
    obtain ⟨next, s₃, hnext, hresult⟩ := Returns.bind hrest
    obtain ⟨rfl, rfl⟩ := Returns.pure hresult
    rw [Query.last_append] at hbare
    rcases h.selectCore_orEnds hii hv withs _ _ _ trivial hl _ _ hcore
      with hend | ⟨t₁, _, hcore', hl₁, _⟩
    · have hnone := setOperator?_omissible.atEof W.left s₁ hend.1
      cases (hnone.det hoperator).1
    · obtain ⟨t₂, _, hoperator', hl₂, _⟩ := setOperator?_tracks _ _ _ trivial hl₁ _ _ hoperator
      obtain ⟨next', v, hnext', hfinish⟩ := hquery _ _ _ next hl₂ hnext hbare
      exact ⟨_, v, hcore'.andThen (hoperator'.andThen (hnext'.andThen rfl)), hfinish⟩

end Nested

theorem Finishes.of_agreeing {v : ParserState} (h : Finishes W.agreeing added s v)
    (verb verb' : String) :
    Finishes W added { s with verb } { v with verb := verb' } :=
  ⟨h.atEof, h.log⟩

/-- A query to which the right text adds a condition, whatever it nests. -/
theorem nested_conditioned {n k : Nat} (hc : ∀ m, k ≤ m → Conditioned W (nested m) added) {m : Nat}
    (hm : n + k ≤ m) {q : Query Expr} (hl : W.Linked s t ts)
    (hr : Returns (nested n).query W.left s q s') (hbare : q.last.Bare)
    (heof : s'.current.kind = .eof) :
    ∃ q' v, Returns (nested m).query W.right t q' v ∧ Finishes W added s' v := by
  induction n generalizing m s t ts q s' with
  | zero => exact absurd hr not_returns_unexpected
  | succ n ih =>
    obtain ⟨m, rfl⟩ : ∃ l, m = l + 1 := ⟨m - 1, by omega⟩
    have h : (nested n).Tracked (nested m) := nested_tracked (by omega)
    have hself : (nested n).Tracked (nested n) := nested_tracked (Nat.le_refl n)
    have hi : (nested n).Noted True := nested_noted n
    have hcm : Conditioned W.agreeing (nested m) added := by
      obtain ⟨hending, hreads⟩ := hc m (by omega)
      exact ⟨hending, hreads⟩
    obtain ⟨u, hchain, rfl⟩ := withVerb_returns (p := (nested n).setChain) hr
    have hla : W.agreeing.Linked { s with verb := "select" } { t with verb := "select" } ts :=
      { hl with verb := fun _ => rfl, log := hl.log }
    have hquery (a b : ParserState) (us : List Token) (next : Query Expr)
        (hab : W.agreeing.Linked a b us) (hnext : Returns (nested n).query W.left a next u)
        (hbare : next.last.Bare) :
        ∃ next' v, Returns (nested m).query W.right b next' v ∧ Finishes W.agreeing added u v := by
      obtain ⟨next', v, hnext', hfinish⟩ := ih (m := m) (by omega) hab.of_agreeing hnext hbare heof
      exact ⟨next', v, hnext', hfinish.atEof, hfinish.log⟩
    suffices hright : ∃ q' v, Returns (nested m).setChain W.right { t with verb := "select" } q' v ∧
        Finishes W.agreeing added u v by
      obtain ⟨q', v, hchain', hfinish⟩ := hright
      exact ⟨q', _, returns_withVerb hchain', hfinish.of_agreeing _ _⟩
    obtain ⟨b, s₁, hb, hchain⟩ := Returns.bind hchain
    obtain ⟨t₁, _, hb', hl₁, _⟩ := isAtKeyword_tracks (by decide) _ _ _ trivial hla _ _ hb
    obtain ⟨-, rfl⟩ := (isAtKeyword_asks _).returns hb
    split at hchain
    · rename_i hwith
      obtain ⟨withs, s₂, hwiths, hchain⟩ := Returns.bind hchain
      rw [pure_bind] at hchain
      obtain ⟨t₂, _, hwiths', hl₂, _⟩ := h.withClause _ _ _ trivial hl₁ _ _ hwiths
      have hverb : s₂.verb = "select" := (hi.withClause "select" _ _ _ _ rfl hwiths).1
      obtain ⟨q', v, hchain', hfinish⟩ :=
        h.selectChain_conditioned hself hi trivial hcm hverb hl₂ hchain hbare heof hquery
      refine ⟨q', v, hb'.andThen ?_, hfinish⟩
      rw [if_pos hwith]
      exact hwiths'.andThen hchain'
    · rename_i hwith
      rw [pure_bind] at hchain
      obtain ⟨q', v, hchain', hfinish⟩ :=
        h.selectChain_conditioned hself hi trivial hcm rfl hl₁ hchain hbare heof hquery
      refine ⟨q', v, hb'.andThen ?_, hfinish⟩
      rw [if_neg hwith]
      exact hchain'

/-! ## Statements that are queries -/

theorem not_returns_select {p : Parser α} {f : α → Statement Expr} {q : Query Expr}
    (hf : ∀ y, (f y).verb ≠ "select") : ¬ Returns (do return f (← p)) src s (.select q) t := by
  intro hr
  obtain ⟨y, u, _, hr⟩ := Returns.bind hr
  exact hf y (congrArg Statement.verb (Returns.pure hr).1)

/-- A WITH clause is read before the query that starts with it. -/
theorem Nested.withStatement_select_iff {q : Query Expr} :
    Returns i.withStatement src s (.select q) t ↔
      ∃ withs u, Returns i.withClause src s withs u ∧ u.current.kind = .keyword .SELECT ∧
        Returns i.query src { u with previous := s.previous, current := s.current, rest := s.rest }
          q t := by
  constructor
  · intro hr
    obtain ⟨start, s₁, hstart, hr⟩ := Returns.bind hr
    cases hstart
    obtain ⟨withs, u, hwiths, hr⟩ := Returns.bind hr
    obtain ⟨kind, w, hkind, hr⟩ := Returns.bind hr
    obtain ⟨rfl, rfl⟩ := kind_returns hkind
    split at hr
    · rename_i hselect
      obtain ⟨_, w, hw, hr⟩ := Returns.bind hr
      obtain rfl := rewind_returns hw
      obtain ⟨q₁, w, hq, hr⟩ := Returns.bind hr
      obtain ⟨hq₁, rfl⟩ := Returns.pure hr
      cases hq₁
      exact ⟨withs, u, hwiths, hselect, hq⟩
    · exact absurd hr (not_returns_select fun _ => by simp [Statement.verb])
    · exact absurd hr (not_returns_select fun _ => by simp [Statement.verb])
    · exact absurd hr not_returns_unexpected
  · rintro ⟨withs, u, hwiths, hselect, hq⟩
    refine Returns.andThen (x := s) rfl (hwiths.andThen (returns_kind.andThen ?_))
    rw [hselect]
    exact (returns_rewind s).andThen (hq.andThen (returns_pure _))

theorem Nested.statement_select_iff {q : Query Expr} :
    Returns i.statement src s (.select q) t ↔
      s.current.kind = .keyword .SELECT ∧ Returns i.query src s q t ∨
        s.current.kind = .keyword .WITH ∧ Returns i.withStatement src s (.select q) t := by
  constructor
  · intro hr
    obtain ⟨kind, u, hkind, hr⟩ := Returns.bind hr
    obtain ⟨rfl, rfl⟩ := kind_returns hkind
    split at hr
    case h_1 hselect =>
      obtain ⟨q₁, u, hq, hr⟩ := Returns.bind hr
      obtain ⟨hq₁, rfl⟩ := Returns.pure hr
      cases hq₁
      exact .inl ⟨hselect, hq⟩
    case h_2 hwith => exact .inr ⟨hwith, hr⟩
    case h_10 => exact absurd hr not_returns_unexpected
    all_goals exact absurd hr (not_returns_select fun _ => by simp [Statement.verb])
  · rintro (⟨hselect, hq⟩ | ⟨hwith, hq⟩)
    · refine returns_kind.andThen ?_
      rw [hselect]
      exact hq.andThen (returns_pure _)
    · refine returns_kind.andThen ?_
      rw [hwith]
      exact hq

theorem Overlay.Linked.keyword {word : Keyword} (hl : W.Linked s t ts)
    (hs : s.current.kind = .keyword word) :
    t.current.kind = .keyword word := by
  cases ts with
  | nil => exact absurd (hl.kind_end.1.symm.trans hs) TokenKind.noConfusion
  | cons k ts => rw [hl.kind_eq.2, hs]

/-- A statement that is a query to which the right text adds a condition. -/
theorem nested_statement_conditioned {n k : Nat} (hc : ∀ m, k ≤ m → Conditioned W (nested m) added)
    {m : Nat} (hm : n + k ≤ m) {q : Query Expr} (hl : W.Linked s t ts)
    (hr : Returns (nested n).statement W.left s (.select q) s') (hbare : q.last.Bare)
    (heof : s'.current.kind = .eof) :
    ∃ q' v, Returns (nested m).statement W.right t (.select q') v ∧ Finishes W added s' v := by
  rcases Nested.statement_select_iff.mp hr with ⟨hselect, hq⟩ | ⟨hwith, hq⟩
  · obtain ⟨q', v, hq', hfinish⟩ := nested_conditioned hc hm hl hq hbare heof
    exact ⟨q', v, Nested.statement_select_iff.mpr (.inl ⟨hl.keyword hselect, hq'⟩), hfinish⟩
  · obtain ⟨withs, u, hwiths, hselect, hq⟩ := Nested.withStatement_select_iff.mp hq
    have h : (nested n).Tracked (nested m) := nested_tracked (by omega)
    obtain ⟨u', us, hwiths', hlu, _⟩ := h.withClause _ _ _ trivial hl _ _ hwiths
    obtain ⟨q', v, hq', hfinish⟩ := nested_conditioned hc hm (hl.rewind hlu) hq hbare heof
    have hstatement := Nested.withStatement_select_iff.mpr ⟨withs, u', hwiths',
      hlu.keyword hselect, hq'⟩
    exact ⟨q', v, Nested.statement_select_iff.mpr (.inr ⟨hl.keyword hwith, hstatement⟩), hfinish⟩

end SqlWeave.Parser
