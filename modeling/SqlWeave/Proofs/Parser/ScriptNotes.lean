import SqlWeave.Proofs.Parser.StatementNotes
import SqlWeave.Proofs.Parser.TextOverlay

/-! What is noted for a whole text. A WITH clause before SELECT is read twice, and what it notes
then is the same both times. -/

namespace SqlWeave.Parser

open HasParts (parts)

variable {α : Type} {p q : Parser α} {src : Source} {s t s' : ParserState}

/-- The end of input comes last, and only last. -/
def Ended (s : ParserState) : Prop :=
  ∃ ts finish, s.current :: s.rest = ts ++ [finish] ∧ finish.kind = .eof ∧ ∀ k ∈ ts, k.kind ≠ .eof

theorem startState_ended (d : Dialect) (text : String) : Ended (startState d text) := by
  refine ⟨tokensOf d text, endOf text, ?_, rfl, fun k hk => ((tokenize_split d text).2 k hk).1⟩
  rw [startState_tokens, (tokenize_split d text).1]

theorem exists_bound (ts : List Token) : ∃ n, ∀ k ∈ ts, k.span.stop ≤ n := by
  induction ts with
  | nil => exact ⟨0, by simp⟩
  | cons k ts ih =>
    obtain ⟨n, hn⟩ := ih
    refine ⟨max k.span.stop n, fun j hj => ?_⟩
    rcases List.mem_cons.mp hj with rfl | hj
    · exact Nat.le_max_left _ _
    · exact Nat.le_trans (hn j hj) (Nat.le_max_right _ _)

/-- What is read before the same tokens is the same, whatever has been noted before. -/
theorem TracksOn.again (h : ∀ W : Overlay, W.ending.kind = .eof → Tracks W p q) (hs : Ended s)
    (ht : t.current :: t.rest = s.current :: s.rest) {x : α} (hr : Returns p src s x s') :
    Ended s' ∧ ∃ t', Returns q src t x t' ∧ t'.current :: t'.rest = s'.current :: s'.rest := by
  obtain ⟨ts, finish, htokens, heof, hts⟩ := hs
  obtain ⟨n, hn⟩ := exists_bound ts
  have hl := Overlay.itself_linked src heof n htokens (ht.trans htokens)
    (fun k hk => ⟨hts k hk, hn k hk⟩) False.elim
  obtain ⟨t', ts', hq, hl', hsuf⟩ := h _ heof ts s t trivial hl x s' hr
  refine ⟨⟨ts', finish, hl'.left, heof, fun k hk => hts k (hsuf.mem hk)⟩, t', hq, ?_⟩
  rw [hl'.left, hl'.right, Overlay.itself, Token.map_shift_zero]

/-! ## WITH read twice -/

theorem Nested.selectChain_withs {i : Nested} (withs : Option (List (Cte Expr))) :
    Ensures (·.head.withs = withs) (i.selectChain withs) := by
  have hcore : Ensures (·.withs = withs) (i.selectCore withs) := by
    refine .bind fun _ => .bind fun _ => .bind fun _ => .bind fun _ => .bind fun _ =>
      .bind fun _ => ?_
    exact .bind fun _ => .bind fun _ => .bind fun _ => .bind fun _ => .pure rfl
  refine .andThen hcore fun head hhead => .bind fun operator => ?_
  cases operator with
  | none => exact .pure hhead
  | some operator => exact .bind fun _ => .pure hhead

theorem Nested.withClause_starts {i : Nested} {withs : List (Cte Expr)}
    (h : Returns i.withClause src s withs t) : s.current.kind = .keyword .WITH := by
  obtain ⟨_, u, hexpect, _⟩ := Returns.bind h
  obtain ⟨b, v, hb, hexpect⟩ := Returns.bind hexpect
  obtain ⟨c, w, hc, hb⟩ := Returns.bind hb
  obtain ⟨rfl, rfl⟩ := (isAtKeyword_asks _).returns hc
  by_cases hk : s.current.kind = .keyword .WITH
  · exact hk
  · rw [if_neg (by simpa using hk)] at hb
    obtain ⟨rfl, rfl⟩ := Returns.pure hb
    exact absurd hexpect not_returns_unexpected

/-- The query has the clause that was read before it. -/
theorem nested_withs {n : Nat} {withs : List (Cte Expr)} {query : Query Expr} (hs : Ended s)
    (hw : Returns (nested (n + 1)).withClause src s withs t) {t' : ParserState}
    (hq : Returns (nested (n + 1)).query src s' query t')
    (hs' : s'.current = s.current ∧ s'.rest = s.rest) : query.head.withs = some withs := by
  obtain ⟨u, hchain, -⟩ := withVerb_returns (p := (nested n).setChain) hq
  obtain ⟨b, v, hb, hchain⟩ := Returns.bind hchain
  obtain ⟨rfl, rfl⟩ := (isAtKeyword_asks _).returns hb
  have hkind : s'.current.kind = .keyword .WITH := by
    rw [hs'.1]
    exact Nested.withClause_starts hw
  rw [if_pos (by simp [hkind])] at hchain
  obtain ⟨again, v, hagain, hchain⟩ := Returns.bind hchain
  rw [pure_bind] at hchain
  have htokens : s.current :: s.rest = s'.current :: s'.rest := by rw [hs'.1, hs'.2]
  obtain ⟨_, t₁, ht₁, _⟩ := TracksOn.again (t := s)
    (fun W _ => (nested_tracked (Nat.le_succ n)).withClause (W := W))
      (s := { s' with verb := "select" })
    (by rw [Ended, ← htokens]; exact hs) htokens hagain
  obtain ⟨rfl, _⟩ := ht₁.det hw
  exact Nested.selectChain_withs _ _ _ _ _ hchain

/-! ## Statements -/

/-- What statements name is all among what is noted, and nothing else is but columns, unless a
CREATE is among the statements. -/
structure Covered (ss : List (Statement Expr)) (noted : Reference → Prop) : Prop where
  complete : ∀ x ∈ ss, ∀ r, x.Names r → noted r
  sound : (∀ x ∈ ss, x.isCreate = false) → ∀ r, r.isColumn = false → noted r → ∃ x ∈ ss, x.Names r

theorem Covered.nil : Covered [] fun _ => False := ⟨by simp, by simp⟩

theorem Covered.cons {x : Statement Expr} {ss : List (Statement Expr)} {new more : Reference → Prop}
    (hx : Covered [x] new) (hss : Covered ss more) : Covered (x :: ss) fun r => new r ∨ more r where
  complete := by
    intro y hy r hr
    rcases List.mem_cons.mp hy with rfl | hy
    · exact .inl (hx.complete y List.mem_cons_self r hr)
    · exact .inr (hss.complete y hy r hr)
  sound := by
    rintro hcreate r hkind (hr | hr)
    · obtain ⟨y, hy, hr⟩ := hx.sound (by simpa using hcreate x) r hkind hr
      exact ⟨y, by simp [List.mem_singleton.mp hy], hr⟩
    · obtain ⟨y, hy, hr⟩ := hss.sound (fun y hy => hcreate y (List.mem_cons_of_mem _ hy)) r hkind hr
      exact ⟨y, List.mem_cons_of_mem _ hy, hr⟩

/-- What a reader adds is what the statement made from its result names. -/
theorem Adds.covered {exact : Prop} {k : α → Reference → Prop} {f : α → Statement Expr}
    (h : Adds exact (fun _ => False) p k) (hk : ∀ y r, (f y).Names r ↔ k y r)
    (hexact : ∀ y, (f y).isCreate = false → exact) {x : Statement Expr}
    (hr : Returns (do return f (← p)) src s x t) : ∃ new, Grows s t new ∧ Covered [x] new := by
  obtain ⟨y, u, hy, hr⟩ := Returns.bind hr
  obtain ⟨rfl, rfl⟩ := Returns.pure hr
  obtain ⟨new, hnew, hcover, hsound⟩ := h src s y u hy
  refine ⟨new, hnew, ?_, ?_⟩
  · intro x hx r hr
    obtain rfl := List.mem_singleton.mp hx
    exact (hcover r ((hk y r).mp hr)).resolve_left id
  · intro hcreate r hkind hr
    refine ⟨f y, List.mem_cons_self, (hk y r).mpr (hsound ?_ r hkind (.inr hr))⟩
    exact hexact y (hcreate _ List.mem_cons_self)

/-- Without a WITH clause there is nothing before the statement. -/
theorem Adds.of_none {exact : Prop} {verb : String} {k : α → Reference → Prop}
    (h : Adds exact (Part.Named verb (parts (none : Option (List (Cte Expr))))) p k) :
    Adds exact (fun _ => False) p k := by
  have hnone : Part.Named verb (parts (none : Option (List (Cte Expr)))) = fun _ => False := by
    funext r
    simp
  rwa [hnone] at h

theorem query_adds {i : Nested} (h : i.Noted True) :
    Adds True (fun _ => False) i.query fun q => (Statement.select q).Names :=
  NotesAs.adds fun verb => (h.query verb).congr (fun _ => .rfl) fun q r => by
    simp [Statement.Names, Statement.parts, Expr.names_query]

/-- A reader of a statement after its WITH clause. -/
theorem withClause_covered {i : Nested} (h : i.Noted True) (verb : String)
    {body : Option (List (Cte Expr)) → Parser α} {k : α → Reference → Prop} {f : α → Statement Expr}
    (hbody : ∀ withs, Adds True (Part.Named verb (parts withs)) (body withs) k)
    (hk : ∀ y r, (f y).Names r ↔ k y r) {withs : List (Cte Expr)} {u : ParserState}
    {x : Statement Expr} (hwiths : Returns i.withClause src s withs u)
    (hr : Returns (do return f (← body (some withs))) src u x t) :
    ∃ new, Grows s t new ∧ Covered [x] new := by
  have hadds : Adds True (fun _ => False) (i.withClause >>= fun withs => body (some withs)) k := by
    refine Adds.andThen (NotesAs.adds fun _ => h.withClause verb) fun withs => ?_
    rw [← parts_some]
    exact hbody (some withs)
  obtain ⟨y, v, hy, hr⟩ := Returns.bind hr
  exact hadds.covered hk (fun _ _ => trivial) ((hwiths.andThen hy).andThen hr)

theorem nested_withStatement {n : Nat} {x : Statement Expr} (hs : Ended s)
    (hr : Returns (nested n).withStatement src s x t) :
    ∃ new, Grows s t new ∧ Covered [x] new := by
  have h : (nested n).Noted True := nested_noted n
  obtain ⟨start, s₁, hstart, hr⟩ := Returns.bind hr
  cases hstart
  obtain ⟨withs, u, hwiths, hr⟩ := Returns.bind hr
  obtain ⟨k, u', hk, hr⟩ := Returns.bind hr
  obtain ⟨-, rfl⟩ := kind_returns hk
  split at hr
  · obtain ⟨_, v, hv, hr⟩ := Returns.bind hr
    obtain rfl := rewind_returns hv
    obtain ⟨query, w, hquery, hx⟩ := Returns.bind hr
    obtain ⟨new, hnew, -, hsound⟩ := h.withClause "select" _ _ _ _ rfl hwiths |>.2
    obtain ⟨more, hmore, hcovered⟩ :=
      (query_adds h).covered (fun _ _ => .rfl) (fun _ _ => trivial) hr
    refine ⟨_, hnew.trans hmore, ?_, ?_⟩
    · intro y hy r hnamed
      exact .inr (hcovered.complete y hy r hnamed)
    · rintro hcreate r hkind (hmem | hmem)
      · -- the clause is part of the query that is read after it
        obtain ⟨rfl, rfl⟩ := Returns.pure hx
        refine ⟨_, List.mem_cons_self, ?_⟩
        cases n with
        | zero => exact absurd hquery not_returns_unexpected
        | succ n =>
          have hhead := nested_withs hs hwiths hquery ⟨rfl, rfl⟩
          have hnamed := hsound trivial r hkind (.inr hmem)
          have hwith : (Expr.query query).Names "select" r := by
            rw [Expr.names_query, parts_select, hhead, parts_some]
            exact Part.named_append.mpr (.inl (by simp [hnamed]))
          exact ⟨_, List.mem_singleton_self _, hwith⟩
      · exact hcovered.sound hcreate r hkind hmem
  · exact withClause_covered h "update" h.update (fun _ _ => .rfl) hwiths hr
  · exact withClause_covered h "delete" h.delete (fun _ _ => .rfl) hwiths hr
  · exact absurd hr not_returns_unexpected

theorem nested_statement {n : Nat} {x : Statement Expr} (hs : Ended s)
    (hr : Returns (nested n).statement src s x t) :
    Ended t ∧ ∃ new, Grows s t new ∧ Covered [x] new := by
  have h : (nested n).Noted True := nested_noted n
  refine ⟨(TracksOn.again (q := (nested n).statement) (fun W hw => ?_) hs rfl hr).1, ?_⟩
  · refine (nested_tracked (Nat.le_refl n)).statement ?_
    rw [hw]
    exact TokenKind.noConfusion
  obtain ⟨k, u, hk, hr⟩ := Returns.bind hr
  obtain ⟨-, rfl⟩ := kind_returns hk
  split at hr
  · exact (query_adds h).covered (fun _ _ => .rfl) (fun _ _ => trivial) hr
  · exact nested_withStatement hs hr
  · exact (h.insert "insert").covered (fun _ _ => .rfl) (fun _ _ => trivial) hr
  · exact (h.insert "replace").covered (fun _ _ => .rfl) (fun _ _ => trivial) hr
  · exact (h.update none).of_none.covered (fun _ _ => .rfl) (fun _ _ => trivial) hr
  · exact (h.delete none).of_none.covered (fun _ _ => .rfl) (fun _ _ => trivial) hr
  · exact (nested_noted n).create.covered (fun _ _ => .rfl) (fun _ hf => Bool.noConfusion hf) hr
  · exact Nested.drop_adds.covered (fun _ _ => .rfl) (fun _ _ => trivial) hr
  · exact Nested.showTarget_adds.covered (by simp [Statement.Names, Statement.parts])
      (fun _ _ => trivial) hr
  · exact absurd hr not_returns_unexpected

theorem semicolons_ended (hs : Ended s) (hr : Returns semicolons src s () t) : Ended t :=
  (TracksOn.again (fun _ hw => Nested.semicolons_tracks hw) hs rfl hr).1

theorem nested_statements {n m : Nat} {ss : List (Statement Expr)} (hs : Ended s)
    (hr : Returns ((nested n).statements m) src s ss t) :
    ∃ new, Grows s t new ∧ Covered ss new := by
  induction m generalizing s ss with
  | zero => exact absurd hr not_returns_outOfRounds
  | succ m ih =>
    obtain ⟨_, u, hsemi, hr⟩ := Returns.bind hr
    have hsame : Grows s u _ := .same (semicolons_quiet src s _ u hsemi).2
    have hu := semicolons_ended hs hsemi
    obtain ⟨k, u', hk, hr⟩ := Returns.bind hr
    obtain ⟨-, rfl⟩ := kind_returns hk
    split at hr
    · obtain ⟨rfl, rfl⟩ := Returns.pure hr
      exact ⟨_, hsame, .nil⟩
    · obtain ⟨x, v, hx, hr⟩ := Returns.bind hr
      obtain ⟨hv, new, hnew, hcovered⟩ := nested_statement hu hx
      obtain ⟨b, v', hb, hr⟩ := Returns.bind hr
      obtain ⟨-, rfl⟩ := Nested.isAtStatementEnd_asks.returns hb
      split at hr
      · obtain ⟨ss', w, hss, hr⟩ := Returns.bind hr
        obtain ⟨rfl, rfl⟩ := Returns.pure hr
        obtain ⟨more, hmore, hcovered'⟩ := ih hv hss
        refine ⟨_, fun r => ?_, hcovered.cons hcovered'⟩
        rw [(hnew.trans hmore) r, hsame r, or_false]
      · exact absurd hr not_returns_unexpected

/-- What is noted for a text covers what its statements name. -/
theorem parseScript_covered {d : Dialect} {text : String} {script : Script Expr} {r : References}
    (h : parseScript d text = .ok (script, r)) : Covered script.statements r.Has := by
  obtain ⟨-, t, ht, rfl⟩ := parseScript_statements h
  obtain ⟨new, hnew, hcovered⟩ := nested_statements (startState_ended d text) ht
  have hall : t.references.Has = new := by
    funext x
    refine propext ((hnew x).trans (or_iff_right ?_))
    rw [startState_references]
    cases x <;> exact List.not_mem_nil
  rwa [hall]

end SqlWeave.Parser
