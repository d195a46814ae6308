import SqlWeave.Proofs.Parser.StatementTracks

/-! Statements one after the other. Where the right text goes on after a semicolon, the statements
of the left text come first and then those after the semicolon. -/

namespace SqlWeave.Parser

variable {W : Overlay} {i j : Nested} {src : Source}

theorem takeIf_stops {check : Parser Bool} {b : TokenKind → Bool} (ht : Asks check b)
    {s : ParserState} (hs : b s.current.kind = false) : Returns (takeIf check) src s false s := by
  refine Returns.andThen (ht src s) ?_
  rw [hs]
  rfl

theorem takeIf_takes {check : Parser Bool} {b : TokenKind → Bool} (ht : Asks check b)
    {s : ParserState} (hs : b s.current.kind = true) :
    Returns (takeIf check) src s true s.advance := by
  refine Returns.andThen (ht src s) ?_
  rw [hs]
  rfl

theorem many_stops {α : Type} {check : Parser Bool} {b : TokenKind → Bool} {item : Parser α}
    (ht : Asks check b) {s : ParserState} (hs : b s.current.kind = false) :
    Returns (many (takeIf check) item) src s [] s :=
  returns_rounds.andThen ((takeIf_stops ht hs).andThen rfl)

theorem semicolons_stops {s : ParserState} (hs : s.current.kind ≠ .symbol .semicolon) :
    Returns semicolons src s () s :=
  (many_stops (isAt_asks .semicolon) (beq_eq_false_iff_ne.mpr hs)).andThen rfl

theorem semicolons_step {s : ParserState} (hs : s.current.kind = .symbol .semicolon)
    (hrest : s.rest ≠ []) :
    semicolons src s = semicolons src s.advance := by
  obtain ⟨k, ks, hks⟩ := List.exists_cons_of_ne_nil hrest
  have hlen : s.rest.length = s.advance.rest.length + 1 := by
    simp [ParserState.advance, hks]
  have htake : eat .semicolon src s = .ok (true, s.advance) :=
    takeIf_takes (isAt_asks .semicolon) (by rw [hs]; rfl)
  have hmany : many (eat .semicolon) (pure ()) src s =
      (many (eat .semicolon) (pure ()) src s.advance).map fun r => (() :: r.1, r.2) := by
    show manyWithin (eat .semicolon) (pure ()) (s.rest.length + 1) src s =
      (manyWithin (eat .semicolon) (pure ()) (s.advance.rest.length + 1) src s.advance).map _
    rw [hlen, manyWithin, run_bind, htake]
    show (pure () >>= fun x => do return x :: (← manyWithin (eat .semicolon) (pure ()) _))
        src s.advance = _
    rw [pure_bind, run_bind]
    cases manyWithin (eat .semicolon) (pure ()) (s.advance.rest.length + 1) src s.advance <;> rfl
  unfold semicolons
  rw [run_bind, run_bind, hmany]
  cases many (eat .semicolon) (pure ()) src s.advance <;> rfl

namespace Nested

/-- Semicolons before a statement do not count. -/
theorem statements_semicolon (n : Nat) {s t : ParserState} {ss : List (Statement Expr)}
    (hs : s.current.kind = .symbol .semicolon) (hrest : s.rest ≠ []) :
    Returns (i.statements n) src s ss t ↔ Returns (i.statements n) src s.advance ss t := by
  cases n with
  | zero =>
    exact ⟨fun h => absurd h not_returns_outOfRounds, fun h => absurd h not_returns_outOfRounds⟩
  | succ n =>
    unfold Returns Nested.statements
    rw [run_bind, run_bind, semicolons_step hs hrest]

theorem isAtStatementEnd_asks :
    Asks isAtStatementEnd fun k => k == .symbol .semicolon || k == .eof := fun _ _ => rfl

/-- One statement and those after it. -/
theorem statements_cons {n : Nat} {s u t : ParserState} {x : Statement Expr}
    {ss : List (Statement Expr)} (hsemi : s.current.kind ≠ .symbol .semicolon)
    (heof : s.current.kind ≠ .eof) (hx : Returns i.statement src s x u)
    (hend : u.current.kind = .symbol .semicolon ∨ u.current.kind = .eof)
    (hss : Returns (i.statements n) src u ss t) :
    Returns (i.statements (n + 1)) src s (x :: ss) t := by
  refine (semicolons_stops hsemi).andThen (returns_kind.andThen ?_)
  rw [if_neg (by simpa using heof)]
  refine hx.andThen ((isAtStatementEnd_asks.returned src u).andThen ?_)
  rw [if_pos (by simpa using hend)]
  exact hss.andThen rfl

theorem statements_inv {n : Nat} {s t : ParserState} {ss : List (Statement Expr)}
    (hsemi : s.current.kind ≠ .symbol .semicolon) (h : Returns (i.statements (n + 1)) src s ss t) :
    (s.current.kind = .eof ∧ ss = [] ∧ t = s) ∨
      s.current.kind ≠ .eof ∧ ∃ x u ss', ss = x :: ss' ∧ Returns i.statement src s x u ∧
        (u.current.kind = .symbol .semicolon ∨ u.current.kind = .eof) ∧
        Returns (i.statements n) src u ss' t := by
  obtain ⟨_, u, hu, h⟩ := Returns.bind h
  obtain ⟨_, rfl⟩ := (semicolons_stops hsemi).det hu
  obtain ⟨k, u, hk, h⟩ := Returns.bind h
  obtain ⟨rfl, rfl⟩ := kind_returns hk
  split at h
  · rename_i heof
    obtain ⟨rfl, rfl⟩ := Returns.pure h
    exact .inl ⟨by simpa using heof, rfl, rfl⟩
  · rename_i heof
    obtain ⟨x, u, hx, h⟩ := Returns.bind h
    obtain ⟨v, u', hv, h⟩ := Returns.bind h
    obtain ⟨rfl, rfl⟩ := isAtStatementEnd_asks.returns hv
    split at h
    · rename_i hend
      obtain ⟨ss', u', hss, h⟩ := Returns.bind h
      obtain ⟨rfl, rfl⟩ := Returns.pure h
      exact .inr ⟨by simpa using heof, x, u, ss', rfl, hx, by simpa using hend, hss⟩
    · exact absurd h not_returns_unexpected

theorem statements_mono {n m : Nat} (hnm : n ≤ m) {s t : ParserState} {ss : List (Statement Expr)}
    (h : Returns (i.statements n) src s ss t) : Returns (i.statements m) src s ss t := by
  induction n generalizing m s t ss with
  | zero => exact absurd h not_returns_outOfRounds
  | succ n ih =>
    obtain ⟨m, rfl⟩ : ∃ k, m = k + 1 := ⟨m - 1, by omega⟩
    obtain ⟨_, u, hu, h⟩ := Returns.bind h
    obtain ⟨k, u', hk, h⟩ := Returns.bind h
    refine hu.andThen (hk.andThen ?_)
    split at h
    · rename_i heof
      rwa [if_pos heof]
    · rename_i heof
      obtain ⟨x, u, hx, h⟩ := Returns.bind h
      obtain ⟨v, u', hv, h⟩ := Returns.bind h
      rw [if_neg heof]
      refine hx.andThen (hv.andThen ?_)
      split at h
      · rename_i hend
        obtain ⟨ss', u', hss, h⟩ := Returns.bind h
        rw [if_pos hend]
        exact (ih (by omega) hss).andThen h
      · exact absurd h not_returns_unexpected

/-- The statements of the left text and those after the semicolon that follows it on the right. -/
theorem Tracked.statements_joined (h : i.Tracked j) (hw : W.ending.kind = .symbol .semicolon)
    (hafter : W.after ≠ []) {n : Nat} {ts : List Token} {s t s' : ParserState}
    {ss : List (Statement Expr)} (hl : W.Linked s t ts)
    (hr : Returns (i.statements n) W.left s ss s') :
    ∃ t', W.Linked s' t' [] ∧ ∀ m ss' t'', Returns (j.statements m) W.right t'.advance ss' t'' →
      Returns (j.statements (n + m)) W.right t (ss ++ ss') t'' := by
  have hwhere : W.ending.kind ≠ .keyword .WHERE := by
    rw [hw]
    exact TokenKind.noConfusion
  induction n generalizing ts s t ss with
  | zero => exact absurd hr not_returns_outOfRounds
  | succ n ih =>
    induction ts generalizing s t with
    | nil =>
      have hsemi : s.current.kind ≠ .symbol .semicolon := by
        rw [hl.kind_end.1]
        exact TokenKind.noConfusion
      rcases statements_inv hsemi hr with ⟨_, rfl, rfl⟩ | ⟨heof, _⟩
      · refine ⟨t, hl, fun m ss' t'' hss' => statements_mono (n := m) (by omega) ?_⟩
        refine (statements_semicolon m ?_ ?_).mpr hss'
        · rw [hl.kind_end.2, hw]
        · rw [hl.right_end.2]
          exact hafter
      · exact absurd hl.kind_end.1 heof
    | cons k ts ihts =>
      by_cases hsemi : s.current.kind = .symbol .semicolon
      · -- a semicolon is passed over on both sides
        have hsrest : s.rest ≠ [] := by
          rw [hl.left_inside.2]
          simp
        have htrest : t.rest ≠ [] := by
          rw [hl.right_inside.2]
          simp
        obtain ⟨t', hl', hjoin⟩ :=
          ihts hl.advance.of_placed ((statements_semicolon _ hsemi hsrest).mp hr)
        refine ⟨t', hl', fun m ss' t'' hss' => (statements_semicolon _ ?_ htrest).mpr
          (hjoin m ss' t'' hss')⟩
        rw [hl.kind_eq.2, hsemi]
      · rcases statements_inv hsemi hr with ⟨heof, _⟩ | ⟨heof, x, u, ss₁, rfl, hx, hend, hss⟩
        · exact absurd heof hl.kind_eq.1
        · obtain ⟨u', us, hx', hlu, _⟩ := h.statement hwhere _ s t trivial hl x u hx
          obtain ⟨t', hl', hjoin⟩ := ih hlu hss
          refine ⟨t', hl', fun m ss' t'' hss' => ?_⟩
          have hend' : u'.current.kind = .symbol .semicolon ∨ u'.current.kind = .eof := by
            cases us with
            | nil => exact .inl (hlu.kind_end.2.trans hw)
            | cons k us =>
              rw [hlu.kind_eq.2]
              exact hend
          rw [Nat.succ_add]
          refine statements_cons ?_ ?_ hx' hend' (hjoin m ss' t'' hss')
          · rwa [hl.kind_eq.2]
          · rwa [hl.kind_eq.2]

theorem semicolons_tracks (hw : W.ending.kind = .eof) : Tracks W semicolons semicolons := by
  refine .bind (many_tracks ?_ (.pure ())) fun _ => .pure _
  exact takeIf_tracks (isAt_asks .semicolon) rfl (by rw [hw]; rfl)

/-- Where both texts end together, so do their statements. -/
theorem Tracked.statements (h : i.Tracked j) (hw : W.ending.kind = .eof) {n m : Nat} (hnm : n ≤ m) :
    Tracks W (i.statements n) (j.statements m) := by
  have hwhere : W.ending.kind ≠ .keyword .WHERE := by
    rw [hw]
    exact TokenKind.noConfusion
  induction n generalizing m with
  | zero => exact .outOfRounds
  | succ n ih =>
    obtain ⟨m, rfl⟩ : ∃ k, m = k + 1 := ⟨m - 1, by omega⟩
    refine .bind (semicolons_tracks hw) fun _ => .look (fun k => .ite (.pure _) ?_) ?_
    · refine .bind (h.statement hwhere).on fun _ =>
        .split (.whenInside isAtStatementEnd_asks fun _ => ?_)
        (.whenAtEnd isAtStatementEnd_asks ?_)
      · exact .ite (.bind (ih (by omega)).on fun _ => .pure _) .unexpected
      · rw [hw]
        exact .bind (ih (by omega)).on fun _ => .pure _
    · rw [hw]
      exact .pure _

end Nested

end SqlWeave.Parser
