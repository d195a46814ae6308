import SqlWeave.Parser.Script

/-! Runs of readers. `Returns p src s x t` says that `p` takes the reader from state `s` to state
`t` and gives `x`. A run of a composed reader splits into runs of its parts, so no other module has
to know what a reader is made of. -/

namespace SqlWeave.Parser

def Returns {α : Type} (p : Parser α) (src : Source) (s : ParserState) (x : α) (t : ParserState) :
    Prop :=
  p src s = .ok (x, t)

variable {α β : Type} {src : Source} {s t : ParserState}

theorem run_bind (p : Parser α) (f : α → Parser β) (src : Source) (s : ParserState) :
    (p >>= f) src s = match p src s with
      | .ok (x, t) => f x src t
      | .error e => .error e := by
  show (p src s >>= fun x => f x.1 src x.2) = _
  cases p src s <;> rfl

theorem Returns.bind {p : Parser α} {f : α → Parser β} {y : β} (h : Returns (p >>= f) src s y t) :
    ∃ x u, Returns p src s x u ∧ Returns (f x) src u y t := by
  unfold Returns at h
  rw [run_bind] at h
  split at h
  · exact ⟨_, _, by assumption, h⟩
  · cases h

theorem Returns.andThen {p : Parser α} {f : α → Parser β} {x : α} {y : β} {u : ParserState}
    (hp : Returns p src s x u) (hf : Returns (f x) src u y t) : Returns (p >>= f) src s y t := by
  unfold Returns at *
  rw [run_bind, hp]
  exact hf

theorem Returns.pure {x y : α} (h : Returns (Pure.pure x) src s y t) : x = y ∧ s = t := by
  cases h
  exact ⟨rfl, rfl⟩

theorem returns_pure (x : α) : Returns (Pure.pure x) src s x s := rfl

theorem Returns.det {p : Parser α} {x y : α} {u : ParserState} (h : Returns p src s x t)
    (h' : Returns p src s y u) : x = y ∧ t = u := by
  have he : (Except.ok (x, t) : Except ParseError (α × ParserState)) = .ok (y, u) := h.symm.trans h'
  cases he
  exact ⟨rfl, rfl⟩

theorem not_returns_unexpected {what : String} {x : α} : ¬ Returns (unexpected what) src s x t := by
  intro h
  cases h

theorem not_returns_outOfRounds {x : α} : ¬ Returns outOfRounds src s x t := not_returns_unexpected

theorem not_returns_throw {e : ParseError} {x : α} : ¬ Returns (throw e : Parser α) src s x t := by
  intro h
  cases h

/-! ## What the primitive readers return -/

theorem kind_returns {k : TokenKind} (h : Returns kind src s k t) : k = s.current.kind ∧ s = t := by
  cases h
  exact ⟨rfl, rfl⟩

theorem returns_kind : Returns kind src s s.current.kind s := rfl

theorem nextKind_returns {k : TokenKind} (h : Returns nextKind src s k t) :
    k = (s.rest.head?.map Token.kind).getD .eof ∧ s = t := by
  cases h
  exact ⟨rfl, rfl⟩

theorem returns_nextKind : Returns nextKind src s ((s.rest.head?.map Token.kind).getD .eof) s := rfl

theorem rounds_returns {n : Nat} (h : Returns rounds src s n t) :
    n = s.rest.length + 1 ∧ s = t := by
  cases h
  exact ⟨rfl, rfl⟩

theorem returns_rounds : Returns rounds src s (s.rest.length + 1) s := rfl

theorem currentText_returns {text : String} (h : Returns currentText src s text t) :
    text = Token.slice src.text s.current.span ∧ s = t := by
  cases h
  exact ⟨rfl, rfl⟩

theorem returns_currentText : Returns currentText src s (Token.slice src.text s.current.span) s :=
  rfl

theorem advance_returns {u : Unit} (h : Returns advance src s u t) : t = s.advance := by
  cases h
  rfl

theorem returns_advance : Returns advance src s () s.advance := rfl

theorem rewind_returns {start : ParserState} {u : Unit} (h : Returns (rewind start) src s u t) :
    t = { s with previous := start.previous, current := start.current, rest := start.rest } := by
  cases h
  rfl

theorem returns_rewind (start : ParserState) :
    Returns (rewind start) src s ()
      { s with previous := start.previous, current := start.current, rest := start.rest } := rfl

theorem eat_refuses {mark : Symbol} (h : Returns (eat mark) src s false t) :
    s.current.kind ≠ .symbol mark ∧ s = t := by
  obtain ⟨b, u, hb, h⟩ := Returns.bind h
  obtain ⟨k, v, hk, hb⟩ := Returns.bind hb
  obtain ⟨rfl, rfl⟩ := kind_returns hk
  obtain ⟨rfl, rfl⟩ := Returns.pure hb
  split at h
  · obtain ⟨_, v, -, h⟩ := Returns.bind h
    exact absurd (Returns.pure h).1 Bool.noConfusion
  · rename_i hne
    exact ⟨by simpa using hne, (Returns.pure h).2⟩

theorem withVerb_returns {p : Parser α} {verb : String} {x : α}
    (h : Returns (withVerb verb p) src s x t) :
    ∃ u, Returns p src { s with verb } x u ∧ t = { u with verb := s.verb } := by
  unfold withVerb at h
  obtain ⟨_, s₁, h₁, h⟩ := Returns.bind h
  cases h₁
  obtain ⟨_, s₂, h₂, h⟩ := Returns.bind h
  cases h₂
  obtain ⟨_, s₃, h₃, h⟩ := Returns.bind h
  obtain ⟨_, s₄, h₄, h⟩ := Returns.bind h
  cases h₄
  cases h
  exact ⟨_, h₃, rfl⟩

theorem returns_withVerb {p : Parser α} {verb : String} {x : α}
    (h : Returns p src { s with verb } x t) :
    Returns (withVerb verb p) src s x { t with verb := s.verb } := by
  unfold withVerb
  exact Returns.andThen (x := s) (u := s) rfl
    (Returns.andThen (x := ()) (u := { s with verb }) rfl
      (Returns.andThen h (Returns.andThen (x := ()) (u := { t with verb := s.verb }) rfl rfl)))

theorem written_returns {p : Parser Unit} {text : String} (h : Returns (written p) src s text t) :
    Returns p src s.advance () t ∧
      text = Token.slice src.text ⟨s.current.span.start, t.previous.span.stop⟩ := by
  unfold written at h
  obtain ⟨_, s₁, h₁, h⟩ := Returns.bind h
  cases h₁
  obtain ⟨_, s₂, h₂, h⟩ := Returns.bind h
  cases h₂
  obtain ⟨_, s₃, h₃, h⟩ := Returns.bind h
  obtain ⟨_, s₄, h₄, h⟩ := Returns.bind h
  cases h₄
  cases h
  exact ⟨h₃, rfl⟩

theorem returns_written {p : Parser Unit} (h : Returns p src s.advance () t) :
    Returns (written p) src s (Token.slice src.text ⟨s.current.span.start, t.previous.span.stop⟩)
      t := by
  unfold written
  exact Returns.andThen (x := s) (u := s) rfl
    (Returns.andThen returns_advance
      (Returns.andThen h (Returns.andThen (x := t) (u := t) rfl rfl)))

end SqlWeave.Parser
