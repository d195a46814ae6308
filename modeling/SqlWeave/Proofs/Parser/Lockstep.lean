import SqlWeave.Proofs.Parser.Makes
import SqlWeave.Proofs.Parser.TextOverlay

/-! Readers of two texts in lockstep. The tokens of the texts correspond one by one, in kind and in
the text under them. Then a reader returns the same on both sides and goes on in lockstep, or fails
on both with the same fault at corresponding tokens. -/

namespace SqlWeave.Parser

/-- Two texts whose tokens correspond: `move` takes those of the left text to those of the right. -/
structure Correspondence (K : TokenKind → Prop) where
  left : Source
  right : Source
  move : Token → Token
  kind_move : ∀ a, (move a).kind = a.kind
  kinds : ∀ a ∈ Token.tokenize left.dialect left.text, K a.kind
  /-- From one token to another there is the same text on both sides. -/
  slices : ∀ a ∈ Token.tokenize left.dialect left.text, ∀ b ∈ Token.tokenize left.dialect left.text,
    a.kind ≠ .eof → b.kind ≠ .eof →
      Token.slice right.text ⟨(move a).span.start, (move b).span.stop⟩ =
      Token.slice left.text ⟨a.span.start, b.span.stop⟩
  /-- From the end of input on there is no text. -/
  ends : ∀ a ∈ Token.tokenize left.dialect left.text, a.kind = .eof → ∀ stop stop',
    Token.slice right.text ⟨(move a).span.start, stop'⟩ = Token.slice left.text ⟨a.span.start, stop⟩
  /-- The dialects differ at most in a clause that is not there. -/
  returning : left.dialect.supportsReturning = right.dialect.supportsReturning ∨
    ∀ a ∈ Token.tokenize left.dialect left.text, a.kind ≠ .keyword .RETURNING

namespace Correspondence

variable {K : TokenKind → Prop}

/-- The tokens of the left text. -/
def has (W : Correspondence K) (a : Token) : Prop := a ∈ Token.tokenize W.left.dialect W.left.text

/-- The readers stand at corresponding tokens and have noted the same. -/
structure Linked (W : Correspondence K) (s t : ParserState) : Prop where
  current : W.has s.current ∧ t.current = W.move s.current
  rest : (∀ a ∈ s.rest, W.has a) ∧ t.rest = s.rest.map W.move
  suffix : s.current :: s.rest <:+ Token.tokenize W.left.dialect W.left.text
  previous : s.previous.kind ≠ .eof → W.has s.previous ∧ t.previous = W.move s.previous
  references : t.references = s.references
  verb : t.verb = s.verb

/-- The same result, or the same fault at corresponding tokens. -/
inductive Alike (W : Correspondence K) {α : Type} (post : α → Prop) :
    Except ParseError (α × ParserState) → Except ParseError (α × ParserState) → Prop
  | ok {x : α} {s t : ParserState} (h : post x) (hl : W.Linked s t) :
      Alike W post (.ok (x, s)) (.ok (x, t))
  | error {fault : ParseFault} {a : Token} (ha : W.has a) :
      Alike W post (.error ⟨fault, a.span⟩) (.error ⟨fault, (W.move a).span⟩)

variable {W : Correspondence K} {s t : ParserState}

theorem Linked.kind_eq (h : W.Linked s t) : t.current.kind = s.current.kind := by
  rw [h.current.2, W.kind_move]

theorem Linked.onText (h : W.Linked s t) : OnText K W.left s :=
  ⟨W.kinds, h.current.1, h.rest.1, h.suffix, fun hne => (h.previous hne).1⟩

theorem Linked.nextKind_eq (h : W.Linked s t) :
    (t.rest.head?.map Token.kind).getD .eof = (s.rest.head?.map Token.kind).getD .eof := by
  rw [h.rest.2]
  cases s.rest with
  | nil => rfl
  | cons a as => exact W.kind_move a

theorem Linked.rounds_eq (h : W.Linked s t) : t.rest.length + 1 = s.rest.length + 1 := by
  rw [h.rest.2, List.length_map]

theorem Linked.advance (h : W.Linked s t) : W.Linked s.advance t.advance := by
  have hnow : s.current.kind ≠ .eof → W.has s.current ∧ t.current = W.move s.current :=
    fun _ => h.current
  have hrest := h.rest
  have hsuffix := h.suffix
  unfold ParserState.advance
  cases hs : s.rest with
  | nil =>
    rw [hs] at hrest hsuffix
    rw [hrest.2]
    exact ⟨h.current, ⟨hrest.1, rfl⟩, hsuffix, hnow, h.references, h.verb⟩
  | cons a as =>
    rw [hs] at hrest hsuffix
    rw [hrest.2]
    obtain ⟨ha, has⟩ := List.forall_mem_cons.mp hrest.1
    exact ⟨⟨ha, rfl⟩, ⟨has, rfl⟩, (List.suffix_cons _ _).trans hsuffix, hnow, h.references, h.verb⟩

theorem Linked.noting (h : W.Linked s t) (change : String → References → References) :
    W.Linked { s with references := change s.verb s.references }
      { t with references := change t.verb t.references } :=
  { h with references := by rw [h.verb, h.references] }

theorem Linked.withVerb (h : W.Linked s t) (verb : String) :
    W.Linked { s with verb } { t with verb } :=
  { h with verb := rfl }

/-- Both go back to where they stood, with what they noted since. -/
theorem Linked.rewind {u v : ParserState} (h : W.Linked s t) (hu : W.Linked u v) :
    W.Linked { u with previous := s.previous, current := s.current, rest := s.rest }
      { v with previous := t.previous, current := t.current, rest := t.rest } :=
  { h with references := hu.references, verb := hu.verb }

/-- The text from the current token on to the token that another pair of readers has taken last. -/
theorem Linked.slice_eq {u v : ParserState} (h : W.Linked s t) (hu : W.Linked u v)
    (hsteady : s.current.kind ≠ .eof → u.previous.kind ≠ .eof) :
    Token.slice W.right.text ⟨t.current.span.start, v.previous.span.stop⟩ =
      Token.slice W.left.text ⟨s.current.span.start, u.previous.span.stop⟩ := by
  rw [h.current.2]
  by_cases hend : s.current.kind = .eof
  · exact W.ends _ h.current.1 hend _ _
  · have hprevious := hu.previous (hsteady hend)
    rw [hprevious.2]
    exact W.slices _ h.current.1 _ hprevious.1 hend (hsteady hend)

theorem Linked.currentText_eq (h : W.Linked s t) :
    Token.slice W.right.text t.current.span = Token.slice W.left.text s.current.span := by
  rw [h.current.2]
  by_cases hend : s.current.kind = .eof
  · exact W.ends _ h.current.1 hend _ _
  · exact W.slices _ h.current.1 _ h.current.1 hend hend

theorem Alike.bind {α β : Type} {mid : α → Prop} {post : β → Prop} {p p' : Parser α}
    {f f' : α → Parser β} (hp : W.Alike mid (p W.left s) (p' W.right t))
    (hf : ∀ x u v, mid x → p W.left s = .ok (x, u) → W.Linked u v →
      W.Alike post (f x W.left u) (f' x W.right v)) :
    W.Alike post ((p >>= f) W.left s) ((p' >>= f') W.right t) := by
  rw [run_bind, run_bind]
  generalize hl : p W.left s = l, p' W.right t = r at hp
  cases hp with
  | ok h hlinked => exact hf _ _ _ h hl hlinked
  | error ha => exact .error ha

theorem Alike.returned {α : Type} {post : α → Prop} {x : α}
    {r : Except ParseError (α × ParserState)} (h : W.Alike post (.ok (x, s)) r) :
    post x ∧ OnText K W.left s := by
  cases h with
  | ok h hl => exact ⟨h, hl.onText⟩

/-- The same result with the same references, or the same fault at corresponding tokens. -/
theorem Alike.noted {α : Type} {post : α → Prop} {l r : Except ParseError (α × ParserState)}
    (h : W.Alike post l r) :
    (∃ x : α × References, l.map (fun y => (y.1, y.2.references)) = .ok x ∧
        r.map (fun y => (y.1, y.2.references)) = .ok x) ∨
      ∃ fault a, W.has a ∧ l.map (fun y => (y.1, y.2.references)) = .error ⟨fault, a.span⟩ ∧
        r.map (fun y => (y.1, y.2.references)) = .error ⟨fault, (W.move a).span⟩ := by
  cases h with
  | @ok x s t _ hl =>
    refine .inl ⟨(x, s.references), rfl, ?_⟩
    show Except.ok (x, t.references) = _
    rw [hl.references]
  | error ha => exact .inr ⟨_, _, ha, rfl, rfl⟩

theorem Linked.unexpected {α : Type} {post : α → Prop} (h : W.Linked s t) (what : String) :
    W.Alike post (unexpected what W.left s) (unexpected what W.right t) := by
  show W.Alike post (.error (ParseError.unexpected what s.current))
      (.error (ParseError.unexpected what t.current))
  have hmove : ParseError.unexpected what t.current =
      ⟨(ParseError.unexpected what s.current).fault, (W.move s.current).span⟩ := by
    rw [h.current.2, ParseError.unexpected, W.kind_move, ParseError.unexpected]
    split <;> rfl
  have hspan : ParseError.unexpected what s.current =
      ⟨(ParseError.unexpected what s.current).fault, s.current.span⟩ := by
    rw [ParseError.unexpected]
    split <;> rfl
  rw [hmove, hspan]
  exact .error h.current.1

end Correspondence

/-! ## Runs -/

section Runs

variable {α β : Type} (src : Source) (s : ParserState)

theorem run_withVerb (verb : String) (p : Parser α) :
    withVerb verb p src s = match p src { s with verb } with
      | .ok (x, u) => .ok (x, { u with verb := s.verb })
      | .error e => .error e := by
  show (p src { s with verb } >>= fun x => _) = _
  cases p src { s with verb } <;> rfl

theorem run_written (p : Parser Unit) :
    written p src s = match p src s.advance with
      | .ok (_, u) => .ok (Token.slice src.text ⟨s.current.span.start, u.previous.span.stop⟩, u)
      | .error e => .error e := by
  show (p src s.advance >>= fun x => _) = _
  cases p src s.advance <;> rfl

theorem run_whereReturning (p q : Parser α) :
    whereReturning p q src s =
      if (s.current.kind == .keyword .RETURNING && src.dialect.supportsReturning) = true
        then p src s else q src s := by
  show (if (s.current.kind == .keyword .RETURNING && src.dialect.supportsReturning) = true then p
      else q) src s = _
  split <;> rfl

theorem run_blaming (p : Parser α) (result? : α → Option β) (fault : ParseFault) :
    blaming p result? fault src s = match p src s with
      | .ok (x, u) =>
        match result? x with
        | some y => .ok (y, u)
        | none => .error ⟨fault, s.current.span⟩
      | .error e => .error e := by
  show (p src s >>= fun x => _) = _
  rcases p src s with e | ⟨x, u⟩
  · rfl
  · show (match result? x with
      | some y => Pure.pure y
      | none => throw ⟨fault, s.current.span⟩ : Parser β) src u = match result? x with
      | some y => .ok (y, u)
      | none => .error ⟨fault, s.current.span⟩
    cases result? x <;> rfl

theorem run_retrying (p : Parser α) (again : TokenKind → Bool) (q : Parser β)
    (r : α → TokenKind → Parser β) :
    retrying p again q r src s = match p src s with
      | .ok (x, u) =>
        if again u.current.kind = true then
          q src { u with previous := s.previous, current := s.current, rest := s.rest }
        else r x u.current.kind src u
      | .error e => .error e := by
  show (p src s >>= fun x => _) = _
  rcases p src s with e | ⟨x, u⟩
  · rfl
  · show (if again u.current.kind = true then rewind s >>= fun _ => q
        else r x u.current.kind) src u =
      if again u.current.kind = true then
        q src { u with previous := s.previous, current := s.current, rest := s.rest }
      else r x u.current.kind src u
    split <;> rfl

end Runs

/-- Whatever is made of the primitive readers goes in lockstep. -/
theorem Makes.alike {K : TokenKind → Prop} {α : Type} {post : α → Prop} {p : Parser α}
    (hp : Makes K post p) (W : Correspondence K) {s t : ParserState} (h : W.Linked s t) :
    W.Alike post (p W.left s) (p W.right t) := by
  induction hp generalizing s t with
  | pure hx => exact .ok hx h
  | andThen _ _ ihp ihf => exact (ihp h).bind fun x u v hx _ hl => ihf x hx hl
  | kind =>
    show W.Alike K (.ok (s.current.kind, s)) (.ok (t.current.kind, t))
    rw [h.kind_eq]
    exact .ok (W.kinds _ h.current.1) h
  | nextKind =>
    show W.Alike _ (.ok ((s.rest.head?.map Token.kind).getD .eof, s))
        (.ok ((t.rest.head?.map Token.kind).getD .eof, t))
    rw [h.nextKind_eq]
    exact .ok trivial h
  | rounds =>
    show W.Alike _ (.ok (s.rest.length + 1, s)) (.ok (t.rest.length + 1, t))
    rw [h.rounds_eq]
    exact .ok trivial h
  | currentText =>
    show W.Alike _ (.ok (Token.slice W.left.text s.current.span, s))
        (.ok (Token.slice W.right.text t.current.span, t))
    rw [h.currentText_eq]
    exact .ok trivial h
  | advance => exact .ok trivial h.advance
  | unexpected => exact h.unexpected _
  | note change => exact .ok trivial (h.noting change)
  | @setVerb verb => exact .ok trivial (h.withVerb verb)
  | @withVerb _ _ verb p _ ih =>
    have hinner := ih (h.withVerb verb)
    rw [run_withVerb, run_withVerb]
    generalize p W.left { s with verb } = l, p W.right { t with verb } = r at hinner
    cases hinner with
    | ok hx hl =>
      rw [h.verb]
      exact .ok hx (hl.withVerb s.verb)
    | error ha => exact .error ha
  | @written p _ hsteady ih =>
    have hinner := ih h.advance
    rw [run_written, run_written]
    generalize hleft : p W.left s.advance = l, p W.right t.advance = r at hinner
    cases hinner with
    | ok hx hl =>
      have hslice := h.slice_eq hl fun hs => hsteady _ _ _ hleft (by rwa [advance_previous])
      simp only [hslice]
      exact .ok trivial hl
    | error ha => exact .error ha
  | whereReturning _ _ ihp ihq =>
    rw [run_whereReturning, run_whereReturning, h.kind_eq]
    rcases W.returning with hsame | habsent
    · rw [hsame]
      split
      · exact ihp h
      · exact ihq h
    · have hkind : (s.current.kind == .keyword .RETURNING) = false := by
        simpa using habsent _ h.current.1
      rw [hkind]
      exact ihq h
  | @blaming _ _ _ _ p result? fault _ hresult ih =>
    have hinner := ih h
    rw [run_blaming, run_blaming]
    generalize p W.left s = l, p W.right t = r at hinner
    cases hinner with
    | @ok x _ _ hx hl =>
      simp only
      cases hy : result? x with
      | some y => exact .ok (hresult x y hx hy) hl
      | none =>
        rw [h.current.2]
        exact .error h.current.1
    | error ha => exact .error ha
  | @retrying _ _ _ _ p again q r _ _ _ ihp ihq ihr =>
    have hinner := ihp h
    rw [run_retrying, run_retrying]
    generalize p W.left s = l, p W.right t = r at hinner
    cases hinner with
    | @ok x u v hx hl =>
      simp only [hl.kind_eq]
      split
      · exact ihq (h.rewind hl)
      · exact ihr x _ hx (W.kinds _ hl.current.1) hl
    | error ha => exact .error ha
  | @shows _ _ _ p _ hshows ih =>
    have hinner := ih h
    generalize hleft : p W.left s = l, p W.right t = r at hinner
    cases hinner with
    | ok hx hl => exact .ok (hshows _ _ _ _ h.onText hleft hx) hl
    | error ha => exact .error ha

/-! ## A text inside a longer one -/

open Token (tokenize)

/-- A token of a text where it stands in a longer one, so many bytes further on. -/
def moved (offset : Nat) (whole : String) (a : Token) : Token :=
  if a.kind = .eof then endOf whole else a.shift offset

theorem moved_kind (offset : Nat) (whole : String) (a : Token) :
    (moved offset whole a).kind = a.kind := by
  unfold moved
  split
  · exact Eq.symm ‹_›
  · rfl

theorem mem_tokenize {d : Dialect} {text : String} {a : Token} (h : a ∈ tokenize d text) :
    (a.kind = .eof → a = endOf text) ∧ (a.kind ≠ .eof → a.span.stop ≤ size text) := by
  obtain ⟨hsplit, hinner⟩ := tokenize_split d text
  rw [hsplit, List.mem_append, List.mem_singleton] at h
  rcases h with h | rfl
  · exact ⟨fun heof => absurd heof (hinner a h).1, fun _ => (hinner a h).2⟩
  · exact ⟨fun _ => rfl, fun hne => absurd rfl hne⟩

/-- From the end of a text on there is nothing. -/
theorem slice_size (text : String) (stop : Nat) : Token.slice text ⟨size text, stop⟩ = "" := by
  have h := Token.slice_go_before ⟨size text, stop⟩ 0 text.toList [] (by simp [size])
  rw [List.append_nil] at h
  rw [Token.slice, h]
  rfl

/-- A text and a longer one that has no tokens but those of the text, under two dialects that agree
on it. -/
def Correspondence.within {K : TokenKind → Prop} {d : Dialect} {text : String} (d' : Dialect)
    (before after : String) (hK : ∀ a ∈ tokenize d text, K a.kind)
    (hreturning : d.supportsReturning = d'.supportsReturning ∨
      ∀ a ∈ tokenize d text, a.kind ≠ .keyword .RETURNING) : Correspondence K where
  left := ⟨text, d⟩
  right := ⟨before ++ text ++ after, d'⟩
  move := moved (size before) (before ++ text ++ after)
  kind_move := moved_kind _ _
  kinds := hK
  slices a _ b hb hae hbe := by
    rw [moved, if_neg hae, moved, if_neg hbe]
    have h := Token.slice_inside before.toList text.toList after.toList a.span.start b.span.stop
      ((mem_tokenize hb).2 hbe)
    rwa [← String.toList_append, ← String.toList_append, String.ofList_toList,
      String.ofList_toList] at h
  ends a ha hae stop stop' := by
    rw [moved, if_pos hae, (mem_tokenize ha).1 hae]
    exact (slice_size _ _).trans (slice_size _ _).symm
  returning := hreturning

theorem startState_previous (d : Dialect) (text : String) :
    (startState d text).previous.kind = .eof := by
  unfold startState
  cases tokenize d text <;> rfl

theorem startState_onText {K : TokenKind → Prop} {d : Dialect} {text : String}
    (hK : ∀ a ∈ tokenize d text, K a.kind) :
    OnText K ⟨text, d⟩ (startState d text) := by
  have hmem :
      ∀ a ∈ (startState d text).current :: (startState d text).rest, a ∈ tokenize d text := by
    rw [startState_tokens]
    exact fun a ha => ha
  obtain ⟨hcurrent, hrest⟩ := List.forall_mem_cons.mp hmem
  exact ⟨hK, hcurrent, hrest, startState_tokens d text ▸ List.suffix_refl _,
    fun hne => absurd (startState_previous d text) hne⟩

/-- The readers of both texts start in lockstep. -/
theorem Correspondence.within_linked {K : TokenKind → Prop} {d d' : Dialect}
    {before text after : String} (hK : ∀ a ∈ tokenize d text, K a.kind)
    (hreturning : d.supportsReturning = d'.supportsReturning ∨
      ∀ a ∈ tokenize d text, a.kind ≠ .keyword .RETURNING)
    (htokens : tokenize d' (before ++ text ++ after) =
      (tokenize d text).map (moved (size before) (before ++ text ++ after))) :
    (within d' before after hK hreturning).Linked (startState d text)
      (startState d' (before ++ text ++ after)) := by
  have hleft := startState_tokens d text
  have hright := startState_tokens d' (before ++ text ++ after)
  rw [htokens, ← hleft, List.map_cons] at hright
  injection hright with hcurrent hrest
  have hstart := startState_onText hK
  exact {
    current := ⟨hstart.current, hcurrent⟩
    rest := ⟨hstart.rest, hrest⟩
    suffix := hstart.suffix
    previous := fun hne => absurd (startState_previous d text) hne
    references := (startState_references _ _).trans (startState_references _ _).symm
    verb := (startState_verb _ _).trans (startState_verb _ _).symm }

/-- A token of a text stays where it is when nothing is put around the text. -/
theorem moved_nowhere {d : Dialect} {text : String} {a : Token} (ha : a ∈ tokenize d text) :
    moved (size "") ("" ++ text ++ "") a = a := by
  rw [String.empty_append, String.append_empty, moved]
  split
  · exact ((mem_tokenize ha).1 ‹_›).symm
  · rfl

theorem tokenize_nowhere {d d' : Dialect} {text : String} (h : tokenize d' text = tokenize d text) :
    tokenize d' ("" ++ text ++ "") =
      (tokenize d text).map (moved (size "") ("" ++ text ++ "")) := by
  rw [List.map_congr_left fun a ha => moved_nowhere ha, List.map_id', String.empty_append,
    String.append_empty, h]

/-- What a reader returns has what is asked of it, and the reader goes on in the text. -/
theorem Makes.returns {K : TokenKind → Prop} {α : Type} {post : α → Prop} {p : Parser α}
    (hp : Makes K post p) {src : Source} {s t : ParserState} {x : α} (hs : OnText K src s)
    (h : Returns p src s x t) :
    post x ∧ OnText K src t := by
  let W := Correspondence.within src.dialect "" "" hs.kinds (.inl rfl)
  have hlinked : W.Linked s s := {
    current := ⟨hs.current, (moved_nowhere hs.current).symm⟩
    rest :=
      ⟨hs.rest, ((List.map_congr_left fun a ha => moved_nowhere (hs.rest a ha)).trans
        (List.map_id' _)).symm⟩
    suffix := hs.suffix
    previous := fun hne => ⟨hs.previous hne, (moved_nowhere (hs.previous hne)).symm⟩
    references := rfl
    verb := rfl }
  have halike : W.Alike post (p src s) _ := hp.alike W hlinked
  rw [h] at halike
  exact halike.returned

end SqlWeave.Parser
