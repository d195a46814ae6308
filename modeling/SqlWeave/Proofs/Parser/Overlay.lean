import SqlWeave.Proofs.Parser.Returns
import SqlWeave.Proofs.References
import SqlWeave.Proofs.Token.Append

/-! Two texts side by side. The tokens of the left text occur in the right text, at an offset, and
where the left text ends something else follows on the right that closes what was read. `Linked`
says that two readers stand at corresponding places of the two texts and have noted the same since
they entered them. -/

namespace SqlWeave.Parser

/-- The tokens that may follow on the right where the left text ends: none of them continues what
the grammar could end before. -/
inductive Closes : TokenKind → Prop
  | eof : Closes .eof
  | semicolon : Closes (.symbol .semicolon)
  | rightParen : Closes (.symbol .rightParen)
  | whereClause : Closes (.keyword .WHERE)

/-- `sameVerb` says whether both sides note under one verb, `samePlace` whether the tokens before
the current ones correspond too. Byte positions up to `bound` have the same text on both sides. -/
structure Overlay where
  left : Source
  right : Source
  offset : Nat
  bound : Nat
  finish : Token
  ending : Token
  after : List Token
  leftBase : References
  rightBase : References
  sameVerb : Prop
  samePlace : Prop
  finish_eof : finish.kind = .eof
  closes : Closes ending.kind
  dialect : left.dialect = right.dialect
  slices : ∀ start stop, stop ≤ bound →
    Token.slice right.text ⟨start + offset, stop + offset⟩ = Token.slice left.text ⟨start, stop⟩

namespace Overlay

/-- The overlay with both sides noting under one verb. -/
def agreeing (W : Overlay) : Overlay := { W with sameVerb := True }

def placed (W : Overlay) : Overlay := { W with samePlace := True }

/-- A text overlaid with itself, from two states on that have noted `left` and `right`. -/
def itself (src : Source) (finish : Token) (h : finish.kind = .eof) (bound : Nat)
    (left right : References) (sameVerb : Prop) : Overlay where
  left := src
  right := src
  offset := 0
  bound := bound
  finish := finish
  ending := finish
  after := []
  leftBase := left
  rightBase := right
  sameVerb := sameVerb
  samePlace := False
  finish_eof := h
  closes := h ▸ .eof
  dialect := rfl
  slices := fun _ _ _ => rfl

/-- The states correspond, and `ts` are the tokens that are left before the left text ends. -/
structure Linked (W : Overlay) (s t : ParserState) (ts : List Token) : Prop where
  left : s.current :: s.rest = ts ++ [W.finish]
  right : t.current :: t.rest = ts.map (Token.shift W.offset) ++ W.ending :: W.after
  inText : ∀ k ∈ ts, k.kind ≠ .eof ∧ k.span.stop ≤ W.bound
  verb : W.sameVerb → s.verb = t.verb
  place : W.samePlace → t.previous.span.stop = s.previous.span.stop + W.offset ∧
    s.previous.span.stop ≤ W.bound
  log : ∃ r, s.references = W.leftBase.append r ∧ t.references = W.rightBase.append r

variable {W : Overlay} {s t : ParserState} {ts : List Token}

theorem Linked.of_agreeing (h : W.agreeing.Linked s t ts) : W.Linked s t ts :=
  { h with verb := fun _ => h.verb trivial }

theorem Linked.of_placed (h : W.placed.Linked s t ts) : W.Linked s t ts :=
  { h with place := fun _ => h.place trivial }

theorem Linked.left_inside {k : Token} (h : W.Linked s t (k :: ts)) :
    s.current = k ∧ s.rest = ts ++ [W.finish] := by
  have hl := h.left
  rw [List.cons_append] at hl
  injection hl with hc hr
  exact ⟨hc, hr⟩

theorem Linked.right_inside {k : Token} (h : W.Linked s t (k :: ts)) :
    t.current = k.shift W.offset ∧
      t.rest = ts.map (Token.shift W.offset) ++ W.ending :: W.after := by
  have hr := h.right
  rw [List.map_cons, List.cons_append] at hr
  injection hr with hc hr
  exact ⟨hc, hr⟩

theorem Linked.left_end (h : W.Linked s t []) : s.current = W.finish ∧ s.rest = [] := by
  have hl := h.left
  rw [List.nil_append] at hl
  injection hl with hc hr
  exact ⟨hc, hr⟩

theorem Linked.right_end (h : W.Linked s t []) : t.current = W.ending ∧ t.rest = W.after := by
  have hr := h.right
  rw [List.map_nil, List.nil_append] at hr
  injection hr with hc hr
  exact ⟨hc, hr⟩

theorem Linked.kind_eq {k : Token} (h : W.Linked s t (k :: ts)) :
    s.current.kind ≠ .eof ∧ t.current.kind = s.current.kind := by
  rw [h.left_inside.1, h.right_inside.1]
  exact ⟨(h.inText k (by simp)).1, rfl⟩

theorem Linked.kind_end (h : W.Linked s t []) :
    s.current.kind = .eof ∧ t.current.kind = W.ending.kind := by
  rw [h.left_end.1, h.right_end.1]
  exact ⟨W.finish_eof, rfl⟩

theorem Linked.rest_le (h : W.Linked s t ts) : s.rest.length ≤ t.rest.length := by
  have hl := congrArg List.length h.left
  have hr := congrArg List.length h.right
  simp at hl hr
  omega

theorem Linked.text_eq {k : Token} (h : W.Linked s t (k :: ts)) :
    Token.slice W.right.text t.current.span = Token.slice W.left.text s.current.span := by
  rw [h.left_inside.1, h.right_inside.1]
  exact W.slices _ _ (h.inText k (by simp)).2

theorem Linked.advance {k : Token} (h : W.Linked s t (k :: ts)) :
    W.placed.Linked s.advance t.advance ts := by
  obtain ⟨hsc, hsr⟩ := h.left_inside
  obtain ⟨htc, htr⟩ := h.right_inside
  have hs : s.advance = { s with
      previous := s.current, current := (ts ++ [W.finish]).headD W.finish,
      rest := (ts ++ [W.finish]).tail } := by
    unfold ParserState.advance
    rw [hsr]
    cases ts <;> rfl
  have ht : t.advance = { t with
      previous := t.current,
      current := (ts.map (Token.shift W.offset) ++ W.ending :: W.after).headD W.ending,
      rest := (ts.map (Token.shift W.offset) ++ W.ending :: W.after).tail } := by
    unfold ParserState.advance
    rw [htr]
    cases ts <;> rfl
  rw [hs, ht]
  refine ⟨by cases ts <;> rfl, by cases ts <;> rfl, ?_, h.verb, ?_, h.log⟩
  · exact fun k hk => h.inText k (List.mem_cons_of_mem _ hk)
  · intro _
    rw [hsc, htc]
    exact ⟨rfl, (h.inText k (by simp)).2⟩

/-- Two readers before the same tokens. -/
theorem itself_linked (src : Source) {finish : Token} (h : finish.kind = .eof) (bound : Nat)
    {sameVerb : Prop} (hs : s.current :: s.rest = ts ++ [finish])
    (ht : t.current :: t.rest = ts ++ [finish])
    (hts : ∀ k ∈ ts, k.kind ≠ .eof ∧ k.span.stop ≤ bound) (hv : sameVerb → s.verb = t.verb) :
    (itself src finish h bound s.references t.references sameVerb).Linked s t ts where
  left := hs
  right := ht.trans (by rw [itself, Token.map_shift_zero])
  inText := hts
  verb := hv
  place := False.elim
  log := ⟨.empty, (References.append_empty _).symm, (References.append_empty _).symm⟩

/-- Both readers go back to where they stood, with what they noted since. -/
theorem Linked.rewind {u v : ParserState} {us : List Token} (h : W.Linked s t ts)
    (hu : W.Linked u v us) :
    W.Linked { u with previous := s.previous, current := s.current, rest := s.rest }
      { v with previous := t.previous, current := t.current, rest := t.rest } ts :=
  { h with verb := hu.verb, log := hu.log }

/-- What is written from the current token on, up to where two other linked readers stand. -/
theorem Linked.written_eq {s' t' : ParserState} {k : Token} {ts' : List Token}
    (h : W.Linked s t (k :: ts)) (h' : W.placed.Linked s' t' ts') :
    Token.slice W.right.text ⟨t.current.span.start, t'.previous.span.stop⟩ =
      Token.slice W.left.text ⟨s.current.span.start, s'.previous.span.stop⟩ := by
  obtain ⟨hstop, hbound⟩ := h'.place trivial
  rw [hstop, h.left_inside.1, h.right_inside.1]
  exact W.slices _ _ hbound

end Overlay

end SqlWeave.Parser
