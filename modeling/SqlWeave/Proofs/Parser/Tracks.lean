import SqlWeave.Proofs.Parser.Overlay

/-! Following a reader from one text to another. Where two texts are overlaid, a reader that
succeeds on the left succeeds on the right, with the same result and the same notes. `Tracks` says
so of a pair of readers, and there is a rule for each way readers are put together, so that a reader
is followed by going through its definition once. -/

namespace SqlWeave.Parser

/-- From linked states whose tokens satisfy `P`, what `p` returns on the left `q` returns on the
right, and the states are linked again. -/
def TracksOn {α : Type} (P : List Token → Prop) (W : Overlay) (p q : Parser α) : Prop :=
  ∀ ts s t, P ts → W.Linked s t ts → ∀ x s', Returns p W.left s x s' →
    ∃ t' ts', Returns q W.right t x t' ∧ W.Linked s' t' ts' ∧ ts' <:+ ts

abbrev Tracks {α : Type} (W : Overlay) (p q : Parser α) : Prop := TracksOn (fun _ => True) W p q

abbrev Inside {α : Type} (W : Overlay) (p q : Parser α) : Prop := TracksOn (· ≠ []) W p q

abbrev AtEnd {α : Type} (W : Overlay) (p q : Parser α) : Prop := TracksOn (· = []) W p q

def FailsAtEof {α : Type} (p : Parser α) : Prop :=
  ∀ src s x t, s.current.kind = .eof → ¬ Returns p src s x t

variable {α β : Type} {P : List Token → Prop} {W : Overlay} {p q : Parser α} {f g : α → Parser β}

theorem TracksOn.on (h : Tracks W p q) : TracksOn P W p q :=
  fun ts s t _ hl => h ts s t trivial hl

theorem TracksOn.fails (h : ∀ src s x t, ¬ Returns p src s x t) : TracksOn P W p q :=
  fun _ _ _ _ _ _ _ hr => absurd hr (h _ _ _ _)

theorem TracksOn.failsAtEnd (h : FailsAtEof p) : AtEnd W p q := by
  intro ts s t hts hl x s' hr
  subst hts
  exact absurd hr (h _ _ _ _ hl.kind_end.1)

theorem TracksOn.split (hin : Inside W p q) (hend : AtEnd W p q) : Tracks W p q := by
  intro ts s t _ hl
  by_cases hts : ts = []
  · exact hend ts s t hts hl
  · exact hin ts s t hts hl

theorem TracksOn.pure (x : α) : TracksOn P W (Pure.pure x) (Pure.pure x) := by
  intro ts s t _ hl y s' hr
  obtain ⟨rfl, rfl⟩ := Returns.pure hr
  exact ⟨t, ts, rfl, hl, List.suffix_refl ts⟩

theorem TracksOn.bind (hp : TracksOn P W p q) (hf : ∀ x, Tracks W (f x) (g x)) :
    TracksOn P W (p >>= f) (q >>= g) := by
  intro ts s t hP hl y s' hr
  obtain ⟨x, u, hx, hy⟩ := Returns.bind hr
  obtain ⟨u', us, hx', hlu, hsu⟩ := hp ts s t hP hl x u hx
  obtain ⟨t', ts', hy', hl', hs'⟩ := hf x us u u' trivial hlu y s' hy
  exact ⟨t', ts', hx'.andThen hy', hl', hs'.trans hsu⟩

theorem TracksOn.pureBind {x : α} (h : TracksOn P W (f x) (g x)) :
    TracksOn P W (Pure.pure x >>= f) (Pure.pure x >>= g) := by
  rwa [pure_bind, pure_bind]

theorem TracksOn.unexpected {what : String} : TracksOn P W (unexpected what) q :=
  .fails fun _ _ _ _ => not_returns_unexpected

theorem TracksOn.outOfRounds : TracksOn P W outOfRounds q :=
  .fails fun _ _ _ _ => not_returns_outOfRounds

theorem FailsAtEof.pureBind {x : α} (h : FailsAtEof (f x)) : FailsAtEof (Pure.pure x >>= f) := by
  rwa [pure_bind]

theorem FailsAtEof.bind (h : FailsAtEof p) : FailsAtEof (p >>= f) := by
  intro src s x t he hr
  obtain ⟨_, _, hp, _⟩ := Returns.bind hr
  exact h _ _ _ _ he hp

/-! ## Looking at tokens -/

theorem TracksOn.lookInside {f g : TokenKind → Parser β} (h : ∀ k, Inside W (f k) (g k)) :
    Inside W (kind >>= f) (kind >>= g) := by
  intro ts s t hts hl y s' hr
  obtain ⟨k, u, hk, hr⟩ := Returns.bind hr
  obtain ⟨rfl, rfl⟩ := kind_returns hk
  obtain ⟨k, ts, rfl⟩ := List.exists_cons_of_ne_nil hts
  obtain ⟨t', ts', hg, hl', hs⟩ := h _ _ s t hts hl y s' hr
  refine ⟨t', ts', Returns.andThen returns_kind ?_, hl', hs⟩
  rw [hl.kind_eq.2]
  exact hg

theorem TracksOn.look {f g : TokenKind → Parser β} (hin : ∀ k, Inside W (f k) (g k))
    (hend : AtEnd W (f .eof) (g W.ending.kind)) : Tracks W (kind >>= f) (kind >>= g) := by
  refine .split (.lookInside hin) ?_
  intro ts s t hts hl y s' hr
  subst hts
  obtain ⟨k, u, hk, hr⟩ := Returns.bind hr
  obtain ⟨rfl, rfl⟩ := kind_returns hk
  obtain ⟨he, heq⟩ := hl.kind_end
  rw [he] at hr
  obtain ⟨t', ts', hg, hl', hs⟩ := hend [] s t rfl hl y s' hr
  refine ⟨t', ts', Returns.andThen returns_kind ?_, hl', hs⟩
  rw [heq]
  exact hg

/-- Past the last token of the left text the right one goes on with `ending`. -/
theorem TracksOn.peekInside {f g : TokenKind → Parser β} (h : ∀ k, Inside W (f k) (g k))
    (hend : Inside W (f .eof) (g W.ending.kind)) : Inside W (nextKind >>= f) (nextKind >>= g) := by
  intro ts s t hts hl y s' hr
  obtain ⟨k, u, hk, hr⟩ := Returns.bind hr
  obtain ⟨rfl, rfl⟩ := nextKind_returns hk
  obtain ⟨k, ts, rfl⟩ := List.exists_cons_of_ne_nil hts
  have hsr := hl.left_inside.2
  have htr := hl.right_inside.2
  rw [hsr] at hr
  cases ts with
  | nil =>
    simp only [List.nil_append, List.head?_cons, Option.map_some, Option.getD_some,
      W.finish_eof] at hr
    obtain ⟨t', ts', hg, hl', hs⟩ := hend _ s t hts hl y s' hr
    refine ⟨t', ts', Returns.andThen returns_nextKind ?_, hl', hs⟩
    rw [htr]
    exact hg
  | cons k' ts =>
    obtain ⟨t', ts', hg, hl', hs⟩ := h _ _ s t hts hl y s' hr
    refine ⟨t', ts', Returns.andThen returns_nextKind ?_, hl', hs⟩
    rw [htr]
    exact hg

/-- At the end what comes next is unrelated. -/
theorem TracksOn.peekAtEnd {f g : TokenKind → Parser β} (h : ∀ j k, AtEnd W (f j) (g k)) :
    AtEnd W (nextKind >>= f) (nextKind >>= g) := by
  intro ts s t hts hl y s' hr
  obtain ⟨k, u, hk, hr⟩ := Returns.bind hr
  obtain ⟨rfl, rfl⟩ := nextKind_returns hk
  obtain ⟨t', ts', hg, hl', hs⟩ := h _ _ ts s t hts hl y s' hr
  exact ⟨t', ts', Returns.andThen returns_nextKind hg, hl', hs⟩

theorem TracksOn.textInside {f g : String → Parser β} (h : ∀ text, Inside W (f text) (g text)) :
    Inside W (currentText >>= f) (currentText >>= g) := by
  intro ts s t hts hl y s' hr
  obtain ⟨text, u, hk, hr⟩ := Returns.bind hr
  obtain ⟨rfl, rfl⟩ := currentText_returns hk
  obtain ⟨k, ts, rfl⟩ := List.exists_cons_of_ne_nil hts
  obtain ⟨t', ts', hg, hl', hs⟩ := h _ _ s t hts hl y s' hr
  refine ⟨t', ts', Returns.andThen returns_currentText ?_, hl', hs⟩
  rw [hl.text_eq]
  exact hg

theorem TracksOn.rounds {f g : Nat → Parser β} (h : ∀ n m, n ≤ m → TracksOn P W (f n) (g m)) :
    TracksOn P W (rounds >>= f) (rounds >>= g) := by
  intro ts s t hP hl y s' hr
  obtain ⟨n, u, hk, hr⟩ := Returns.bind hr
  obtain ⟨rfl, rfl⟩ := rounds_returns hk
  have hle := Nat.succ_le_succ hl.rest_le
  obtain ⟨t', ts', hg, hl', hs⟩ := h _ _ hle ts s t hP hl y s' hr
  exact ⟨t', ts', Returns.andThen returns_rounds hg, hl', hs⟩

theorem advance_inside : Inside W advance advance := by
  intro ts s t hts hl y s' hr
  obtain ⟨k, ts, rfl⟩ := List.exists_cons_of_ne_nil hts
  have hs' := advance_returns hr
  subst hs'
  exact ⟨t.advance, ts, returns_advance, hl.advance.of_placed, List.suffix_cons k ts⟩

theorem written_inside {p q : Parser Unit} (h : Tracks W.placed p q) :
    Inside W (written p) (written q) := by
  intro ts s t hts hl y s' hr
  obtain ⟨k, ts, rfl⟩ := List.exists_cons_of_ne_nil hts
  obtain ⟨hp, rfl⟩ := written_returns hr
  obtain ⟨t', ts', hq, hl', hs⟩ := h ts _ _ trivial hl.advance () s' hp
  refine ⟨t', ts', ?_, hl'.of_placed, hs.trans (List.suffix_cons k ts)⟩
  rw [← hl.written_eq hl']
  exact returns_written hq

/-! ## Notes and verbs -/

theorem TracksOn.note {p q : Parser Unit} (n : String → References → References)
    (hn : ∀ verb (a r : References), a.append (n verb r) = n verb (a.append r))
    (hp : ∀ src s, p src s = .ok ((), { s with references := n s.verb s.references }))
    (hq : ∀ src s, q src s = .ok ((), { s with references := n s.verb s.references }))
    (hv : W.sameVerb ∨ ∀ v w r, n v r = n w r) : TracksOn P W p q := by
  intro ts s t _ hl y s' hr
  have hs' := (hp W.left s).symm.trans hr
  injection hs' with hs'
  injection hs' with _ hs'
  subst hs'
  obtain ⟨r, hsr, htr⟩ := hl.log
  have hverb : n s.verb = n t.verb := by
    rcases hv with hv | hv
    · rw [hl.verb hv]
    · funext r
      exact hv _ _ r
  refine ⟨_, ts, hq W.right t, { hl with log := ⟨n s.verb r, ?_, ?_⟩ }, List.suffix_refl ts⟩
  · rw [hsr, hn]
  · rw [htr, ← hverb, hn]

theorem addTable_tracks (hv : W.sameVerb) (db : Option String) (table : String) :
    Tracks W (addTable db table) (addTable db table) :=
  TracksOn.note (fun verb r => r.addTable verb db table)
    (fun verb a r => References.append_addTable a r verb db table) (fun _ _ => rfl) (fun _ _ => rfl)
    (.inl hv)

theorem addColumn_tracks (hv : W.sameVerb) (table : Option String) (column : String) :
    Tracks W (addColumn table column) (addColumn table column) :=
  TracksOn.note (fun verb r => r.addColumn verb table column)
    (fun verb a r => References.append_addColumn a r verb table column) (fun _ _ => rfl)
    (fun _ _ => rfl) (.inl hv)

theorem addAlias_tracks (aliasName table : String) :
    Tracks W (addAlias aliasName table) (addAlias aliasName table) :=
  TracksOn.note (fun _ r => r.addAlias aliasName table)
    (fun _ a r => References.append_addAlias a r aliasName table) (fun _ _ => rfl) (fun _ _ => rfl)
    (.inr fun _ _ _ => rfl)

theorem addCte_tracks (name : String) : Tracks W (addCte name) (addCte name) :=
  TracksOn.note (fun _ r => r.addCte name) (fun _ a r => References.append_addCte a r name)
    (fun _ _ => rfl) (fun _ _ => rfl) (.inr fun _ _ _ => rfl)

theorem withVerb_tracks (verb : String) (h : Tracks W.agreeing p q) :
    Tracks W (withVerb verb p) (withVerb verb q) := by
  intro ts s t _ hl y s' hr
  obtain ⟨u, hp, rfl⟩ := withVerb_returns hr
  have hla : W.agreeing.Linked { s with verb } { t with verb } ts :=
    { hl with verb := fun _ => rfl, log := hl.log }
  obtain ⟨u', us, hq, hlu, hs⟩ := h ts _ _ trivial hla y u hp
  exact ⟨_, us, returns_withVerb hq, { hlu with verb := hl.verb, log := hlu.log }, hs⟩

/-- Setting a verb makes both sides note under it. -/
theorem setVerb_tracks {f g : Unit → Parser β} (verb : String)
    (h : TracksOn P W.agreeing (f ()) (g ())) :
    TracksOn P W (setVerb verb >>= f) (setVerb verb >>= g) := by
  intro ts s t hP hl y s' hr
  obtain ⟨_, u, hu, hr⟩ := Returns.bind hr
  cases hu
  have hla : W.agreeing.Linked { s with verb } { t with verb } ts :=
    { hl with verb := fun _ => rfl, log := hl.log }
  obtain ⟨t', ts', hg, hl', hs⟩ := h ts _ _ hP hla y s' hr
  exact ⟨t', ts', Returns.andThen (x := ()) (u := { t with verb }) rfl hg, hl'.of_agreeing, hs⟩

theorem TracksOn.source {f g : Source → Parser β}
    (h : ∀ src src', src.dialect = src'.dialect → TracksOn P W (f src) (g src')) :
    TracksOn P W (read >>= f) (read >>= g) := by
  intro ts s t hP hl y s' hr
  obtain ⟨_, u, hu, hr⟩ := Returns.bind hr
  cases hu
  obtain ⟨t', ts', hg, hl', hs⟩ := h _ _ W.dialect ts s t hP hl y s' hr
  exact ⟨t', ts', Returns.andThen (x := W.right) (u := t) rfl hg, hl', hs⟩

theorem TracksOn.state {f g : ParserState → Parser β} (h : ∀ s t, TracksOn P W (f s) (g t)) :
    TracksOn P W (get >>= f) (get >>= g) := by
  intro ts s t hP hl y s' hr
  obtain ⟨_, u, hu, hr⟩ := Returns.bind hr
  cases hu
  obtain ⟨t', ts', hg, hl', hs⟩ := h _ _ ts s t hP hl y s' hr
  exact ⟨t', ts', Returns.andThen (x := t) (u := t) rfl hg, hl', hs⟩

theorem TracksOn.ite {c : Prop} [Decidable c] {p' q' : Parser α} (h : TracksOn P W p q)
    (h' : TracksOn P W p' q') : TracksOn P W (if c then p else p') (if c then q else q') := by
  split
  · exact h
  · exact h'

/-! ## Tests of the current token -/

/-- The test asks `b` of the kind of the current token. -/
def Asks (test : Parser Bool) (b : TokenKind → Bool) : Prop :=
  ∀ src s, test src s = .ok (b s.current.kind, s)

theorem Asks.returns {check : Parser Bool} {b : TokenKind → Bool} (h : Asks check b) {src : Source}
    {s t : ParserState} {v : Bool} (hr : Returns check src s v t) :
    v = b s.current.kind ∧ s = t := by
  have he := (h src s).symm.trans hr
  injection he with he
  injection he with hv hs
  exact ⟨hv.symm, hs⟩

theorem Asks.returned {check : Parser Bool} {b : TokenKind → Bool} (h : Asks check b) (src : Source)
    (s : ParserState) : Returns check src s (b s.current.kind) s := h src s

theorem isAt_asks (mark : Symbol) : Asks (isAt mark) (· == .symbol mark) := fun _ _ => rfl

theorem isAtKeyword_asks (k : Keyword) : Asks (isAtKeyword k) (· == .keyword k) := fun _ _ => rfl

theorem isAtWord_asks (word : String) : Asks (isAtWord word) (·.isWord word) := fun _ _ => rfl

theorem isAtAnyWord_asks (words : List String) :
    Asks (isAtAnyWord words) fun k => words.any k.isWord := fun _ _ => rfl

theorem isAtQuery_asks : Asks isAtQuery fun k => k == .keyword .SELECT || k == .keyword .WITH :=
  fun _ _ => rfl

section Tests

variable {check : Parser Bool} {b : TokenKind → Bool} {f g : Bool → Parser β}

theorem TracksOn.whenInside (ht : Asks check b) (h : ∀ v, Inside W (f v) (g v)) :
    Inside W (check >>= f) (check >>= g) := by
  intro ts s t hts hl y s' hr
  obtain ⟨k, ts, rfl⟩ := List.exists_cons_of_ne_nil hts
  obtain ⟨v, u, hv, hr⟩ := Returns.bind hr
  obtain ⟨rfl, rfl⟩ := ht.returns hv
  obtain ⟨t', ts', hg, hl', hs⟩ := h _ _ s t hts hl y s' hr
  refine ⟨t', ts', Returns.andThen (ht W.right t) ?_, hl', hs⟩
  rw [hl.kind_eq.2]
  exact hg

/-- At the end the test may come out differently on both sides. -/
theorem TracksOn.whenAtEnd (ht : Asks check b) (h : AtEnd W (f (b .eof)) (g (b W.ending.kind))) :
    AtEnd W (check >>= f) (check >>= g) := by
  intro ts s t hts hl y s' hr
  subst hts
  obtain ⟨v, u, hv, hr⟩ := Returns.bind hr
  obtain ⟨rfl, rfl⟩ := ht.returns hv
  rw [hl.kind_end.1] at hr
  obtain ⟨t', ts', hg, hl', hs⟩ := h _ s t rfl hl y s' hr
  refine ⟨t', ts', Returns.andThen (ht W.right t) ?_, hl', hs⟩
  rw [hl.kind_end.2]
  exact hg

/-- A test that can only succeed inside the text. -/
theorem TracksOn.when (ht : Asks check b) (he : b .eof = false) (hc : b W.ending.kind = false)
    (hin : Inside W (f true) (g true)) (hout : Tracks W (f false) (g false)) :
    Tracks W (check >>= f) (check >>= g) := by
  refine .split (.whenInside ht fun v => ?_) (.whenAtEnd ht ?_)
  · cases v with
    | false => exact hout.on
    | true => exact hin
  · rw [he, hc]
    exact hout.on

theorem TracksOn.test (ht : Asks check b) (he : b .eof = false) (hc : b W.ending.kind = false) :
    Tracks W check check := by
  have h := TracksOn.when (f := Pure.pure) (g := Pure.pure) ht he hc (.pure true) (.pure false)
  rwa [bind_pure] at h

theorem FailsAtEof.test (ht : Asks check b) (he : b .eof = false) (h : FailsAtEof (f false)) :
    FailsAtEof (check >>= f) := by
  intro src s x t hs hr
  obtain ⟨v, u, hv, hr⟩ := Returns.bind hr
  obtain ⟨rfl, rfl⟩ := ht.returns hv
  rw [hs, he] at hr
  exact h _ _ _ _ hs hr

theorem takeIf_tracks (ht : Asks check b) (he : b .eof = false) (hc : b W.ending.kind = false) :
    Tracks W (takeIf check) (takeIf check) :=
  .when ht he hc (.bind advance_inside fun _ => .pure true) (.pure false)

end Tests

/-- A reader that says yes only where a token follows. -/
theorem TracksOn.bindYes {p q : Parser Bool} {f g : Bool → Parser β} (hp : TracksOn P W p q)
    (hyes : ∀ src s t, Returns p src s true t → t.current.kind ≠ .eof)
    (ht : Inside W (f true) (g true)) (hf : Tracks W (f false) (g false)) :
    TracksOn P W (p >>= f) (q >>= g) := by
  intro ts s t hP hl y s' hr
  obtain ⟨v, u, hv, hr⟩ := Returns.bind hr
  obtain ⟨u', us, hv', hlu, hsu⟩ := hp ts s t hP hl v u hv
  have hfg : ∃ t' ts', Returns (g v) W.right u' y t' ∧ W.Linked s' t' ts' ∧ ts' <:+ us := by
    cases v with
    | false => exact hf us u u' trivial hlu y s' hr
    | true =>
      refine ht us u u' ?_ hlu y s' hr
      rintro rfl
      exact hyes _ _ _ hv hlu.kind_end.1
  obtain ⟨t', ts', hg, hl', hs'⟩ := hfg
  exact ⟨t', ts', hv'.andThen hg, hl', hs'.trans hsu⟩

/-- A reader that looks and takes nothing. -/
theorem TracksOn.bindStill (hp : Inside W p q) (hstill : ∀ src s x t, Returns p src s x t → s = t)
    (hf : ∀ x, Inside W (f x) (g x)) : Inside W (p >>= f) (q >>= g) := by
  intro ts s t hts hl y s' hr
  obtain ⟨x, u, hx, hr⟩ := Returns.bind hr
  obtain ⟨u', us, hx', hlu, hsu⟩ := hp ts s t hts hl x u hx
  obtain rfl := hstill _ _ _ _ hx
  obtain rfl := List.append_cancel_right (hl.left.symm.trans hlu.left)
  obtain ⟨t', ts', hg, hl', hs'⟩ := hf x ts s u' hts hlu y s' hr
  exact ⟨t', ts', hx'.andThen hg, hl', hs'⟩

/-! ## Taking tokens -/

def isClosing : Symbol → Bool
  | .semicolon | .rightParen => true
  | _ => false

theorem Closes.symbol {k : TokenKind} (h : Closes k) {mark : Symbol} (hm : isClosing mark = false) :
    (k == .symbol mark) = false := by
  cases h <;> cases mark <;> first | rfl | cases hm

theorem Closes.keyword {k : TokenKind} (h : Closes k) {word : Keyword} (hw : word ≠ .WHERE) :
    (k == .keyword word) = false := by
  cases h
  case whereClause =>
    simp only [beq_eq_false_iff_ne, ne_eq, TokenKind.keyword.injEq]
    exact fun h => hw h.symm
  all_goals rfl

theorem Closes.eq {k : TokenKind} (h : Closes k) :
    k = .eof ∨ k = .symbol .semicolon ∨ k = .symbol .rightParen ∨ k = .keyword .WHERE := by
  cases h <;> simp

theorem Closes.word {k : TokenKind} (h : Closes k) (word : String) : k.isWord word = false := by
  cases h <;> rfl

theorem any_isWord_eof (words : List String) : words.any TokenKind.eof.isWord = false :=
  List.any_eq_false.mpr fun _ _ => Bool.false_ne_true

theorem Closes.anyWord {k : TokenKind} (h : Closes k) (words : List String) :
    words.any k.isWord = false := by
  rw [List.any_eq_false]
  intro word _
  rw [h.word word]
  exact Bool.false_ne_true

theorem isAt_tracks {mark : Symbol} (hm : isClosing mark = false) :
    Tracks W (isAt mark) (isAt mark) :=
  .test (isAt_asks mark) rfl (W.closes.symbol hm)

theorem isAtKeyword_tracks {word : Keyword} (hw : word ≠ .WHERE) :
    Tracks W (isAtKeyword word) (isAtKeyword word) :=
  .test (isAtKeyword_asks word) rfl (W.closes.keyword hw)

theorem Closes.query {k : TokenKind} (h : Closes k) :
    (k == .keyword .SELECT || k == .keyword .WITH) = false := by
  cases h <;> rfl

theorem isAtQuery_tracks : Tracks W isAtQuery isAtQuery :=
  .test isAtQuery_asks rfl W.closes.query

theorem eat_tracks {mark : Symbol} (hm : isClosing mark = false) : Tracks W (eat mark) (eat mark) :=
  takeIf_tracks (isAt_asks mark) rfl (W.closes.symbol hm)

theorem eatKeyword_tracks {word : Keyword} (hw : word ≠ .WHERE) :
    Tracks W (eatKeyword word) (eatKeyword word) :=
  takeIf_tracks (isAtKeyword_asks word) rfl (W.closes.keyword hw)

theorem eatWord_tracks (word : String) : Tracks W (eatWord word) (eatWord word) :=
  takeIf_tracks (isAtWord_asks word) rfl (W.closes.word word)

theorem takeAnyWord_tracks (words : List String) :
    Tracks W (takeIf (isAtAnyWord words)) (takeIf (isAtAnyWord words)) :=
  takeIf_tracks (isAtAnyWord_asks words) (any_isWord_eof words) (W.closes.anyWord words)

theorem unexpected_fails {what : String} : FailsAtEof (unexpected what : Parser α) :=
  fun _ _ _ _ _ => not_returns_unexpected

theorem takeIf_fails {check : Parser Bool} {b : TokenKind → Bool} (ht : Asks check b)
    (he : b .eof = false) {f : Bool → Parser β} (h : FailsAtEof (f false)) :
    FailsAtEof (takeIf check >>= f) := by
  unfold takeIf
  rw [bind_assoc]
  refine .test ht he ?_
  rwa [if_neg Bool.false_ne_true, pure_bind]

theorem expect_fails (mark : Symbol) : FailsAtEof (expect mark) :=
  takeIf_fails (isAt_asks mark) rfl unexpected_fails

theorem expectKeyword_fails (word : Keyword) : FailsAtEof (expectKeyword word) :=
  takeIf_fails (isAtKeyword_asks word) rfl unexpected_fails

theorem takeIf_inside {check : Parser Bool} {b : TokenKind → Bool} (ht : Asks check b) :
    Inside W (takeIf check) (takeIf check) := by
  refine .whenInside ht fun v => .ite ?_ (.pure false)
  exact .bind advance_inside fun _ => .pure true

theorem expect_tracks (mark : Symbol) : Tracks W (expect mark) (expect mark) := by
  refine .split (.bind (takeIf_inside (isAt_asks mark)) fun v => ?_)
    (.failsAtEnd (expect_fails mark))
  exact .ite (.pure ()) .unexpected

theorem expectKeyword_tracks (word : Keyword) :
    Tracks W (expectKeyword word) (expectKeyword word) := by
  refine .split (.bind (takeIf_inside (isAtKeyword_asks word)) fun v => ?_)
    (.failsAtEnd (expectKeyword_fails word))
  exact .ite (.pure ()) .unexpected

theorem expectWord_tracks (words : List String) : Tracks W (expectWord words) (expectWord words) :=
  .bind (takeAnyWord_tracks words) fun _ => .ite (.pure ()) .unexpected

theorem FailsAtEof.look {f : TokenKind → Parser β} (h : FailsAtEof (f .eof)) :
    FailsAtEof (kind >>= f) := by
  intro src s x t hs hr
  obtain ⟨k, u, hk, hr⟩ := Returns.bind hr
  obtain ⟨rfl, rfl⟩ := kind_returns hk
  rw [hs] at hr
  exact h _ _ _ _ hs hr

theorem identifier_fails : FailsAtEof identifier := .look unexpected_fails

theorem identifier_tracks : Tracks W identifier identifier := by
  refine .split (.lookInside fun k => ?_) (.failsAtEnd identifier_fails)
  cases k
  case identifier => exact .bind advance_inside fun _ => .pure _
  case quotedIdentifier => exact .bind advance_inside fun _ => .pure _
  case keyword word =>
    refine .ite (.textInside fun text => ?_) .unexpected
    exact .bind advance_inside fun _ => .pure text
  all_goals exact .unexpected

/-! ## Loops -/

theorem manyWithin_tracks {start : Parser Bool} {item item' : Parser α} (hs : Tracks W start start)
    (hi : Tracks W item item') {n m : Nat} (hnm : n ≤ m) :
    Tracks W (manyWithin start item n) (manyWithin start item' m) := by
  induction n generalizing m with
  | zero => exact .outOfRounds
  | succ n ih =>
    obtain ⟨m, rfl⟩ : ∃ k, m = k + 1 := ⟨m - 1, by omega⟩
    refine .bind hs fun _ => .ite ?_ (.pure [])
    exact .bind hi fun x => .bind (ih (by omega)) fun xs => .pure (x :: xs)

theorem many_tracks {start : Parser Bool} {item item' : Parser α} (hs : Tracks W start start)
    (hi : Tracks W item item') : Tracks W (many start item) (many start item') :=
  .rounds fun _ _ hnm => manyWithin_tracks hs hi hnm

theorem commaSeparated_tracks {item item' : Parser α} (hi : Tracks W item item') :
    Tracks W (commaSeparated item) (commaSeparated item') :=
  .bind hi fun x => .bind (many_tracks (eat_tracks rfl) hi) fun xs => .pure (x :: xs)

theorem dottedName_tracks : Tracks W dottedName dottedName :=
  .bind identifier_tracks fun x =>
    .bind (many_tracks (eat_tracks rfl) identifier_tracks) fun xs => .pure (x :: xs)

theorem parenthesizedNames_tracks : Tracks W parenthesizedNames parenthesizedNames :=
  .bind (expect_tracks _) fun _ => .bind (commaSeparated_tracks identifier_tracks) fun names =>
    .bind (expect_tracks _) fun _ => .pure names

/-! ## Readers that may run into the end

Some readers take whatever comes up to a parenthesis, or look one token ahead. On the left they may
meet the end where the right goes on; a parenthesis that has to follow rules that out. -/

/-- Like `TracksOn`, unless the left reader ends at the end of its text. -/
def TracksOrEndsOn {α : Type} (P : List Token → Prop) (W : Overlay) (p q : Parser α) : Prop :=
  ∀ ts s t, P ts → W.Linked s t ts → ∀ x s', Returns p W.left s x s' →
    (s'.current.kind = .eof ∧ s'.rest = []) ∨
      ∃ t' ts', Returns q W.right t x t' ∧ W.Linked s' t' ts' ∧ ts' <:+ ts

abbrev TracksOrEnds {α : Type} (W : Overlay) (p q : Parser α) : Prop :=
  TracksOrEndsOn (fun _ => True) W p q

abbrev InsideOrEnds {α : Type} (W : Overlay) (p q : Parser α) : Prop :=
  TracksOrEndsOn (· ≠ []) W p q

def StaysAtEof {α : Type} (p : Parser α) : Prop :=
  ∀ src s x t, s.current.kind = .eof ∧ s.rest = [] → Returns p src s x t →
    t.current.kind = .eof ∧ t.rest = []

theorem TracksOrEndsOn.of (h : TracksOn P W p q) : TracksOrEndsOn P W p q :=
  fun ts s t hP hl x s' hr => .inr (h ts s t hP hl x s' hr)

/-- Nothing of what ends at the end of the text is left once a reader follows that fails there. -/
theorem TracksOrEndsOn.closed (hp : TracksOrEndsOn P W p q) (hf : ∀ x, Tracks W (f x) (g x))
    (hfail : ∀ x, FailsAtEof (f x)) : TracksOn P W (p >>= f) (q >>= g) := by
  intro ts s t hP hl y s' hr
  obtain ⟨x, u, hx, hy⟩ := Returns.bind hr
  rcases hp ts s t hP hl x u hx with ⟨he, _⟩ | ⟨u', us, hx', hlu, hsu⟩
  · exact absurd hy (hfail x _ _ _ _ he)
  · obtain ⟨t', ts', hy', hl', hs'⟩ := hf x us u u' trivial hlu y s' hy
    exact ⟨t', ts', hx'.andThen hy', hl', hs'.trans hsu⟩

theorem TracksOrEndsOn.bind (hp : TracksOrEndsOn P W p q) (hf : ∀ x, TracksOrEnds W (f x) (g x))
    (hstay : ∀ x, StaysAtEof (f x)) : TracksOrEndsOn P W (p >>= f) (q >>= g) := by
  intro ts s t hP hl y s' hr
  obtain ⟨x, u, hx, hy⟩ := Returns.bind hr
  rcases hp ts s t hP hl x u hx with he | ⟨u', us, hx', hlu, hsu⟩
  · exact .inl (hstay x _ _ _ _ he hy)
  · rcases hf x us u u' trivial hlu y s' hy with he | ⟨t', ts', hy', hl', hs'⟩
    · exact .inl he
    · exact .inr ⟨t', ts', hx'.andThen hy', hl', hs'.trans hsu⟩

theorem TracksOrEndsOn.split (hin : InsideOrEnds W p q) (h : StaysAtEof p) :
    TracksOrEnds W p q := by
  intro ts s t _ hl x s' hr
  by_cases hts : ts = []
  · subst hts
    exact .inl (h _ _ _ _ ⟨hl.kind_end.1, hl.left_end.2⟩ hr)
  · exact hin ts s t hts hl x s' hr

/-- A test that can only succeed inside the text. -/
theorem TracksOrEndsOn.when {check : Parser Bool} {b : TokenKind → Bool} {f g : Bool → Parser β}
    (ht : Asks check b) (he : b .eof = false) (hin : InsideOrEnds W (f true) (g true))
    (hout : Tracks W (f false) (g false)) (hstay : StaysAtEof (f false)) :
    TracksOrEnds W (check >>= f) (check >>= g) := by
  refine .split ?_ ?_
  · intro ts s t hts hl y s' hr
    obtain ⟨k, ts, rfl⟩ := List.exists_cons_of_ne_nil hts
    obtain ⟨v, u, hv, hr⟩ := Returns.bind hr
    obtain ⟨hb, rfl⟩ := ht.returns hv
    have hq : Returns check W.right t v t := by
      rw [hb, ← hl.kind_eq.2]
      exact ht W.right t
    have hfg : InsideOrEnds W (f v) (g v) := by
      cases v with
      | false => exact .of hout.on
      | true => exact hin
    rcases hfg _ s t hts hl y s' hr with hend | ⟨t', ts', hg, hl', hs⟩
    · exact .inl hend
    · exact .inr ⟨t', ts', hq.andThen hg, hl', hs⟩
  · intro src s x t hs hr
    obtain ⟨v, u, hv, hr⟩ := Returns.bind hr
    obtain ⟨rfl, rfl⟩ := ht.returns hv
    rw [hs.1, he] at hr
    exact hstay _ _ _ _ hs hr

theorem TracksOn.bindOrEnds (hp : TracksOn P W p q) (hf : ∀ x, TracksOrEnds W (f x) (g x)) :
    TracksOrEndsOn P W (p >>= f) (q >>= g) := by
  intro ts s t hP hl y s' hr
  obtain ⟨x, u, hx, hy⟩ := Returns.bind hr
  obtain ⟨u', us, hx', hlu, hsu⟩ := hp ts s t hP hl x u hx
  rcases hf x us u u' trivial hlu y s' hy with he | ⟨t', ts', hy', hl', hs'⟩
  · exact .inl he
  · exact .inr ⟨t', ts', hx'.andThen hy', hl', hs'.trans hsu⟩

theorem StaysAtEof.pure (x : α) : StaysAtEof (Pure.pure x) := by
  intro src s y t hs hr
  obtain ⟨_, rfl⟩ := Returns.pure hr
  exact hs

theorem StaysAtEof.bind (hp : StaysAtEof p) (hf : ∀ x, StaysAtEof (f x)) :
    StaysAtEof (p >>= f) := by
  intro src s y t hs hr
  obtain ⟨x, u, hx, hy⟩ := Returns.bind hr
  exact hf x _ _ _ _ (hp _ _ _ _ hs hx) hy

theorem withVerb_fails (verb : String) (h : FailsAtEof p) : FailsAtEof (withVerb verb p) := by
  intro src s x t hs hr
  obtain ⟨u, hp, _⟩ := withVerb_returns hr
  exact h src { s with verb } x u hs hp

theorem StaysAtEof.look {f : TokenKind → Parser β} (h : StaysAtEof (f .eof)) :
    StaysAtEof (kind >>= f) := by
  intro src s x t hs hr
  obtain ⟨k, u, hk, hr⟩ := Returns.bind hr
  obtain ⟨rfl, rfl⟩ := kind_returns hk
  rw [hs.1] at hr
  exact h _ _ _ _ hs hr

theorem advance_stays : StaysAtEof advance := by
  intro src s x t hs hr
  obtain rfl := advance_returns hr
  unfold ParserState.advance
  rw [hs.2]
  exact ⟨hs.1, rfl⟩

theorem StaysAtEof.takeIf {check : Parser Bool} {b : TokenKind → Bool} {f : Bool → Parser β}
    (ht : Asks check b) (he : b .eof = false) (h : StaysAtEof (f false)) :
    StaysAtEof (takeIf check >>= f) := by
  intro src s x t hs hr
  unfold Parser.takeIf at hr
  rw [bind_assoc] at hr
  obtain ⟨v, u, hv, hr⟩ := Returns.bind hr
  obtain ⟨rfl, rfl⟩ := ht.returns hv
  rw [hs.1, he] at hr
  exact h _ _ _ _ hs hr

theorem FailsAtEof.stays (h : FailsAtEof p) : StaysAtEof p :=
  fun _ _ _ _ hs hr => absurd hr (h _ _ _ _ hs.1)

theorem StaysAtEof.of (h : ∀ W : Overlay, W.sameVerb → W.ending.kind = .eof → Tracks W p p) :
    StaysAtEof p := by
  intro src s x t ⟨he, hrest⟩ hr
  have htokens : s.current :: s.rest = [] ++ [s.current] := by
    rw [hrest]
    rfl
  have hl := Overlay.itself_linked src he 0 htokens htokens (by simp) fun _ : True => rfl
  obtain ⟨t', ts', _, hl', hsuf⟩ := h _ trivial he [] s s trivial hl x t hr
  obtain rfl := List.suffix_nil.mp hsuf
  exact ⟨hl'.kind_end.1, hl'.left_end.2⟩

theorem withVerb_orEnds (verb : String) (h : TracksOrEnds W.agreeing p q) :
    TracksOrEnds W (withVerb verb p) (withVerb verb q) := by
  intro ts s t _ hl y s' hr
  obtain ⟨u, hp, rfl⟩ := withVerb_returns hr
  have hla : W.agreeing.Linked { s with verb } { t with verb } ts :=
    { hl with verb := fun _ => rfl, log := hl.log }
  rcases h ts _ _ trivial hla y u hp with he | ⟨u', us, hq, hlu, hs⟩
  · exact .inl he
  · exact .inr ⟨_, us, returns_withVerb hq, { hlu with verb := hl.verb, log := hlu.log }, hs⟩

theorem written_insideOrEnds {p q : Parser Unit} (h : TracksOrEnds W.placed p q) :
    InsideOrEnds W (written p) (written q) := by
  intro ts s t hts hl y s' hr
  obtain ⟨k, ts, rfl⟩ := List.exists_cons_of_ne_nil hts
  obtain ⟨hp, rfl⟩ := written_returns hr
  rcases h ts _ _ trivial hl.advance () s' hp with he | ⟨t', ts', hq, hl', hs⟩
  · exact .inl he
  · refine .inr ⟨t', ts', ?_, hl'.of_placed, hs.trans (List.suffix_cons k ts)⟩
    rw [← hl.written_eq hl']
    exact returns_written hq

theorem isAtParenthesisOrEnd_asks :
    Asks isAtParenthesisOrEnd fun k => k == .symbol .rightParen || k == .eof := fun _ _ => rfl

theorem skipToParenthesis_tracks {n m : Nat} (hnm : n ≤ m) :
    TracksOrEnds W (skipWithin isAtParenthesisOrEnd n) (skipWithin isAtParenthesisOrEnd m) := by
  induction n generalizing m with
  | zero => exact .of .outOfRounds
  | succ n ih =>
    obtain ⟨m, rfl⟩ : ∃ k, m = k + 1 := ⟨m - 1, by omega⟩
    intro ts s t _ hl x s' hr
    obtain ⟨v, u, hv, hr'⟩ := Returns.bind hr
    obtain ⟨rfl, rfl⟩ := isAtParenthesisOrEnd_asks.returns hv
    cases ts with
    | nil =>
      rw [hl.kind_end.1] at hr'
      cases hr'
      exact .inl ⟨hl.kind_end.1, hl.left_end.2⟩
    | cons k ts =>
      have hq : Returns isAtParenthesisOrEnd W.right t
          (s.current.kind == .symbol .rightParen || s.current.kind == .eof) t := by
        rw [← hl.kind_eq.2]
        exact isAtParenthesisOrEnd_asks W.right t
      cases hb : (s.current.kind == .symbol .rightParen || s.current.kind == .eof) with
      | true =>
        rw [hb] at hr' hq
        cases hr'
        exact .inr ⟨t, k :: ts, Returns.andThen hq rfl, hl, List.suffix_refl _⟩
      | false =>
        rw [hb] at hr' hq
        obtain ⟨_, u, ha, hr'⟩ := Returns.bind hr'
        obtain rfl := advance_returns ha
        rcases ih (Nat.le_of_succ_le_succ hnm) ts _ _ trivial hl.advance.of_placed x s' hr'
          with he | ⟨t', ts', hr, hl', hs⟩
        · exact .inl he
        · exact .inr ⟨t', ts', Returns.andThen hq (returns_advance.andThen hr), hl',
            hs.trans (List.suffix_cons k ts)⟩

theorem textToParenthesis_tracks : InsideOrEnds W textToParenthesis textToParenthesis := by
  refine written_insideOrEnds ?_
  intro ts s t _ hl y s' hr
  obtain ⟨n, u, hk, hr⟩ := Returns.bind hr
  obtain ⟨rfl, rfl⟩ := rounds_returns hk
  have hle := Nat.succ_le_succ hl.rest_le
  rcases skipToParenthesis_tracks hle ts s t trivial hl y s' hr with he | ⟨t', ts', hg, hl', hs⟩
  · exact .inl he
  · exact .inr ⟨t', ts', Returns.andThen returns_rounds hg, hl', hs⟩

theorem many_stays {check : Parser Bool} {b : TokenKind → Bool} {item : Parser α}
    (ht : Asks check b) (he : b .eof = false) (n : Nat) :
    StaysAtEof (manyWithin (takeIf check) item n) := by
  cases n with
  | zero => exact FailsAtEof.stays unexpected_fails
  | succ n => exact .takeIf ht he (.pure [])

theorem commaSeparated_orEnds {item item' : Parser α} (hi : TracksOrEnds W item item') :
    TracksOrEnds W (commaSeparated item) (commaSeparated item') := by
  have hloop (n m : Nat) (hnm : n ≤ m) :
      TracksOrEnds W (manyWithin (eat .comma) item n) (manyWithin (eat .comma) item' m) := by
    induction n generalizing m with
    | zero => exact .of .outOfRounds
    | succ n ih =>
      obtain ⟨m, rfl⟩ : ∃ k, m = k + 1 := ⟨m - 1, by omega⟩
      refine (eat_tracks rfl).bindOrEnds fun v => ?_
      cases v with
      | false => exact .of (.pure [])
      | true =>
        refine hi.bind (fun x => (ih m (by omega)).bind (fun xs => .of (.pure _)) ?_) ?_
        · exact fun _ => .pure _
        · exact fun _ => .bind (many_stays (isAt_asks _) rfl n) fun _ => .pure _
  have hmany : TracksOrEnds W (many (eat .comma) item) (many (eat .comma) item') := by
    intro ts s t _ hl y s' hr
    obtain ⟨n, u, hk, hr⟩ := Returns.bind hr
    obtain ⟨rfl, rfl⟩ := rounds_returns hk
    rcases hloop _ _ (Nat.succ_le_succ hl.rest_le) ts s t trivial hl y s' hr
      with he | ⟨t', ts', hg, hrest⟩
    · exact .inl he
    · exact .inr ⟨t', ts', Returns.andThen returns_rounds hg, hrest⟩
  refine hi.bind (fun x => hmany.bind (fun xs => .of (.pure _)) fun _ => .pure _) ?_
  intro x
  refine .bind ?_ fun _ => .pure _
  intro src s y t hs hr
  obtain ⟨n, u, hk, hr⟩ := Returns.bind hr
  obtain ⟨_, rfl⟩ := rounds_returns hk
  exact many_stays (isAt_asks _) rfl n _ _ _ _ hs hr

/-! ## Readers that take a token -/

/-- Like `Tracks`, and at least one token is taken. -/
def TracksTaking {α : Type} (W : Overlay) (p q : Parser α) : Prop :=
  ∀ ts s t, W.Linked s t ts → ∀ x s', Returns p W.left s x s' →
    ∃ t' ts', Returns q W.right t x t' ∧ W.Linked s' t' ts' ∧ ts' <:+ ts.tail

theorem TracksTaking.tracks (h : TracksTaking W p q) : TracksOn P W p q := by
  intro ts s t _ hl x s' hr
  obtain ⟨t', ts', hq, hl', hs⟩ := h ts s t hl x s' hr
  exact ⟨t', ts', hq, hl', hs.trans (List.tail_suffix ts)⟩

theorem TracksTaking.bind (hp : TracksTaking W p q) (hf : ∀ x, Tracks W (f x) (g x)) :
    TracksTaking W (p >>= f) (q >>= g) := by
  intro ts s t hl y s' hr
  obtain ⟨x, u, hx, hy⟩ := Returns.bind hr
  obtain ⟨u', us, hx', hlu, hsu⟩ := hp ts s t hl x u hx
  obtain ⟨t', ts', hy', hl', hs'⟩ := hf x us u u' trivial hlu y s' hy
  exact ⟨t', ts', hx'.andThen hy', hl', hs'.trans hsu⟩

theorem TracksOn.taking (h : Tracks W p q) (hf : FailsAtEof p)
    (hp : ∀ src s x t, Returns p src s x t → t = s.advance) : TracksTaking W p q := by
  intro ts s t hl x s' hr
  obtain ⟨t', ts', hq, hl', _⟩ := h ts s t trivial hl x s' hr
  refine ⟨t', ts', hq, hl', ?_⟩
  cases ts with
  | nil => exact absurd hr (hf _ _ _ _ hl.kind_end.1)
  | cons k ts =>
    have he := hl'.left
    rw [hp _ _ _ _ hr, hl.advance.left] at he
    rw [← List.append_cancel_right he]
    exact List.suffix_refl ts

theorem Overlay.Linked.atEof {s t : ParserState} (h : W.Linked s t []) :
    s.current.kind = .eof ∧ s.rest = [] :=
  ⟨h.kind_end.1, h.left_end.2⟩

theorem TracksTaking.ends (h : TracksTaking W p q) {s t s' : ParserState} {k : Token} {x : α}
    (hl : W.Linked s t [k]) (hr : Returns p W.left s x s') :
    s'.current.kind = .eof ∧ s'.rest = [] := by
  obtain ⟨t', ts', _, hl', hs⟩ := h [k] s t hl x s' hr
  obtain rfl := List.suffix_nil.mp hs
  exact hl'.atEof

theorem TracksOrEndsOn.lookInside {f g : TokenKind → Parser β}
    (h : ∀ k, InsideOrEnds W (f k) (g k)) : InsideOrEnds W (kind >>= f) (kind >>= g) := by
  intro ts s t hts hl y s' hr
  obtain ⟨k, u, hk, hr⟩ := Returns.bind hr
  obtain ⟨rfl, rfl⟩ := kind_returns hk
  obtain ⟨k, ts, rfl⟩ := List.exists_cons_of_ne_nil hts
  rcases h _ _ s t hts hl y s' hr with he | ⟨t', ts', hg, hl', hs⟩
  · exact .inl he
  · refine .inr ⟨t', ts', Returns.andThen returns_kind ?_, hl', hs⟩
    rw [hl.kind_eq.2]
    exact hg

/-- A look past the last token may tell the two texts apart if the left reader then ends. -/
theorem TracksOrEndsOn.peekInside {f g : TokenKind → Parser β} (h : ∀ k, Inside W (f k) (g k))
    (hend : ∀ k s t, W.Linked s t [k] → ∀ y s', Returns (f .eof) W.left s y s' →
      s'.current.kind = .eof ∧ s'.rest = []) : InsideOrEnds W (nextKind >>= f)
        (nextKind >>= g) := by
  intro ts s t hts hl y s' hr
  obtain ⟨k, u, hk, hr⟩ := Returns.bind hr
  obtain ⟨rfl, rfl⟩ := nextKind_returns hk
  obtain ⟨k, ts, rfl⟩ := List.exists_cons_of_ne_nil hts
  rw [hl.left_inside.2] at hr
  cases ts with
  | nil =>
    simp only [List.nil_append, List.head?_cons, Option.map_some, Option.getD_some,
      W.finish_eof] at hr
    exact .inl (hend k s t hl y s' hr)
  | cons k' ts =>
    obtain ⟨t', ts', hg, hl', hs⟩ := h _ _ s t hts hl y s' hr
    refine .inr ⟨t', ts', Returns.andThen returns_nextKind ?_, hl', hs⟩
    rw [hl.right_inside.2]
    exact hg

end SqlWeave.Parser
