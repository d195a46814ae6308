import SqlWeave.Proofs.Parser.Walk

/-! Readers among brackets. Most readers end on the level they start on, every bracket they open
closed again; those that read the rest of a group end on the level outside of it. -/

namespace SqlWeave

/-- No bracket, no semicolon, no faulty token and not the end of input. -/
def TokenKind.isPlain : TokenKind → Bool
  | .eof | .fault _ | .symbol .semicolon => false
  | k => k.bracket?.isNone

namespace Parser

/-- Where a reader from a place ends up: on the level of that place, or past the mark that closes
it. -/
inductive Landing : Option Symbol → Place → List TokenKind → List Level → Prop
  | here (p : Place) : Landing none p p.before p.outer
  | past {p : Place} (level : Level) {outer : List Level} (h : p.outer = level :: outer) :
      Landing (some level.closing) p level.before outer

/-- From a spot where `P` holds the reader gets to one where `R` holds, on the level that `exit`
says. -/
def WalksTo {α : Type} (T : Tape) (P : Spot → Prop) (exit : Option Symbol) (p : Parser α)
    (R : α → Spot → Prop) :
    Prop :=
  ∀ c before outer, P c → Landing exit c.place before outer →
    Goes T c p fun x c' => before <:+ c'.place.before ∧ c'.place.outer = outer ∧ R x c'

abbrev Walks {α : Type} (T : Tape) (P : Spot → Prop) (exit : Option Symbol) (p : Parser α) : Prop :=
  WalksTo T P exit p fun _ _ => True

abbrev Anywhere : Spot → Prop := fun _ => True

/-- Ends on the level where it starts. -/
abbrev Keeps {α : Type} (T : Tape) (p : Parser α) : Prop := Walks T Anywhere none p

/-- Ends past the mark that closes the level where it starts. -/
abbrev Shuts {α : Type} (T : Tape) (mark : Symbol) (p : Parser α) : Prop :=
  Walks T Anywhere (some mark) p

/-- After the current token of a spot where `P` holds. -/
def Past (P : Spot → Prop) (c' : Spot) : Prop :=
  ∃ c t, P c ∧ c'.place = c.place.push c.front ∧ c.ahead = t :: c'.ahead

/-- Further on, in the same brackets. -/
def SameLevel (c c' : Spot) : Prop :=
  c.place.before <:+ c'.place.before ∧ c'.place.outer = c.place.outer

/-- What holds of a spot holds further on the same level. -/
def Stable (P : Spot → Prop) : Prop := ∀ c c', P c → SameLevel c c' → P c'

/-- After the opening of a bracket at a spot where `P` holds. -/
def Opened (P : Spot → Prop) (closing : Symbol) (c' : Spot) : Prop :=
  ∃ c, P c ∧ c'.place = c.place.within closing

/-- After the mark that closes the level of a spot where `P` holds. -/
def Closed (P : Spot → Prop) (mark : Symbol) (c' : Spot) : Prop :=
  ∃ c before outer, P c ∧ c.place.outer = ⟨mark, before⟩ :: outer ∧
    c'.place = ⟨.symbol mark :: before, outer, false⟩

variable {α β : Type} {T : Tape} {c : Spot} {P : Spot → Prop} {exit : Option Symbol} {k : TokenKind}
  {mark : Symbol}

/-! ## Tokens that can be read -/

theorem reads_plain (h : c.front.isPlain = true) : c.Reads (c.place.push c.front) := by
  have hfront : c.front ≠ .eof ∧ c.front ≠ .symbol .semicolon ∧ (∀ fault, c.front ≠ .fault fault) ∧
      c.front.bracket? = none := by
    unfold TokenKind.isPlain at h
    split at h
    · cases h
    · cases h
    · cases h
    · rename_i heof hfault hsemicolon
      exact ⟨heof, hsemicolon, hfault, Option.isNone_iff_eq_none.mp h⟩
  obtain ⟨heof, hsemicolon, hsound, hbracket⟩ := hfront
  exact ⟨heof, hsound, Place.read?_plain hbracket hsemicolon⟩

theorem bracket_reads {bracket : Bracket} {place : Place} (h : c.front.bracket? = some bracket)
    (hread : c.place.read? c.front = some place) : c.Reads place := by
  refine ⟨fun heof => ?_, fun fault hfault => ?_, hread⟩
  · rw [heof] at h
    cases h
  · rw [hfault] at h
    cases h

theorem reads_opening (closing : Symbol) (h : c.front.bracket? = some (.opens closing)) :
    c.Reads (c.place.within closing) :=
  bracket_reads h (Place.read?_opens h)

theorem reads_closing (level : Level) {outer : List Level}
    (h : c.front.bracket? = some (.closes level.closing))
    (houter : c.place.outer = level :: outer) : c.Reads ⟨c.front :: level.before, outer, false⟩ :=
  bracket_reads h (Place.read?_closes h houter)

namespace Goes

theorem takeIf {check : Parser Bool} {b : TokenKind → Bool} {place : Place} (ha : Asks check b)
    (h : b c.front = true → c.Reads place) :
    Goes T c (takeIf check) fun v c' =>
      (v = true ∧ b c.front = true ∧ c'.place = place ∧ ∃ t, c.ahead = t :: c'.ahead) ∨
        (v = false ∧ b c.front = false ∧ c' = c) := by
  refine (Goes.test ha).bind fun v c' _ ⟨hc', hv⟩ => ?_
  subst hc' hv
  cases hb : b c'.front with
  | true =>
    exact (take (h hb)).bind fun _ _ _ ⟨hplace, t, hahead⟩ =>
      .pure (.inl ⟨rfl, rfl, hplace, t, hahead⟩)
  | false => exact .pure (.inr ⟨rfl, rfl, rfl⟩)

theorem expect {place : Place} (h : c.front = .symbol mark → c.Reads place) :
    Goes T c (expect mark) fun _ c' => c.front = .symbol mark ∧ c'.place = place := by
  refine (takeIf (isAt_asks mark) fun hb => h (beq_iff_eq.mp hb)).bind fun v _ _ hv => ?_
  rcases hv with ⟨rfl, hb, hplace, _⟩ | ⟨rfl, _, _⟩
  · exact .pure ⟨beq_iff_eq.mp hb, hplace⟩
  · exact .unexpected

/-- A loop with an invariant `I`; before an item `J` holds, and at the end `K`. -/
theorem manyWithin {start : Parser Bool} {item : Parser α} {I J K : Spot → Prop}
    (hstart : ∀ c, I c → Goes T c start fun v c' => cond v (J c') (K c'))
    (hitem : ∀ c, J c → Goes T c item fun _ c' => I c') (n : Nat) (hc : I c) :
    Goes T c (manyWithin start item n) fun _ c' => K c' := by
  induction n generalizing c with
  | zero => exact .outOfRounds
  | succ n ih =>
    refine (hstart c hc).bind fun v c₁ _ hv => ?_
    cases v with
    | true => exact (hitem c₁ hv).bind fun _ c₂ _ hc₂ => (ih hc₂).bind fun _ c₃ _ hc₃ => .pure hc₃
    | false => exact .pure hv

theorem many {start : Parser Bool} {item : Parser α} {I J K : Spot → Prop}
    (hstart : ∀ c, I c → Goes T c start fun v c' => cond v (J c') (K c'))
    (hitem : ∀ c, J c → Goes T c item fun _ c' => I c') (hc : I c) :
    Goes T c (many start item) fun _ c' => K c' :=
  Goes.rounds.bind fun n _ _ hc' => manyWithin hstart hitem n (hc' ▸ hc)

end Goes

/-! ## Rules -/

theorem Landing.resume {p q : Place} {before : List TokenKind} {outer : List Level}
    (h : Landing exit p before outer) (hbefore : p.before <:+ q.before)
    (houter : q.outer = p.outer) :
    ∃ before', Landing exit q before' outer ∧ before <:+ before' := by
  cases h with
  | here => exact ⟨q.before, houter ▸ .here q, hbefore⟩
  | past level hp => exact ⟨_, .past level (houter.trans hp), List.suffix_refl _⟩

theorem Landing.level {p : Place} {before : List TokenKind} {outer : List Level}
    (h : Landing (some mark) p before outer) :
    p.outer = ⟨mark, before⟩ :: outer := by
  cases h with
  | past _ houter => exact houter

theorem Landing.push {p : Place} {before : List TokenKind} {outer : List Level}
    (h : Landing exit p before outer) (k : TokenKind) :
    ∃ before', Landing exit (p.push k) before' outer ∧ before <:+ before' :=
  h.resume (List.suffix_cons k p.before) rfl

namespace WalksTo

variable {p : Parser α} {f : α → Parser β} {Q : α → Spot → Prop} {R : β → Spot → Prop}

theorem of {P' : Spot → Prop} (h : WalksTo T P exit p Q) (hP : ∀ c, P' c → P c) :
    WalksTo T P' exit p Q :=
  fun c before outer hc hl => h c before outer (hP c hc) hl

theorem on (h : WalksTo T Anywhere exit p Q) : WalksTo T P exit p Q := h.of fun _ _ => trivial

theorem mono {Q' : α → Spot → Prop} (h : WalksTo T P exit p Q) (hQ : ∀ x c, Q x c → Q' x c) :
    WalksTo T P exit p Q' :=
  fun c before outer hc hl => (h c before outer hc hl).mono fun x c' _ ⟨hb, ho, hx⟩ =>
    ⟨hb, ho, hQ x c' hx⟩

theorem any (h : WalksTo T P exit p Q) : Walks T P exit p := h.mono fun _ _ _ => trivial

theorem andThen (hp : WalksTo T P none p Q) (hf : ∀ x, WalksTo T (Q x) exit (f x) R) :
    WalksTo T P exit (p >>= f) R := by
  intro c before outer hc hl
  refine (hp c _ _ hc (.here _)).bind fun x c' _ ⟨hb, ho, hx⟩ => ?_
  obtain ⟨before', hl', hbefore⟩ := hl.resume hb ho
  exact (hf x c' before' outer hx hl').mono fun y c'' _ ⟨hb', ho', hy⟩ =>
    ⟨hbefore.trans hb', ho', hy⟩

theorem bind (hp : WalksTo T Anywhere none p Q) (hf : ∀ x, WalksTo T (Q x) exit (f x) R) :
    WalksTo T P exit (p >>= f) R :=
  hp.on.andThen hf

/-- What is stable is kept by a reader that keeps the level. -/
theorem stable {P' : Spot → Prop} (hP : Stable P) (h : Walks T P' none p) (hP' : ∀ c, P' c → P c) :
    WalksTo T P' none p fun _ => P := by
  intro c before outer hc hl
  cases hl
  exact (h c _ _ hc (.here _)).mono fun _ c' _ ⟨hb, ho, _⟩ => ⟨hb, ho, hP c c' (hP' c hc) ⟨hb, ho⟩⟩

theorem bindStable (hP : Stable P) (hp : Keeps T p) (hf : ∀ x, WalksTo T P exit (f x) R) :
    WalksTo T P exit (p >>= f) R :=
  andThen (stable hP hp.on fun _ hc => hc) hf

/-- The first reader leaves the level, the second stays outside of it. -/
theorem andOutside (hp : WalksTo T P (some mark) p Q) (hf : ∀ x, WalksTo T (Q x) none (f x) R) :
    WalksTo T P (some mark) (p >>= f) R := by
  intro c before outer hc hl
  refine (hp c before outer hc hl).bind fun x c' _ ⟨hb, ho, hx⟩ => ?_
  exact (hf x c' _ _ hx (.here _)).mono fun y c'' _ ⟨hb', ho', hy⟩ =>
    ⟨hb.trans hb', ho'.trans ho, hy⟩

theorem pure {x : α} (h : ∀ c, P c → Q x c) : WalksTo T P none (Pure.pure x) Q := by
  intro c before outer hc hl
  cases hl
  exact .pure ⟨List.suffix_refl _, rfl, h c hc⟩

theorem done {x : α} : Walks T P none (Pure.pure x) := .pure fun _ _ => trivial

theorem pureBind {x : α} (h : WalksTo T P exit (f x) R) :
    WalksTo T P exit (Pure.pure x >>= f) R := by
  rwa [pure_bind]

theorem unexpected {what : String} : WalksTo T P exit (unexpected what) Q :=
  fun _ _ _ _ _ => .unexpected

theorem outOfRounds : WalksTo T P exit outOfRounds Q := unexpected

theorem byCases {cond : Prop} [Decidable cond] {q : Parser α} (h : cond → WalksTo T P exit p Q)
    (h' : ¬ cond → WalksTo T P exit q Q) : WalksTo T P exit (if cond then p else q) Q := by
  split
  · exact h ‹_›
  · exact h' ‹_›

theorem ite {cond : Prop} [Decidable cond] {q : Parser α} (h : WalksTo T P exit p Q)
    (h' : WalksTo T P exit q Q) :
    WalksTo T P exit (if cond then p else q) Q :=
  byCases (fun _ => h) fun _ => h'

/-- What does not depend on the spot is known from there on. -/
theorem knowing (fact : Prop) (hfact : ∀ c, P c → fact) (h : fact → WalksTo T P exit p Q) :
    WalksTo T P exit p Q :=
  fun c before outer hc hl => h (hfact c hc) c before outer hc hl

/-- The tokens ahead are tokens of the text. -/
theorem within (h : WalksTo T (fun c => P c ∧ c.ahead <:+ T.inner) exit p Q) :
    WalksTo T P exit p Q :=
  fun c before outer hc hl s hs => h c before outer ⟨hc, hs.within⟩ hl s hs

/-- After a reader that takes no token. -/
theorem after {K : Spot → α → Prop} (hp : ∀ c, Goes T c p fun x c' => c' = c ∧ K c x)
    (hf : ∀ x, WalksTo T (fun c => P c ∧ K c x) exit (f x) R) : WalksTo T P exit (p >>= f) R := by
  intro c before outer hc hl
  refine (hp c).bind fun x c' _ ⟨hc', hx⟩ => ?_
  subst hc'
  exact hf x c' before outer ⟨hc, hx⟩ hl

theorem look {f : TokenKind → Parser β}
    (h : ∀ k, WalksTo T (fun c => P c ∧ c.front = k) exit (f k) R) :
    WalksTo T P exit (kind >>= f) R :=
  after (K := fun c k => c.front = k)
    (fun _ => Goes.kind.mono fun _ _ _ ⟨hc, hk⟩ => ⟨hc, hk.symm⟩) h

theorem when {check : Parser Bool} {b : TokenKind → Bool} {f : Bool → Parser β} (ha : Asks check b)
    (h : ∀ v, WalksTo T (fun c => P c ∧ b c.front = v) exit (f v) R) :
    WalksTo T P exit (check >>= f) R :=
  after (K := fun c v => b c.front = v) (fun _ => (Goes.test ha).mono fun _ _ _ ⟨hc, hv⟩ =>
    ⟨hc, hv.symm⟩) h

/-- After a reader that takes no token and whose result does not matter. -/
theorem still (hp : ∀ c, Goes T c p fun _ c' => c' = c) (hf : ∀ x, WalksTo T P exit (f x) R) :
    WalksTo T P exit (p >>= f) R :=
  after (K := fun _ _ => True) (fun c => (hp c).mono fun _ _ _ hc => ⟨hc, trivial⟩)
    fun x => (hf x).of fun _ hc => hc.1

theorem rounds {f : Nat → Parser β} (hf : ∀ n, WalksTo T P exit (f n) R) :
    WalksTo T P exit (rounds >>= f) R :=
  still (fun _ => Goes.rounds) hf

theorem text {f : String → Parser β} (hf : ∀ text, WalksTo T P exit (f text) R) :
    WalksTo T P exit (currentText >>= f) R :=
  still (fun _ => Goes.currentText.mono fun _ _ _ h => h.1) hf

theorem peek {f : TokenKind → Parser β} (hf : ∀ k, WalksTo T P exit (f k) R) :
    WalksTo T P exit (nextKind >>= f) R :=
  still (fun _ => Goes.nextKind.mono fun _ _ _ h => h.1) hf

theorem source {f : Source → Parser β} (hf : ∀ src, WalksTo T P exit (f src) R) :
    WalksTo T P exit (read >>= f) R :=
  still (fun _ => .still fun s hs => ⟨_, s, rfl, hs, rfl⟩) hf

/-! ### Taking tokens -/

theorem taking {f : Unit → Parser β} (hk : ∀ c, P c → c.front.isPlain = true)
    (hf : WalksTo T (Past P) exit (f ()) R) : WalksTo T P exit (advance >>= f) R := by
  intro c before outer hc hl
  refine (Goes.take (reads_plain (hk c hc))).bind fun _ c' _ ⟨hplace, t, hahead⟩ => ?_
  obtain ⟨before', hl', hbefore⟩ := hl.push c.front
  exact (hf c' before' outer ⟨c, t, hc, hplace, hahead⟩ (hplace ▸ hl')).mono
    fun y c'' _ ⟨hb, ho, hy⟩ => ⟨hbefore.trans hb, ho, hy⟩

theorem take {f : Unit → Parser β} (hk : k.isPlain = true) (hf : WalksTo T Anywhere exit (f ()) R) :
    WalksTo T (fun c => P c ∧ c.front = k) exit (advance >>= f) R :=
  taking (fun _ hc => hc.2 ▸ hk) hf.on

theorem opening {f : Unit → Parser β} {closing : Symbol} (hk : k.bracket? = some (.opens closing))
    (hf : WalksTo T (Opened P closing) (some closing) (f ()) R) :
    WalksTo T (fun c => P c ∧ c.front = k) none (advance >>= f) R := by
  intro c before outer ⟨hc, hfront⟩ hl
  cases hl
  refine (Goes.take (reads_opening _ (hfront ▸ hk))).bind fun _ c' _ ⟨hplace, _⟩ => ?_
  exact hf c' _ _ ⟨c, hc, hplace⟩ (.past ⟨closing, c.place.before⟩ (by rw [hplace]; rfl))

theorem expectOpening {f : Unit → Parser β} {closing : Symbol}
    (hmark : (TokenKind.symbol mark).bracket? = some (.opens closing))
    (hf : WalksTo T (Opened (fun c => P c ∧ c.front = .symbol mark) closing) (some closing)
      (f ()) R) :
    WalksTo T P none (expect mark >>= f) R := by
  intro c before outer hc hl
  cases hl
  refine (Goes.expect fun hfront => reads_opening _ (hfront ▸ hmark)).bind
    fun _ c' _ ⟨hfront, hplace⟩ => ?_
  exact hf c' _ _ ⟨c, ⟨hc, hfront⟩, hplace⟩ (.past ⟨closing, c.place.before⟩ (by rw [hplace]; rfl))

theorem eatOpening {f : Bool → Parser β} {closing : Symbol}
    (hmark : (TokenKind.symbol mark).bracket? = some (.opens closing))
    (hyes : WalksTo T (Opened (fun c => P c ∧ c.front = .symbol mark) closing) (some closing)
      (f true) R)
    (hno : WalksTo T P none (f false) R) : WalksTo T P none (eat mark >>= f) R := by
  intro c before outer hc hl
  cases hl
  refine (Goes.takeIf (isAt_asks mark) fun hfront =>
    reads_opening _ (beq_iff_eq.mp hfront ▸ hmark)).bind
    fun v c' _ hv => ?_
  rcases hv with ⟨rfl, hfront, hplace, _⟩ | ⟨rfl, _, rfl⟩
  · exact hyes c' _ _ ⟨c, ⟨hc, beq_iff_eq.mp hfront⟩, hplace⟩
      (.past ⟨closing, c.place.before⟩ (by rw [hplace]; rfl))
  · exact hno c' _ _ hc (.here _)

/-- Past the mark that closes the level. -/
theorem closingOn {f : Unit → Parser β}
    (hmark : (TokenKind.symbol mark).bracket? = some (.closes mark))
    (hf : WalksTo T (Closed P mark) none (f ()) R) :
    WalksTo T P (some mark) (expect mark >>= f) R := by
  intro c before outer hc hl
  refine (Goes.expect fun hfront => reads_closing _ (hfront ▸ hmark) hl.level).bind
    fun _ c' _ ⟨hfront, hplace⟩ => ?_
  rw [hfront] at hplace
  refine (hf c' _ _ ⟨c, before, outer, hc, hl.level, hplace⟩ (.here _)).mono
    fun y c'' _ ⟨hb, ho, hy⟩ => ?_
  rw [hplace] at hb ho
  exact ⟨(List.suffix_cons _ _).trans hb, ho, hy⟩

theorem closing {f : Unit → Parser β}
    (hmark : (TokenKind.symbol mark).bracket? = some (.closes mark))
    (hf : WalksTo T Anywhere none (f ()) R) : WalksTo T P (some mark) (expect mark >>= f) R :=
  closingOn hmark hf.on

section Tests

variable {check : Parser Bool} {b : TokenKind → Bool}

theorem whenTaken {f : Bool → Parser β} (ha : Asks check b)
    (hb : ∀ k, b k = true → k.isPlain = true)
    (hyes : WalksTo T (Past fun c => P c ∧ b c.front = true) exit (f true) R)
    (hno : WalksTo T (fun c => P c ∧ b c.front = false) exit (f false) R) :
    WalksTo T P exit (takeIf check >>= f) R := by
  intro c before outer hc hl
  refine (Goes.takeIf ha fun hfront => reads_plain (hb _ hfront)).bind fun v c' _ hv => ?_
  rcases hv with ⟨rfl, hfront, hplace, t, hahead⟩ | ⟨rfl, hfront, rfl⟩
  · obtain ⟨before', hl', hbefore⟩ := hl.push c.front
    exact (hyes c' before' outer ⟨c, t, ⟨hc, hfront⟩, hplace, hahead⟩ (hplace ▸ hl')).mono
      fun y c'' _ ⟨hb', ho, hy⟩ => ⟨hbefore.trans hb', ho, hy⟩
  · exact hno c' before outer ⟨hc, hfront⟩ hl

theorem takeIfTo {Q' : Bool → Spot → Prop} (ha : Asks check b)
    (hb : ∀ k, b k = true → k.isPlain = true)
    (hyes : ∀ c, Past (fun c => P c ∧ b c.front = true) c → Q' true c)
    (hno : ∀ c, P c ∧ b c.front = false → Q' false c) :
    WalksTo T P none (takeIf check) Q' := by
  have h : WalksTo T P none (Parser.takeIf check >>= Pure.pure) Q' :=
    whenTaken ha hb (.pure hyes) (.pure hno)
  rwa [bind_pure] at h

theorem takeIf (ha : Asks check b) (hb : ∀ k, b k = true → k.isPlain = true) :
    Walks T P none (takeIf check) :=
  takeIfTo ha hb (fun _ _ => trivial) fun _ _ => trivial

end Tests

end WalksTo

/-! ## Readers of single tokens -/

theorem isWord_plain {word : String} (h : k.isWord word = true) : k.isPlain = true := by
  cases k <;> first | rfl | cases h

theorem anyWord_plain {words : List String} (h : words.any k.isWord = true) : k.isPlain = true := by
  obtain ⟨_, _, hword⟩ := List.any_eq_true.mp h
  exact isWord_plain hword

theorem eat_keeps (h : (TokenKind.symbol mark).isPlain = true) : Keeps T (eat mark) :=
  .takeIf (isAt_asks mark) fun _ hk => beq_iff_eq.mp hk ▸ h

theorem keyword_plain {word : Keyword} : (k == .keyword word) = true → k.isPlain = true :=
  fun h => beq_iff_eq.mp h ▸ rfl

theorem eatKeyword_keeps (word : Keyword) : Keeps T (eatKeyword word) :=
  .takeIf (isAtKeyword_asks word) fun _ => keyword_plain

theorem eatWord_keeps (word : String) : Keeps T (eatWord word) :=
  .takeIf (isAtWord_asks word) fun _ => isWord_plain

theorem takeAnyWord_keeps (words : List String) : Keeps T (takeIf (isAtAnyWord words)) :=
  .takeIf (isAtAnyWord_asks words) fun _ => anyWord_plain

theorem expect_keeps (h : (TokenKind.symbol mark).isPlain = true) : Keeps T (expect mark) :=
  .bind (eat_keeps h) fun _ => .ite .done .unexpected

theorem expectKeyword_keeps (word : Keyword) : Keeps T (expectKeyword word) :=
  .bind (eatKeyword_keeps word) fun _ => .ite .done .unexpected

theorem expectWord_keeps (words : List String) : Keeps T (expectWord words) :=
  .bind (takeAnyWord_keeps words) fun _ => .ite .done .unexpected

theorem expectKeyword_past (word : Keyword) :
    WalksTo T P none (expectKeyword word) fun _ => Past fun c => P c ∧ c.front = .keyword word := by
  refine .whenTaken (isAtKeyword_asks word) (fun _ => keyword_plain) (.pure ?_) .unexpected
  rintro c ⟨c', t, ⟨hc', hfront⟩, h⟩
  exact ⟨c', t, ⟨hc', beq_iff_eq.mp hfront⟩, h⟩

/-- After a name at a spot where `P` holds. -/
def Named (T : Tape) (P : Spot → Prop) (name : String) (c' : Spot) : Prop :=
  ∃ c t, P c ∧ c'.place = c.place.push c.front ∧ c.ahead = t :: c'.ahead ∧ c.front.isName = true ∧
    (c.front = .quotedIdentifier name ∨ t.word? T.source.text = some name)

theorem Named.past {name : String} (h : Named T P name c) :
    Past (fun c => P c ∧ c.front.isName = true) c := by
  obtain ⟨c₀, t, hc, hplace, hahead, hname, _⟩ := h
  exact ⟨c₀, t, ⟨hc, hname⟩, hplace, hahead⟩

theorem identifier_walks : WalksTo T P none identifier (Named T P) := by
  refine .look fun k => ?_
  split
  · refine .taking (fun c hc => hc.2 ▸ rfl) (.pure ?_)
    rintro c' ⟨c, t, ⟨hc, hfront⟩, hplace, hahead⟩
    refine ⟨c, t, hc, hplace, hahead, hfront ▸ rfl, .inr ?_⟩
    rw [Token.word?, ← Spot.front_cons hahead, hfront]
  · refine .taking (fun c hc => hc.2 ▸ rfl) (.pure ?_)
    rintro c' ⟨c, t, ⟨hc, hfront⟩, hplace, hahead⟩
    exact ⟨c, t, hc, hplace, hahead, hfront ▸ rfl, .inl hfront⟩
  · refine .byCases (fun hname => ?_) fun _ => .unexpected
    refine .after (fun _ => Goes.currentText) fun text =>
      .taking (fun c hc => hc.1.2 ▸ rfl) (.pure ?_)
    rintro c' ⟨c, t, ⟨⟨hc, hfront⟩, htext⟩, hplace, hahead⟩
    refine ⟨c, t, hc, hplace, hahead, hfront ▸ hname, .inr ?_⟩
    rw [Token.word?, ← Spot.front_cons hahead, hfront, htext t (by rw [hahead]; rfl)]
  · exact .unexpected

theorem identifier_keeps : Keeps T identifier := identifier_walks.any

/-! ## Loops -/

section Loops

variable {start : Parser Bool} {item : Parser α}

theorem many_walks {Q : Spot → Prop} (hstart : WalksTo T P none start fun v c => cond v (Q c) (P c))
    (hitem : WalksTo T Q none item fun _ => P) : WalksTo T P none (many start item) fun _ => P := by
  intro c before outer hc hl
  cases hl
  have hmany : Goes T c (many start item) fun _ c' => SameLevel c c' ∧ P c' := by
    refine Goes.many (I := fun c' => SameLevel c c' ∧ P c')
      (J := fun c' => SameLevel c c' ∧ Q c') ?_ ?_ ⟨⟨List.suffix_refl _, rfl⟩, hc⟩
    · rintro c₁ ⟨⟨hb, ho⟩, hc₁⟩
      refine (hstart c₁ _ _ hc₁ (.here _)).mono fun v c₂ _ ⟨hb', ho', hv⟩ => ?_
      cases v <;> exact ⟨⟨hb.trans hb', ho'.trans ho⟩, hv⟩
    · rintro c₁ ⟨⟨hb, ho⟩, hc₁⟩
      exact (hitem c₁ _ _ hc₁ (.here _)).mono fun _ c₂ _ ⟨hb', ho', hc₂⟩ =>
        ⟨⟨hb.trans hb', ho'.trans ho⟩, hc₂⟩
  exact hmany.mono fun _ c' _ ⟨⟨hb, ho⟩, hc'⟩ => ⟨hb, ho, hc'⟩

theorem many_keeps (hstart : Keeps T start) (hitem : Keeps T item) : Keeps T (many start item) :=
  many_walks (Q := Anywhere) (hstart.mono fun v _ _ => by cases v <;> trivial) hitem

/-- Items each of which closes the bracket that starts it. -/
theorem manyOpening {closing : Symbol}
    (hmark : (TokenKind.symbol mark).bracket? = some (.opens closing))
    (hitem : Shuts T closing item) : Keeps T (many (eat mark) item) := by
  intro c before outer _ hl
  cases hl
  have hmany : Goes T c (many (eat mark) item) fun _ => SameLevel c := by
    refine Goes.many (I := SameLevel c) (J := fun c' => ∃ before, c.place.before <:+ before ∧
      c'.place.outer = ⟨closing, before⟩ :: c.place.outer) ?_ ?_ ⟨List.suffix_refl _, rfl⟩
    · rintro c₁ ⟨hb, ho⟩
      refine (Goes.takeIf (isAt_asks mark) fun hfront =>
        reads_opening _ (beq_iff_eq.mp hfront ▸ hmark)).mono
        fun v c₂ _ hv => ?_
      rcases hv with ⟨rfl, _, hplace, _⟩ | ⟨rfl, _, rfl⟩
      · exact ⟨c₁.place.before, hb, by rw [hplace, ← ho]; rfl⟩
      · exact ⟨hb, ho⟩
    · rintro c₁ ⟨before, hb, ho⟩
      exact (hitem c₁ before _ trivial (.past ⟨closing, before⟩ ho)).mono
        fun _ c₂ _ ⟨hb', ho', _⟩ => ⟨hb.trans hb', ho'⟩
  exact hmany.mono fun _ c' _ ⟨hb, ho⟩ => ⟨hb, ho, trivial⟩

/-- Items after which a comma leads to the next one. -/
theorem commaSeparated_walks (hitem : Walks T P none item)
    (hcomma : ∀ c c', P c → SameLevel c c' → ItemStart c'.place.before → P c') :
    Walks T P none (commaSeparated item) := by
  intro c before outer hc hl
  let Q : Spot → Prop := fun c' => ∃ c, P c ∧ SameLevel c c'
  have hitem' : WalksTo T P none item fun _ => Q := by
    intro c before outer hc hl
    cases hl
    exact (hitem c _ _ hc (.here _)).mono fun _ c' _ ⟨hb, ho, _⟩ => ⟨hb, ho, c, hc, hb, ho⟩
  have heat : WalksTo T Q none (eat .comma) fun v c => cond v (P c) (Q c) := by
    refine .takeIfTo (isAt_asks .comma) (fun _ hk => beq_iff_eq.mp hk ▸ rfl) ?_ fun _ h => h.1
    rintro c' ⟨c₁, _, ⟨⟨c₀, hc₀, hb, ho⟩, hfront⟩, hplace, _⟩
    refine hcomma c₀ c' hc₀ ?_ ?_
    · rw [SameLevel, hplace]
      exact ⟨hb.trans (List.suffix_cons _ _), ho⟩
    · rw [hplace, Place.push, beq_iff_eq.mp hfront]
      exact .later _
  exact WalksTo.andThen hitem' (fun _ => (many_walks heat hitem').andThen fun _ => .done) c before
    outer hc hl

theorem commaSeparated_keeps (hitem : Keeps T item) : Keeps T (commaSeparated item) :=
  commaSeparated_walks hitem fun _ _ _ _ _ => trivial

end Loops

theorem dottedName_keeps : Keeps T dottedName :=
  .bind identifier_keeps fun _ => .bind (many_keeps (eat_keeps rfl) identifier_keeps) fun _ => .done

theorem parenthesizedNames_keeps : Keeps T parenthesizedNames :=
  .expectOpening rfl <| .bind (commaSeparated_keeps identifier_keeps) fun _ => .closing rfl .done

/-! ## Notes and verbs -/

section Notes

variable {f : Unit → Parser β} {R : β → Spot → Prop}

theorem WalksTo.addTable {db : Option String} {table : String} (hf : WalksTo T P exit (f ()) R) :
    WalksTo T P exit (addTable db table >>= f) R :=
  .still (fun _ => .note (fun _ _ => rfl) fun _ => ⟨rfl, rfl⟩) fun _ => hf

theorem WalksTo.addColumn {table : Option String} {column : String}
    (hf : WalksTo T P exit (f ()) R) :
    WalksTo T P exit (addColumn table column >>= f) R :=
  .still (fun _ => .note (fun _ _ => rfl) fun _ => ⟨rfl, rfl⟩) fun _ => hf

theorem WalksTo.addAlias {aliasName table : String} (hf : WalksTo T P exit (f ()) R) :
    WalksTo T P exit (addAlias aliasName table >>= f) R :=
  .still (fun _ => .note (fun _ _ => rfl) fun _ => ⟨rfl, rfl⟩) fun _ => hf

theorem WalksTo.addCte {name : String} (hf : WalksTo T P exit (f ()) R) :
    WalksTo T P exit (addCte name >>= f) R :=
  .still (fun _ => .note (fun _ _ => rfl) fun _ => ⟨rfl, rfl⟩) fun _ => hf

theorem WalksTo.setVerb {verb : String} (hf : WalksTo T P exit (f ()) R) :
    WalksTo T P exit (setVerb verb >>= f) R :=
  .still (fun _ => .note (fun _ _ => rfl) fun _ => ⟨rfl, rfl⟩) fun _ => hf

end Notes

theorem WalksTo.withVerb {verb : String} {p : Parser α} {Q : α → Spot → Prop}
    (h : WalksTo T P exit p Q) :
    WalksTo T P exit (withVerb verb p) Q :=
  fun c before outer hc hl => (h c before outer hc hl).withVerb

/-! ## Text up to a parenthesis -/

theorem skipToParenthesis_goes (n : Nat)
    (h : ∀ k, k ≠ .symbol .rightParen →
      ∀ unread, Unread ⟨c.place.before, c.place.outer, unread⟩ k) :
    Goes T c (skipWithin isAtParenthesisOrEnd n) fun _ c' =>
      c'.place.before = c.place.before ∧ c'.place.outer = c.place.outer := by
  induction n generalizing c with
  | zero => exact .outOfRounds
  | succ n ih =>
    refine (Goes.test isAtParenthesisOrEnd_asks).bind fun v c₁ _ ⟨hc₁, hv⟩ => ?_
    subst hc₁ hv
    split
    · exact .pure ⟨rfl, rfl⟩
    · rename_i hfront
      have hne : c₁.front ≠ .symbol .rightParen ∧ c₁.front ≠ .eof := by simpa using hfront
      refine (Goes.pass fun k hk _ => h k (hk ▸ hne.1) c₁.place.afterUnread).bind fun _ c₂ _ hc₂ =>
        ?_
      rcases hc₂ with ⟨_, heof⟩ | hplace
      · exact absurd heof hne.2
      · refine (ih ?_).mono fun _ c₃ _ ⟨hb, ho⟩ => ?_
        · rw [hplace]
          exact h
        · rw [hb, ho, hplace]
          exact ⟨rfl, rfl⟩

/-- Text that starts with a word after which nothing is read up to a parenthesis. -/
theorem textToParenthesis_walks (hfront : ∀ c, P c → c.front.isPlain = true)
    (h : ∀ c, P c → ∀ k, k ≠ .symbol .rightParen → ∀ unread,
      Unread ⟨c.front :: c.place.before, c.place.outer, unread⟩ k) : Walks T P none
        textToParenthesis := by
  intro c before outer hc hl
  cases hl
  have hskip : Goes T c (advance >>= fun _ => rounds >>=
      skipWithin isAtParenthesisOrEnd) fun _ c' =>
      c'.place.before = c.front :: c.place.before ∧ c'.place.outer = c.place.outer := by
    refine (Goes.take (reads_plain (hfront c hc))).bind fun _ c₁ _ ⟨hplace, _⟩ =>
      Goes.rounds.bind fun n c₂ _ hc₂ => ?_
    subst hc₂
    refine (skipToParenthesis_goes n ?_).mono fun _ c₃ _ ⟨hb, ho⟩ => ?_
    · rw [hplace]
      exact h c hc
    · rw [hb, ho, hplace]
      exact ⟨rfl, rfl⟩
  refine hskip.written.mono fun _ c' _ ⟨hb, ho⟩ => ⟨?_, ho, trivial⟩
  rw [hb]
  exact List.suffix_cons _ _

end Parser

end SqlWeave
