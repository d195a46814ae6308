import SqlWeave.Proofs.Parser.Returns

/-! How readers are put together. `Makes K post p` says that `p` is built from the primitive readers
and looks at the tokens' kinds and at the text under them, but not at where they stand, and that it
returns only what satisfies `post`, if every token is of a kind in `K`. A statement about every
reader is then an induction on how it is made, and the grammar has to be gone through once for all
of them. Where the result depends on where the reader stands, `shows` takes it from the runs of the
reader. -/

namespace SqlWeave.Parser

/-- A reader that stands after a token of the text goes on standing after one. -/
def Steady (p : Parser Unit) : Prop :=
  ∀ src s t, Returns p src s () t → s.previous.kind ≠ .eof → t.previous.kind ≠ .eof

/-- Reads ahead with `p`, and where the token after that asks for it goes back to read with `q`. -/
def retrying {α β : Type} (p : Parser α) (again : TokenKind → Bool) (q : Parser β)
    (r : α → TokenKind → Parser β) :
    Parser β := do
  let start ← get
  let x ← p
  let k ← kind
  if again k then
    rewind start
    q
  else r x k

/-- Blames the token it starts at, if what `p` reads is not as it should be. -/
def blaming {α β : Type} (p : Parser α) (result? : α → Option β)
    (fault : ParseFault) : Parser β := do
  let start := (← get).current.span
  match result? (← p) with
  | some y => return y
  | none => throw ⟨fault, start⟩

/-- Goes on with `p` where RETURNING stands and the dialect has it, else with `q`. -/
def whereReturning {α : Type} (p q : Parser α) : Parser α := do
  if (← isAtKeyword .RETURNING) && (← read).dialect.supportsReturning then p else q

/-- The reader has tokens of the text before it, and those of the text are of kinds in `K`. -/
structure OnText (K : TokenKind → Prop) (src : Source) (s : ParserState) : Prop where
  kinds : ∀ a ∈ Token.tokenize src.dialect src.text, K a.kind
  current : s.current ∈ Token.tokenize src.dialect src.text
  rest : ∀ a ∈ s.rest, a ∈ Token.tokenize src.dialect src.text
  suffix : s.current :: s.rest <:+ Token.tokenize src.dialect src.text
  previous : s.previous.kind ≠ .eof → s.previous ∈ Token.tokenize src.dialect src.text

inductive Makes (K : TokenKind → Prop) : {α : Type} → (α → Prop) → Parser α → Prop
  | pure {α : Type} {post : α → Prop} {x : α} (h : post x) : Makes K post (Pure.pure x)
  | andThen {α β : Type} {mid : α → Prop} {post : β → Prop} {p : Parser α} {f : α → Parser β}
      (hp : Makes K mid p) (hf : ∀ x, mid x → Makes K post (f x)) : Makes K post (p >>= f)
  | kind : Makes K K kind
  | nextKind : Makes K (fun _ => True) nextKind
  | rounds : Makes K (fun _ => True) rounds
  | currentText : Makes K (fun _ => True) currentText
  | advance : Makes K (fun _ => True) advance
  | unexpected {α : Type} {post : α → Prop} {what : String} : Makes K post (unexpected what)
  | note (change : String → References → References) :
      Makes K (fun _ => True) (modify fun s => { s with references := change s.verb s.references })
  | setVerb {verb : String} : Makes K (fun _ => True) (setVerb verb)
  | withVerb {α : Type} {post : α → Prop} {verb : String} {p : Parser α} (hp : Makes K post p) :
      Makes K post (withVerb verb p)
  | written {p : Parser Unit} (hp : Makes K (fun _ => True) p) (hsteady : Steady p) :
      Makes K (fun _ => True) (written p)
  | whereReturning {α : Type} {post : α → Prop} {p q : Parser α} (hp : Makes K post p)
      (hq : Makes K post q) :
      Makes K post (whereReturning p q)
  | blaming {α β : Type} {mid : α → Prop} {post : β → Prop} {p : Parser α} {result? : α → Option β}
      {fault : ParseFault} (hp : Makes K mid p) (h : ∀ x y, mid x → result? x = some y → post y) :
      Makes K post (blaming p result? fault)
  | retrying {α β : Type} {mid : α → Prop} {post : β → Prop} {p : Parser α}
      {again : TokenKind → Bool} {q : Parser β} {r : α → TokenKind → Parser β} (hp : Makes K mid p)
      (hq : Makes K post q) (hr : ∀ x k, mid x → K k → Makes K post (r x k)) :
      Makes K post (retrying p again q r)
  /-- What a run shows of the result, beyond what the reader is made of. -/
  | shows {α : Type} {mid post : α → Prop} {p : Parser α} (hp : Makes K mid p)
      (h : ∀ src s x t, OnText K src s → Returns p src s x t → mid x → post x) : Makes K post p

/-- A reader of whose result nothing has to be known. -/
class Control {α : Type} (p : Parser α) : Prop where
  makes : ∀ K, Makes K (fun _ => True) p

variable {K : TokenKind → Prop} {α β : Type} {post : α → Prop}

namespace Makes

theorem bind {post : β → Prop} {p : Parser α} {f : α → Parser β} [hp : Control p]
    (hf : ∀ x, Makes K post (f x)) :
    Makes K post (p >>= f) :=
  .andThen (hp.makes K) fun x _ => hf x

theorem ite {c : Prop} [Decidable c] {p q : Parser α} (hp : Makes K post p) (hq : Makes K post q) :
    Makes K post (if c then p else q) := by
  split
  · exact hp
  · exact hq

theorem outOfRounds : Makes K post outOfRounds := .unexpected

theorem pureBind {post : β → Prop} {x : α} {f : α → Parser β} (h : Makes K post (f x)) :
    Makes K post (Pure.pure x >>= f) := by
  rwa [pure_bind]

theorem mono {post' : α → Prop} {p : Parser α} (hp : Makes K post p) (h : ∀ x, post x → post' x) :
    Makes K post' p := by
  have hbind : Makes K post' (p >>= Pure.pure) := .andThen hp fun x hx => .pure (h x hx)
  rwa [bind_pure] at hbind

theorem pureNone : Makes K (fun x => ∀ y, x = some y → post y) (Pure.pure none) :=
  .pure fun _ he => by cases he

theorem pureSome {y : α} (h : post y) :
    Makes K (fun x => ∀ y, x = some y → post y) (Pure.pure (some y)) :=
  .pure fun _ he => Option.some.inj he ▸ h

theorem any {p : Parser α} (hp : Makes K post p) : Makes K (fun _ => True) p :=
  hp.mono fun _ _ => trivial

end Makes

/-! ## Primitive readers -/

instance : Control rounds := ⟨fun _ => .rounds⟩
instance : Control kind := ⟨fun _ => Makes.kind.any⟩
instance : Control nextKind := ⟨fun _ => .nextKind⟩
instance : Control currentText := ⟨fun _ => .currentText⟩
instance : Control advance := ⟨fun _ => .advance⟩
instance (x : α) : Control (Pure.pure x : Parser α) := ⟨fun _ => .pure trivial⟩
instance (verb : String) : Control (setVerb verb) := ⟨fun _ => .setVerb⟩
instance (db : Option String) (table : String) : Control (addTable db table) :=
  ⟨fun _ => .note fun verb r => r.addTable verb db table⟩
instance (table : Option String) (column : String) : Control (addColumn table column) :=
  ⟨fun _ => .note fun verb r => r.addColumn verb table column⟩
instance (aliasName table : String) : Control (addAlias aliasName table) :=
  ⟨fun _ => .note fun _ r => r.addAlias aliasName table⟩
instance (name : String) : Control (addCte name) := ⟨fun _ => .note fun _ r => r.addCte name⟩

instance {p : Parser α} {f : α → Parser β} [Control p] [hf : ∀ x, Control (f x)] :
    Control (p >>= f) :=
  ⟨fun K => .bind fun x => (hf x).makes K⟩

/-! ## Loops -/

section Loops

variable {start : Parser Bool} {item : Parser α}

theorem Makes.manyWithin [Control start] (hi : Makes K post item) (n : Nat) :
    Makes K (fun xs => ∀ x ∈ xs, post x) (manyWithin start item n) := by
  induction n with
  | zero => exact .outOfRounds
  | succ n ih =>
    refine .bind fun _ => .ite (.andThen hi fun x hx => .andThen ih fun xs hxs => .pure ?_)
      (.pure ?_)
    · exact List.forall_mem_cons.mpr ⟨hx, hxs⟩
    · exact List.forall_mem_nil _

theorem Makes.many [Control start] (hi : Makes K post item) :
    Makes K (fun xs => ∀ x ∈ xs, post x) (many start item) :=
  .bind fun n => .manyWithin hi n

end Loops

/-! ## Readers of single tokens -/

instance (mark : Symbol) : Control (isAt mark) := ⟨fun _ => .bind fun _ => .pure trivial⟩
instance (word : Keyword) : Control (isAtKeyword word) := ⟨fun _ => .bind fun _ => .pure trivial⟩
instance (word : String) : Control (isAtWord word) := ⟨fun _ => .bind fun _ => .pure trivial⟩
instance (words : List String) : Control (isAtAnyWord words) :=
  ⟨fun _ => .bind fun _ => .pure trivial⟩
instance : Control isAtQuery := ⟨fun _ => .bind fun _ => .pure trivial⟩
instance (check : Parser Bool) [Control check] : Control (takeIf check) :=
  ⟨fun _ => .bind fun _ => .ite (.bind fun _ => .pure trivial) (.pure trivial)⟩
instance (mark : Symbol) : Control (eat mark) := inferInstanceAs (Control (takeIf _))
instance (word : Keyword) : Control (eatKeyword word) := inferInstanceAs (Control (takeIf _))
instance (word : String) : Control (eatWord word) := inferInstanceAs (Control (takeIf _))
instance (mark : Symbol) : Control (expect mark) :=
  ⟨fun _ => .bind fun _ => .ite (.pure trivial) .unexpected⟩
instance (word : Keyword) : Control (expectKeyword word) :=
  ⟨fun _ => .bind fun _ => .ite (.pure trivial) .unexpected⟩
instance (words : List String) : Control (expectWord words) :=
  ⟨fun _ => .bind fun _ => .ite (.pure trivial) .unexpected⟩

instance : Control identifier where
  makes K := by
    refine .bind fun k => ?_
    split
    · exact .bind fun _ => .pure trivial
    · exact .bind fun _ => .pure trivial
    · exact .ite (.bind fun _ => .bind fun _ => .pure trivial) .unexpected
    · exact .unexpected

/-! ## Lists -/

theorem Makes.commaSeparated {item : Parser α} (hi : Makes K post item) :
    Makes K (fun xs => xs ≠ [] ∧ ∀ x ∈ xs, post x) (commaSeparated item) :=
  .andThen hi fun _ hx => .andThen (.many hi) fun _ hxs =>
    .pure ⟨List.cons_ne_nil _ _, List.forall_mem_cons.mpr ⟨hx, hxs⟩⟩

instance (xs : List α) (f : α → Parser PUnit) [hf : ∀ x, Control (f x)] : Control (xs.forM f) where
  makes K := by
    induction xs with
    | nil => exact .pure trivial
    | cons x xs ih => exact .bind fun _ => ih

instance (start : Parser Bool) (item : Parser α) [Control start] [hi : Control item] :
    Control (many start item) :=
  ⟨fun K => (Makes.many (hi.makes K)).any⟩

instance : Control dottedName := ⟨fun _ => .bind fun _ => .bind fun _ => .pure trivial⟩

theorem Makes.parenthesizedNames : Makes K (· ≠ []) parenthesizedNames :=
  .bind fun _ => .andThen (.commaSeparated (Control.makes K)) fun _ h => .bind fun _ => .pure h.1

instance : Control parenthesizedNames := ⟨fun _ => Makes.parenthesizedNames.any⟩

/-! ## Text as written -/

theorem advance_previous (s : ParserState) : s.advance.previous = s.current := by
  unfold ParserState.advance
  split <;> rfl

theorem expect_returns {mark : Symbol} {src : Source} {s t : ParserState} {x : Unit}
    (h : Returns (expect mark) src s x t) : s.current.kind = .symbol mark ∧ t = s.advance := by
  obtain ⟨b, u, hb, h⟩ := Returns.bind h
  obtain ⟨at_mark, v, hv, hb⟩ := Returns.bind hb
  cases hv
  split at hb
  · rename_i hmark
    obtain ⟨_, w, hw, hb⟩ := Returns.bind hb
    obtain rfl := advance_returns hw
    obtain ⟨rfl, rfl⟩ := Returns.pure hb
    exact ⟨by simpa using hmark, (Returns.pure h).2.symm⟩
  · obtain ⟨rfl, rfl⟩ := Returns.pure hb
    exact absurd h not_returns_unexpected

theorem steady_pure : Steady (Pure.pure ()) := by
  intro src s t h hs
  obtain ⟨-, rfl⟩ := Returns.pure h
  exact hs

/-- A token that is no end of input is taken. -/
theorem steady_advance {p : Parser Unit} (hp : Steady p) {src : Source} {s t : ParserState}
    (h : Returns (advance >>= fun _ => p) src s () t) (hs : s.current.kind ≠ .eof) :
    t.previous.kind ≠ .eof := by
  obtain ⟨_, u, hu, ht⟩ := Returns.bind h
  obtain rfl := advance_returns hu
  exact hp src _ t ht (by rwa [advance_previous])

instance : Control isAtParenthesisOrEnd := ⟨fun _ => .bind fun _ => .bind fun _ => .pure trivial⟩

instance (stop : Parser Bool) (n : Nat) [Control stop] : Control (skipWithin stop n) where
  makes K := by
    induction n with
    | zero => exact .outOfRounds
    | succ n ih => exact .bind fun _ => .ite (.pure trivial) (.bind fun _ => ih)

theorem isAtParenthesisOrEnd_returns {src : Source} {s t : ParserState} {b : Bool}
    (h : Returns isAtParenthesisOrEnd src s b t) : s = t ∧ (b = false → s.current.kind ≠ .eof) := by
  cases h
  refine ⟨rfl, fun hb => ?_⟩
  simpa using (Bool.or_eq_false_iff.mp hb).2

theorem skipToParenthesis_steady (n : Nat) : Steady (skipWithin isAtParenthesisOrEnd n) := by
  induction n with
  | zero => exact fun src s t h => absurd h not_returns_outOfRounds
  | succ n ih =>
    intro src s t h hs
    obtain ⟨b, u, hb, h⟩ := Returns.bind h
    obtain ⟨rfl, hend⟩ := isAtParenthesisOrEnd_returns hb
    cases b with
    | true =>
      obtain ⟨-, rfl⟩ := Returns.pure h
      exact hs
    | false => exact steady_advance ih h (hend rfl)

theorem Steady.rounds {f : Nat → Parser Unit} (h : ∀ n, Steady (f n)) : Steady (rounds >>= f) := by
  intro src s t hr hs
  obtain ⟨n, u, hn, hr⟩ := Returns.bind hr
  obtain ⟨-, rfl⟩ := rounds_returns hn
  exact h n src s t hr hs

instance : Control textToParenthesis :=
  ⟨fun _ => .written (.bind fun _ => (Control.makes _)) (.rounds skipToParenthesis_steady)⟩

end SqlWeave.Parser
