import SqlWeave.Proofs.Parser.Lockstep
import SqlWeave.Proofs.Parser.Place

/-! Walking a reader over the tokens of a text. From the spot where it starts it gets to a later
one, passing the tokens between them as their places allow and reading no faulty one, or it fails
and blames a token of the text. There is a rule for each way readers are put together, so that a
reader is walked by going through its definition once. -/

namespace SqlWeave

/-- The word a token is read as. -/
def Token.word? (text : String) (t : Token) : Option String :=
  match t.kind with
  | .identifier name => some name
  | .keyword _ => some (Token.slice text t.span)
  | _ => none

/-- The bracket after the word MAP. -/
structure OpensMap (text : String) (before : List Token) (t : Token) : Prop where
  bracket : t.kind = .symbol .leftBracket
  word : ∃ name, before.getLast? = some name ∧ (name.word? text).map Text.asciiUpper = some "MAP"

/-- The faults that a token may be blamed for, after the tokens before it. -/
inductive Blames (text : String) (before : List Token) (t : Token) : ParseFault → Prop
  | expected (what : String) : Blames text before t (.expected what t.kind)
  | lexical {fault : LexicalFault} (h : t.kind = .fault fault) :
      Blames text before t (.lexical fault)
  | oddMapItems (h : OpensMap text before t) : Blames text before t .oddMapItems

namespace Parser

open Token (tokenize)

/-- The tokens of a text, of which none but the last is the end of input. -/
structure Tape where
  source : Source
  inner : List Token
  last : Token
  inner_kind : ∀ t ∈ inner, t.kind ≠ .eof
  last_kind : last.kind = .eof

theorem tokensOf_kind (d : Dialect) (text : String) : ∀ t ∈ tokensOf d text, t.kind ≠ .eof :=
  fun t ht => ((tokenize_split d text).2 t ht).1

theorem endOf_kind (text : String) : (endOf text).kind = .eof := rfl

def Tape.of (d : Dialect) (text : String) : Tape where
  source := ⟨text, d⟩
  inner := tokensOf d text
  last := endOf text
  inner_kind := tokensOf_kind d text
  last_kind := endOf_kind text

def Tape.tokens (T : Tape) : List Token := T.inner ++ [T.last]

theorem Tape.of_tokens (d : Dialect) (text : String) : (Tape.of d text).tokens = tokenize d text :=
  (tokenize_split d text).1.symm

def Tape.Blamed (T : Tape) (e : ParseError) : Prop :=
  ∃ before t after, T.tokens = before ++ t :: after ∧ t.span = e.span ∧
    Blames T.source.text before t e.fault

/-- A place and the tokens from there on. -/
structure Spot where
  place : Place
  ahead : List Token

namespace Spot

def front (c : Spot) : TokenKind := (c.ahead.head?.map Token.kind).getD .eof

theorem front_cons {c : Spot} {t : Token} {ts : List Token} (h : c.ahead = t :: ts) :
    c.front = t.kind := by
  rw [front, h]
  rfl

theorem front_nil {c : Spot} (h : c.ahead = []) : c.front = .eof := by
  rw [front, h]
  rfl

/-- The current token can be read, and then the reader is at `place`. -/
structure Reads (c : Spot) (place : Place) : Prop where
  inner : c.front ≠ .eof
  sound : ∀ fault, c.front ≠ .fault fault
  read : c.place.read? c.front = some place

/-- From one spot to another no faulty token is read. -/
def Reaches (c c' : Spot) : Prop :=
  ∃ ts read, c.ahead = ts ++ c'.ahead ∧ Passes c.place (ts.map Token.kind) read c'.place ∧
    ∀ fault, TokenKind.fault fault ∉ read

theorem Reaches.refl (c : Spot) : c.Reaches c := ⟨[], [], rfl, .done _, fun _ => List.not_mem_nil⟩

theorem Reaches.trans {a b c : Spot} (h : a.Reaches b) (h' : b.Reaches c) : a.Reaches c := by
  obtain ⟨ts, read, hahead, hpass, hsound⟩ := h
  obtain ⟨ts', read', hahead', hpass', hsound'⟩ := h'
  refine ⟨ts ++ ts', read ++ read', ?_, ?_, fun fault hmem => ?_⟩
  · rw [hahead, hahead', List.append_assoc]
  · rw [List.map_append]
    exact hpass.append hpass'
  · exact (List.mem_append.mp hmem).elim (hsound fault) (hsound' fault)

end Spot

/-- The reader stands at a spot. -/
structure Tape.At (T : Tape) (s : ParserState) (c : Spot) : Prop where
  tokens : s.current :: s.rest = c.ahead ++ [T.last]
  within : c.ahead <:+ T.inner

variable {α β : Type} {T : Tape} {s : ParserState} {c : Spot}

namespace Tape.At

theorem kind (h : T.At s c) : s.current.kind = c.front := by
  have htokens := h.tokens
  cases hahead : c.ahead with
  | nil =>
    rw [hahead] at htokens
    injection htokens with hcurrent
    rw [hcurrent, T.last_kind, Spot.front_nil hahead]
  | cons t ts =>
    rw [hahead] at htokens
    injection htokens with hcurrent
    rw [hcurrent, Spot.front_cons hahead]

theorem split (h : T.At s c) : ∃ before, T.tokens = before ++ s.current :: s.rest := by
  obtain ⟨before, hbefore⟩ := h.within
  exact ⟨before, by rw [h.tokens, ← List.append_assoc, hbefore, Tape.tokens]⟩

theorem blamed (h : T.At s c) (what : String) :
    T.Blamed (ParseError.unexpected what s.current) := by
  obtain ⟨before, hbefore⟩ := h.split
  refine ⟨before, s.current, s.rest, hbefore, ?_⟩
  unfold ParseError.unexpected
  split
  · exact ⟨rfl, .lexical ‹_›⟩
  · exact ⟨rfl, .expected what⟩

/-- Over a token of the text. -/
theorem advance {t : Token} {ts : List Token} {place : Place} (h : T.At s c)
    (hahead : c.ahead = t :: ts) :
    T.At s.advance ⟨place, ts⟩ := by
  have htokens := h.tokens
  rw [hahead] at htokens
  injection htokens with _ hrest
  have hne : s.rest ≠ [] := by
    rw [hrest]
    exact List.append_ne_nil_of_right_ne_nil ts (List.cons_ne_nil _ _)
  exact ⟨(ParserState.advance_tokens hne).trans hrest,
    (List.suffix_cons t ts).trans (hahead ▸ h.within)⟩

/-- At the end of input there is nothing to advance over. -/
theorem advance_end (h : T.At s c) (hahead : c.ahead = []) : T.At s.advance c := by
  have htokens := h.tokens
  rw [hahead] at htokens
  injection htokens with hcurrent hrest
  exact ⟨by rw [ParserState.advance, hrest, hahead, hcurrent]; rfl, h.within⟩

end Tape.At

/-- What becomes of a reader that started at `c`. -/
def Tape.Ends {α : Type} (T : Tape) (c : Spot) (Q : α → Spot → Prop) :
    Except ParseError (α × ParserState) → Prop
  | .ok (x, t) => ∃ c', T.At t c' ∧ c.Reaches c' ∧ Q x c'
  | .error e => T.Blamed e

def Goes {α : Type} (T : Tape) (c : Spot) (p : Parser α) (Q : α → Spot → Prop) : Prop :=
  ∀ s, T.At s c → T.Ends c Q (p T.source s)

variable {p : Parser α} {f : α → Parser β} {Q : α → Spot → Prop} {R : β → Spot → Prop}

namespace Goes

/-- What a reader does from a spot on, it does on the whole. -/
theorem from_reached {result : Except ParseError (α × ParserState)} {c' : Spot}
    (hreach : c.Reaches c') (h : T.Ends c' Q result) : T.Ends c Q result := by
  cases result with
  | error e => exact h
  | ok r =>
    obtain ⟨c'', ht, hreach', hx⟩ := h
    exact ⟨c'', ht, hreach.trans hreach', hx⟩

theorem bind (hp : Goes T c p Q) (hf : ∀ x c', c.Reaches c' → Q x c' → Goes T c' (f x) R) :
    Goes T c (p >>= f) R := by
  intro s hs
  have hrun := hp s hs
  rw [run_bind]
  cases hr : p T.source s with
  | error e =>
    rw [hr] at hrun
    exact hrun
  | ok r =>
    obtain ⟨x, t⟩ := r
    rw [hr] at hrun
    obtain ⟨c', ht, hreach, hx⟩ := hrun
    exact from_reached hreach (hf x c' hreach hx t ht)

theorem pure {x : α} (h : Q x c) : Goes T c (Pure.pure x) Q := fun _ hs => ⟨c, hs, .refl c, h⟩

theorem mono {Q' : α → Spot → Prop} (hp : Goes T c p Q)
    (h : ∀ x c', c.Reaches c' → Q x c' → Q' x c') :
    Goes T c p Q' := by
  have hbind : Goes T c (p >>= Pure.pure) Q' :=
    hp.bind fun x c' hreach hx => .pure (h x c' hreach hx)
  rwa [bind_pure] at hbind

theorem unexpected {what : String} : Goes T c (unexpected what) Q := fun _ hs => hs.blamed what

theorem outOfRounds : Goes T c outOfRounds Q := unexpected

/-- A reader that takes no token. -/
theorem still (h : ∀ s, T.At s c → ∃ x t, p T.source s = .ok (x, t) ∧ T.At t c ∧ Q x c) :
    Goes T c p Q := by
  intro s hs
  obtain ⟨x, t, hr, ht, hx⟩ := h s hs
  rw [hr]
  exact ⟨c, ht, .refl c, hx⟩

theorem kind : Goes T c kind fun k c' => c' = c ∧ k = c.front :=
  still fun s hs => ⟨s.current.kind, s, rfl, hs, rfl, hs.kind⟩

theorem test {check : Parser Bool} {b : TokenKind → Bool} (h : Asks check b) :
    Goes T c check fun v c' => c' = c ∧ v = b c.front :=
  still fun s hs => ⟨b s.current.kind, s, h _ s, hs, rfl, by rw [hs.kind]⟩

theorem nextKind : Goes T c nextKind fun k c' =>
    c' = c ∧ ∀ mark, k = .symbol mark → ∃ t t' ts, c.ahead = t :: t' :: ts ∧
      t'.kind = .symbol mark := by
  refine still fun s hs => ⟨_, s, returns_nextKind, hs, rfl, fun mark hk => ?_⟩
  have htokens := hs.tokens
  cases hrest : s.rest with
  | nil =>
    rw [hrest] at hk
    cases hk
  | cons t' ts' =>
    rw [hrest] at hk htokens
    have hkind : t'.kind = .symbol mark := hk
    rcases hahead : c.ahead with _ | ⟨t, _ | ⟨t'', ts⟩⟩ <;> rw [hahead] at htokens <;>
      injection htokens with _ htokens
    · cases htokens
    · injection htokens with hlast
      rw [hlast, T.last_kind] at hkind
      cases hkind
    · injection htokens with hnext
      exact ⟨t, t'', ts, rfl, hnext ▸ hkind⟩

theorem rounds : Goes T c rounds fun _ c' => c' = c :=
  still fun s hs => ⟨_, s, returns_rounds, hs, rfl⟩

theorem get : Goes T c get fun s c' => c' = c ∧ ∀ t, c.ahead.head? = some t → s.current = t := by
  refine still fun s hs => ⟨s, s, rfl, hs, rfl, fun t ht => ?_⟩
  obtain ⟨ts, hts⟩ := List.head?_eq_some_iff.mp ht
  have htokens := hs.tokens
  rw [hts] at htokens
  injection htokens

theorem currentText : Goes T c currentText fun text c' =>
    c' = c ∧ ∀ t, c.ahead.head? = some t → text = Token.slice T.source.text t.span := by
  refine get.bind fun s c' _ ⟨hc', hs⟩ => still fun s' hs' => ⟨_, s', rfl, hs', hc', fun t ht => ?_⟩
  rw [hs t ht]

/-- Over a token that is read. -/
theorem take {place : Place} (h : c.Reads place) :
    Goes T c advance fun _ c' => c'.place = place ∧ ∃ t, c.ahead = t :: c'.ahead := by
  obtain ⟨heof, hsound, hread⟩ := h
  intro s hs
  cases hahead : c.ahead with
  | nil => exact absurd (Spot.front_nil hahead) heof
  | cons t ts =>
    have hfront := (Spot.front_cons hahead).symm
    have hpass : Passes c.place [t.kind] [c.front] place := by
      rw [hfront]
      exact .read hread (.done _)
    refine ⟨⟨place, ts⟩, hs.advance hahead, ⟨[t], [c.front], hahead, hpass, fun fault hmem => ?_⟩,
      rfl, t, rfl⟩
    exact hsound fault (List.mem_singleton.mp hmem).symm

/-- Over a token that is not looked at; there is none at the end of input. -/
theorem pass (hunread : ∀ k, c.front = k → k ≠ .eof → Unread c.place k) :
    Goes T c advance fun _ c' => (c' = c ∧ c.front = .eof) ∨ c'.place = c.place.skip := by
  intro s hs
  cases hahead : c.ahead with
  | nil => exact ⟨c, hs.advance_end hahead, .refl c, .inl ⟨rfl, Spot.front_nil hahead⟩⟩
  | cons t ts =>
    have hfront := Spot.front_cons hahead
    have hmem : t ∈ T.inner := hs.within.mem (by simp [hahead])
    have hpass : Passes c.place [t.kind] [] c.place.skip :=
      .skip (hunread _ hfront (T.inner_kind t hmem)) (.done _)
    exact ⟨⟨c.place.skip, ts⟩, hs.advance hahead,
      ⟨[t], [], hahead, hpass, fun _ => List.not_mem_nil⟩, .inr rfl⟩

/-- What is noted, and under which verb, has nothing to do with the tokens. -/
theorem note {p : Parser Unit} {g : ParserState → ParserState}
    (hp : ∀ src s, p src s = .ok ((), g s))
    (hg : ∀ s, (g s).current = s.current ∧ (g s).rest = s.rest) :
    Goes T c p fun _ c' => c' = c := by
  refine still fun s hs => ⟨(), g s, hp _ s, ⟨?_, hs.within⟩, rfl⟩
  rw [(hg s).1, (hg s).2]
  exact hs.tokens

theorem withVerb {verb : String} (h : Goes T c p Q) : Goes T c (withVerb verb p) Q := by
  intro s hs
  have hrun := h { s with verb } ⟨hs.tokens, hs.within⟩
  rw [run_withVerb]
  cases hr : p T.source { s with verb } with
  | error e =>
    rw [hr] at hrun
    exact hrun
  | ok r =>
    rw [hr] at hrun
    obtain ⟨c', ht, hreach, hx⟩ := hrun
    exact ⟨c', ⟨ht.tokens, ht.within⟩, hreach, hx⟩

/-- What is read ahead may be read again. -/
theorem retrying {again : TokenKind → Bool} {q : Parser β} {r : α → TokenKind → Parser β}
    (hp : Goes T c p Q) (hq : Goes T c q R)
    (hr : ∀ x c', c.Reaches c' → Q x c' → Goes T c' (r x c'.front) R) :
    Goes T c (retrying p again q r) R := by
  intro s hs
  have hrun := hp s hs
  rw [run_retrying]
  cases hrp : p T.source s with
  | error e =>
    rw [hrp] at hrun
    exact hrun
  | ok result =>
    obtain ⟨x, u⟩ := result
    rw [hrp] at hrun
    obtain ⟨c', hu, hreach, hx⟩ := hrun
    show T.Ends c R (if again u.current.kind = true then _ else _)
    split
    · exact hq _ ⟨hs.tokens, hs.within⟩
    · rw [hu.kind]
      exact from_reached hreach (hr x c' hreach hx u hu)

theorem written {p : Parser Unit} {Q : Spot → Prop}
    (h : Goes T c (Parser.advance >>= fun _ => p) fun _ => Q) :
    Goes T c (written p) fun _ => Q := by
  intro s hs
  have hrun : T.Ends c (fun _ => Q) (p T.source s.advance) := h s hs
  rw [run_written]
  cases hr : p T.source s.advance with
  | error e =>
    rw [hr] at hrun
    exact hrun
  | ok r =>
    rw [hr] at hrun
    exact hrun

end Goes

end Parser

end SqlWeave
