import SqlWeave.Proofs.Parser.Statements
import SqlWeave.Proofs.Token.Pieces

/-! Reading a given sequence of pieces. `Reads p ks x rest` says that `p`, before the pieces `ks`,
reads `x` and leaves the pieces `rest`; where these stand in a text, and what has been noted by
then, does not matter. -/

namespace SqlWeave.Parser

open Token (Piece piece)

variable {α β : Type} {src : Source} {s t : ParserState} {k : Piece} {ks js rest : List Piece}

/-- The pieces that are left, before the end of input. -/
def Stands (src : Source) (s : ParserState) (ks : List Piece) : Prop :=
  (s.current :: s.rest).map (piece src.text) = ks ++ [.finish]

/-- The kind of the first piece; without one, the end of input. -/
def next : List Piece → TokenKind
  | [] => .eof
  | k :: _ => k.kind

@[simp] theorem next_nil : next [] = .eof := rfl

@[simp] theorem next_cons (k : Piece) (ks : List Piece) : next (k :: ks) = k.kind := rfl

@[simp] theorem Piece.word_kind (k : Keyword) : (Piece.word k).kind = .keyword k := rfl

theorem next_append {ks : List Piece} (h : ks ≠ []) (rest : List Piece) :
    next (ks ++ rest) = next ks := by
  obtain ⟨k, ks, rfl⟩ := List.exists_cons_of_ne_nil h
  rfl

theorem Stands.kind (h : Stands src s ks) : s.current.kind = next ks := by
  cases ks with
  | nil => exact congrArg Piece.kind (List.cons.inj h).1
  | cons k ks => exact congrArg Piece.kind (List.cons.inj h).1

theorem Stands.nextKind (h : Stands src s ks) :
    (s.rest.head?.map Token.kind).getD .eof = next ks.tail := by
  cases ks with
  | nil =>
    rw [List.map_eq_nil_iff.mp (List.cons.inj h).2]
    rfl
  | cons k ks =>
    obtain ⟨t, ts, hrest⟩ : ∃ t ts, s.rest = t :: ts := by
      have hlength := congrArg List.length (List.cons.inj h).2
      simp only [List.length_map, List.append_eq, List.length_append,
        List.length_singleton] at hlength
      exact List.exists_cons_of_length_pos (by omega)
    have htail := (List.cons.inj h).2
    rw [hrest] at htail ⊢
    have hstands : Stands src { s with current := t, rest := ts } ks := htail
    exact hstands.kind

theorem Stands.rest_length (h : Stands src s ks) : s.rest.length = ks.length := by
  have hlength := congrArg List.length h
  simpa using hlength

theorem Stands.text (h : Stands src s (k :: ks)) : Token.slice src.text s.current.span = k.text :=
  congrArg Piece.text (List.cons.inj h).1

theorem Stands.advance (h : Stands src s (k :: ks)) : Stands src s.advance ks := by
  have htail : s.rest.map (piece src.text) = ks ++ [.finish] := (List.cons.inj h).2
  unfold Stands ParserState.advance
  cases hrest : s.rest with
  | nil =>
    rw [hrest] at htail
    cases ks <;> cases htail
  | cons t ts =>
    rw [hrest] at htail
    exact htail

/-- Before the pieces `ks` the reader gives `x` and comes to the pieces `rest`. -/
def Reads (p : Parser α) (ks : List Piece) (x : α) (rest : List Piece) : Prop :=
  ∀ src s, Stands src s ks → ∃ t, Returns p src s x t ∧ Stands src t rest

namespace Reads

variable {p q : Parser α} {x y : α}

theorem pure (x : α) : Reads (Pure.pure x) ks x ks := fun _ s h => ⟨s, rfl, h⟩

theorem bind {p : Parser α} {f : α → Parser β} {x : α} {y : β} (hp : Reads p ks x js)
    (hf : Reads (f x) js y rest) : Reads (p >>= f) ks y rest := by
  intro src s hs
  obtain ⟨u, hu, hstands⟩ := hp src s hs
  obtain ⟨t, ht, hrest⟩ := hf src u hstands
  exact ⟨t, hu.andThen ht, hrest⟩

/-- The value of a reader, put into another value. -/
theorem map {p : Parser α} {f : α → β} {x : α} (hp : Reads p ks x rest) :
    Reads (do return f (← p)) ks (f x) rest :=
  hp.bind (.pure _)

theorem pureBind {f : α → Parser β} {y : β} (h : Reads (f x) ks y rest) :
    Reads (Pure.pure x >>= f) ks y rest := by
  rwa [pure_bind]

theorem look {f : TokenKind → Parser β} {y : β} (h : Reads (f (next ks)) ks y rest) :
    Reads (kind >>= f) ks y rest := by
  intro src s hs
  obtain ⟨t, ht, hrest⟩ := h src s hs
  rw [← hs.kind] at ht
  exact ⟨t, returns_kind.andThen ht, hrest⟩

theorem peek {f : TokenKind → Parser β} {y : β} (h : Reads (f (next ks.tail)) ks y rest) :
    Reads (nextKind >>= f) ks y rest := by
  intro src s hs
  obtain ⟨t, ht, hrest⟩ := h src s hs
  rw [← hs.nextKind] at ht
  exact ⟨t, returns_nextKind.andThen ht, hrest⟩

theorem text {f : String → Parser β} {y : β} (h : Reads (f k.text) (k :: ks) y rest) :
    Reads (currentText >>= f) (k :: ks) y rest := by
  intro src s hs
  obtain ⟨t, ht, hrest⟩ := h src s hs
  rw [← hs.text] at ht
  exact ⟨t, returns_currentText.andThen ht, hrest⟩

theorem rounds {f : Nat → Parser β} {y : β} (h : Reads (f (ks.length + 1)) ks y rest) :
    Reads (rounds >>= f) ks y rest := by
  intro src s hs
  obtain ⟨t, ht, hrest⟩ := h src s hs
  rw [← hs.rest_length] at ht
  exact ⟨t, returns_rounds.andThen ht, hrest⟩

theorem advance : Reads advance (k :: ks) () ks := fun _ _ hs => ⟨_, returns_advance, hs.advance⟩

theorem step {f : Unit → Parser β} {y : β} (h : Reads (f ()) ks y rest) :
    Reads (Parser.advance >>= f) (k :: ks) y rest :=
  advance.bind h

theorem test {check : Parser Bool} {b : TokenKind → Bool} {f : Bool → Parser β} {y : β}
    (ht : Asks check b) (h : Reads (f (b (next ks))) ks y rest) :
    Reads (check >>= f) ks y rest := by
  intro src s hs
  obtain ⟨t, hreturns, hrest⟩ := h src s hs
  rw [← hs.kind] at hreturns
  exact ⟨t, (ht.returned src s).andThen hreturns, hrest⟩

theorem isTrue {check : Parser Bool} {b : TokenKind → Bool} (ht : Asks check b)
    (hb : b (next ks) = true) (h : Reads p ks x rest) :
    Reads (check >>= fun v => if v then p else q) ks x rest := by
  refine .test ht ?_
  rw [hb]
  exact h

theorem isFalse {check : Parser Bool} {b : TokenKind → Bool} (ht : Asks check b)
    (hb : b (next ks) = false) (h : Reads q ks x rest) :
    Reads (check >>= fun v => if v then p else q) ks x rest := by
  refine .test ht ?_
  rw [hb]
  exact h

theorem takes {check : Parser Bool} {b : TokenKind → Bool} (ht : Asks check b)
    (hb : b k.kind = true) :
    Reads (takeIf check) (k :: ks) true ks := by
  intro src s hs
  exact ⟨_, takeIf_takes ht (by rw [hs.kind]; exact hb), hs.advance⟩

theorem stops {check : Parser Bool} {b : TokenKind → Bool} (ht : Asks check b)
    (hb : b (next ks) = false) :
    Reads (takeIf check) ks false ks := by
  intro src s hs
  exact ⟨s, takeIf_stops ht (by rw [hs.kind]; exact hb), hs⟩

/-- The branch behind a token that is there. -/
theorem taken {check : Parser Bool} {b : TokenKind → Bool} (ht : Asks check b)
    (hb : b k.kind = true) (h : Reads p ks x rest) :
    Reads (takeIf check >>= fun v => if v then p else q) (k :: ks) x rest :=
  (takes ht hb).bind h

/-- The branch for a token that is not there. -/
theorem left {check : Parser Bool} {b : TokenKind → Bool} (ht : Asks check b)
    (hb : b (next ks) = false) (h : Reads q ks x rest) :
    Reads (takeIf check >>= fun v => if v then p else q) ks x rest :=
  (stops ht hb).bind h

theorem withVerb {verb : String} (h : Reads p ks x rest) : Reads (withVerb verb p) ks x rest := by
  intro src s hs
  obtain ⟨t, ht, hrest⟩ := h src { s with verb } hs
  exact ⟨_, returns_withVerb ht, hrest⟩

/-- What only notes something leaves the pieces as they are. -/
theorem noted {f : ParserState → ParserState} (hcurrent : ∀ s, (f s).current = s.current)
    (hrest : ∀ s, (f s).rest = s.rest) : Reads (modify f) ks () ks := by
  intro src s hs
  refine ⟨f s, rfl, ?_⟩
  unfold Stands
  rw [hcurrent, hrest]
  exact hs

end Reads

theorem addColumn_reads (table : Option String) (column : String) :
    Reads (addColumn table column) ks () ks :=
  .noted (fun _ => rfl) fun _ => rfl

theorem addAlias_reads (aliasName table : String) : Reads (addAlias aliasName table) ks () ks :=
  .noted (fun _ => rfl) fun _ => rfl

theorem addCte_reads (name : String) : Reads (addCte name) ks () ks :=
  .noted (fun _ => rfl) fun _ => rfl

/-! ## Marks, words and names -/

theorem expect_reads (mark : Symbol) (text : String) :
    Reads (expect mark) (⟨.symbol mark, text⟩ :: ks) () ks :=
  .taken (isAt_asks mark) (beq_self_eq_true _) (.pure ())

theorem expectKeyword_reads (k : Keyword) : Reads (expectKeyword k) (.word k :: ks) () ks :=
  .taken (isAtKeyword_asks k) (beq_self_eq_true _) (.pure ())

/-- The name that a piece spells, if it may be one. -/
def name? (k : Piece) : Option String :=
  match k.kind with
  | .identifier name | .quotedIdentifier name => some name
  | .keyword word => if word.isUnreserved then some k.text else none
  | _ => none

theorem identifier_reads {name : String} (h : name? k = some name) :
    Reads identifier (k :: ks) name ks := by
  refine .look ?_
  rw [next_cons]
  cases hk : k.kind with
  | identifier text =>
    obtain rfl : text = name := by simpa [name?, hk] using h
    exact .step (.pure _)
  | quotedIdentifier text =>
    obtain rfl : text = name := by simpa [name?, hk] using h
    exact .step (.pure _)
  | keyword word =>
    obtain ⟨hunreserved, rfl⟩ : word.isUnreserved = true ∧ k.text = name := by
      simpa [name?, hk] using h
    simp only [hunreserved, if_true]
    exact .text (.step (.pure _))
  | _ => simp [name?, hk] at h

/-! ## Lists -/

section Lists

variable {check : Parser Bool} {b : TokenKind → Bool} {item : Parser α} {mark : Piece}
  {spelling : α → List Piece}
  {x : α} {xs : List α}

theorem manyWithin_reads (ht : Asks check b) (hmark : b mark.kind = true)
    (hstop : b (next rest) = false)
    (hitem : ∀ x ∈ xs, ∀ more, next more = mark.kind ∨ next more = next rest →
      Reads item (spelling x ++ more) x more) {n : Nat} (hn : xs.length < n) :
    Reads (manyWithin (takeIf check) item n) (xs.flatMap (fun x => mark :: spelling x) ++ rest)
      xs rest := by
  induction xs generalizing n with
  | nil =>
    obtain ⟨n, rfl⟩ : ∃ m, n = m + 1 := ⟨n - 1, by omega⟩
    exact .left ht hstop (.pure _)
  | cons x xs ih =>
    obtain ⟨n, rfl⟩ : ∃ m, n = m + 1 := ⟨n - 1, by omega⟩
    rw [List.length_cons] at hn
    have hmore : next (xs.flatMap (fun x => mark :: spelling x) ++ rest) = mark.kind ∨
        next (xs.flatMap (fun x => mark :: spelling x) ++ rest) = next rest := by
      cases xs with
      | nil => exact .inr rfl
      | cons y ys => exact .inl rfl
    have htail := ih (fun y hy => hitem y (List.mem_cons_of_mem _ hy)) (n := n) (by omega)
    rw [List.flatMap_cons, List.cons_append, List.cons_append, List.append_assoc]
    exact .taken ht hmark ((hitem x List.mem_cons_self _ hmore).bind (htail.bind (.pure _)))

theorem length_le_flatMap (mark : Piece) (spelling : α → List Piece) (xs : List α) :
    xs.length ≤ (xs.flatMap fun x => mark :: spelling x).length := by
  induction xs with
  | nil => exact Nat.le_refl 0
  | cons x xs ih =>
    rw [List.flatMap_cons, List.length_append, List.length_cons, List.length_cons]
    omega

theorem length_lt_flatMap {x : α} (h : x ∈ xs) :
    (spelling x).length < (xs.flatMap fun x => mark :: spelling x).length := by
  obtain ⟨before, after, rfl⟩ := List.append_of_mem h
  simp only [List.flatMap_append, List.flatMap_cons, List.length_append, List.length_cons]
  omega

theorem many_reads (ht : Asks check b) (hmark : b mark.kind = true) (hstop : b (next rest) = false)
    (hitem : ∀ x ∈ xs, ∀ more, next more = mark.kind ∨ next more = next rest →
      Reads item (spelling x ++ more) x more) :
    Reads (many (takeIf check) item) (xs.flatMap (fun x => mark :: spelling x) ++ rest)
      xs rest := by
  refine .rounds (manyWithin_reads ht hmark hstop hitem ?_)
  have hlength := length_le_flatMap mark spelling xs
  rw [List.length_append]
  omega

/-- Items with a piece before each but the first. -/
theorem separated_reads (ht : Asks check b) (hmark : b mark.kind = true)
    (hstop : b (next rest) = false)
    (hitem : ∀ y ∈ x :: xs, ∀ more, next more = mark.kind ∨ next more = next rest →
      Reads item (spelling y ++ more) y more) :
    Reads (do let first ← item; return first :: (← many (takeIf check) item))
      (spelling x ++ (xs.flatMap (fun x => mark :: spelling x) ++ rest)) (x :: xs) rest := by
  have hmore := many_reads ht hmark hstop fun y hy => hitem y (List.mem_cons_of_mem _ hy)
  refine (hitem x List.mem_cons_self _ ?_).bind (hmore.bind (.pure _))
  cases xs with
  | nil => exact .inr rfl
  | cons y ys => exact .inl rfl

end Lists

end SqlWeave.Parser
