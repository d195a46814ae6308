import SqlWeave.Proofs.Parser.Returns
import SqlWeave.Proofs.Tree.Named

/-! What readers note. A reader notes the tables, columns and queries that the tree it returns
names, under the verb it is run with. `Notes` says so, and there is a rule for each way readers are
put together. Most readers note nothing at all; they are quiet. -/

namespace SqlWeave.Parser

open HasParts (parts)

variable {α β : Type} {p : Parser α} {f : α → Parser β}

/-! ## What is known of results -/

/-- Whatever the reader returns satisfies `post`. -/
def Ensures (post : α → Prop) (p : Parser α) : Prop := ∀ src s x t, Returns p src s x t → post x

theorem Ensures.pure {post : α → Prop} {x : α} (h : post x) : Ensures post (Pure.pure x) := by
  intro src s y t hr
  obtain ⟨rfl, -⟩ := Returns.pure hr
  exact h

theorem Ensures.andThen {K : α → Prop} {post : β → Prop} (hp : Ensures K p)
    (hf : ∀ x, K x → Ensures post (f x)) : Ensures post (p >>= f) := by
  intro src s y t hr
  obtain ⟨x, u, hx, hy⟩ := Returns.bind hr
  exact hf x (hp src s x u hx) src u y t hy

theorem Ensures.bind {post : β → Prop} (hf : ∀ x, Ensures post (f x)) : Ensures post (p >>= f) :=
  .andThen (K := fun _ => True) (fun _ _ _ _ _ => trivial) fun x _ => hf x

theorem Ensures.ite {c : Prop} [Decidable c] {post : α → Prop} {p q : Parser α}
    (hp : Ensures post p) (hq : Ensures post q) : Ensures post (if c then p else q) := by
  split
  · exact hp
  · exact hq

/-! ## Quiet readers -/

/-- Nothing is noted and the verb stays. -/
def Quiet (p : Parser α) : Prop :=
  ∀ src s x t, Returns p src s x t → t.verb = s.verb ∧ t.references.Has = s.references.Has

theorem Quiet.pure (x : α) : Quiet (Pure.pure x) := by
  intro src s y t h
  obtain ⟨-, rfl⟩ := Returns.pure h
  exact ⟨rfl, rfl⟩

theorem Quiet.bind (hp : Quiet p) (hf : ∀ x, Quiet (f x)) : Quiet (p >>= f) := by
  intro src s y t h
  obtain ⟨x, u, hx, hy⟩ := Returns.bind h
  obtain ⟨hv, ht⟩ := hp src s x u hx
  obtain ⟨hv', ht'⟩ := hf x src u y t hy
  exact ⟨hv'.trans hv, ht'.trans ht⟩

theorem Quiet.ite {c : Prop} [Decidable c] {p q : Parser α} (hp : Quiet p) (hq : Quiet q) :
    Quiet (if c then p else q) := by
  split
  · exact hp
  · exact hq

theorem Quiet.unexpected {what : String} : Quiet (unexpected what : Parser α) :=
  fun _ _ _ _ h => absurd h not_returns_unexpected

theorem Quiet.outOfRounds : Quiet (outOfRounds : Parser α) := .unexpected

theorem get_quiet : Quiet (get : Parser ParserState) := by
  intro src s x t h
  cases h
  exact ⟨rfl, rfl⟩

theorem read_quiet : Quiet (read : Parser Source) := by
  intro src s x t h
  cases h
  exact ⟨rfl, rfl⟩

theorem kind_quiet : Quiet kind := .bind get_quiet fun _ => .pure _

theorem nextKind_quiet : Quiet nextKind := .bind get_quiet fun _ => .pure _

theorem rounds_quiet : Quiet rounds := .bind get_quiet fun _ => .pure _

theorem sliceOf_quiet (span : Span) : Quiet (sliceOf span) := .bind read_quiet fun _ => .pure _

theorem currentText_quiet : Quiet currentText := .bind get_quiet fun _ => sliceOf_quiet _

theorem advance_quiet : Quiet advance := by
  intro src s x t h
  obtain rfl := advance_returns h
  unfold ParserState.advance
  split <;> exact ⟨rfl, rfl⟩

theorem isAt_quiet (mark : Symbol) : Quiet (isAt mark) := .bind kind_quiet fun _ => .pure _

theorem isAtKeyword_quiet (word : Keyword) : Quiet (isAtKeyword word) :=
  .bind kind_quiet fun _ => .pure _

theorem isAtWord_quiet (word : String) : Quiet (isAtWord word) := .bind kind_quiet fun _ => .pure _

theorem isAtAnyWord_quiet (words : List String) : Quiet (isAtAnyWord words) :=
  .bind kind_quiet fun _ => .pure _

theorem isAtQuery_quiet : Quiet isAtQuery := .bind kind_quiet fun _ => .pure _

theorem takeIf_quiet {check : Parser Bool} (h : Quiet check) : Quiet (takeIf check) :=
  .bind h fun _ => .ite (.bind advance_quiet fun _ => .pure _) (.pure _)

theorem eat_quiet (mark : Symbol) : Quiet (eat mark) := takeIf_quiet (isAt_quiet mark)

theorem eatKeyword_quiet (word : Keyword) : Quiet (eatKeyword word) :=
  takeIf_quiet (isAtKeyword_quiet word)

theorem eatWord_quiet (word : String) : Quiet (eatWord word) := takeIf_quiet (isAtWord_quiet word)

theorem expect_quiet (mark : Symbol) : Quiet (expect mark) :=
  .bind (eat_quiet mark) fun _ => .ite (.pure _) .unexpected

theorem expectKeyword_quiet (word : Keyword) : Quiet (expectKeyword word) :=
  .bind (eatKeyword_quiet word) fun _ => .ite (.pure _) .unexpected

theorem expectWord_quiet (words : List String) : Quiet (expectWord words) :=
  .bind (takeIf_quiet (isAtAnyWord_quiet words)) fun _ => .ite (.pure _) .unexpected

theorem identifier_quiet : Quiet identifier := by
  refine .bind kind_quiet fun k => ?_
  split
  · exact .bind advance_quiet fun _ => .pure _
  · exact .bind advance_quiet fun _ => .pure _
  · exact .ite (.bind currentText_quiet fun _ => .bind advance_quiet fun _ => .pure _) .unexpected
  · exact .unexpected

theorem manyWithin_quiet {start : Parser Bool} {item : Parser α} (hs : Quiet start)
    (hi : Quiet item) (n : Nat) : Quiet (manyWithin start item n) := by
  induction n with
  | zero => exact .outOfRounds
  | succ n ih =>
    exact .bind hs fun _ => .ite (.bind hi fun _ => .bind ih fun _ => .pure _) (.pure _)

theorem many_quiet {start : Parser Bool} {item : Parser α} (hs : Quiet start) (hi : Quiet item) :
    Quiet (many start item) :=
  .bind rounds_quiet fun n => manyWithin_quiet hs hi n

theorem commaSeparated_quiet {item : Parser α} (hi : Quiet item) : Quiet (commaSeparated item) :=
  .bind hi fun _ => .bind (many_quiet (eat_quiet _) hi) fun _ => .pure _

theorem dottedName_quiet : Quiet dottedName :=
  .bind identifier_quiet fun _ => .bind (many_quiet (eat_quiet _) identifier_quiet) fun _ => .pure _

theorem parenthesizedNames_quiet : Quiet parenthesizedNames :=
  .bind (expect_quiet _) fun _ => .bind (commaSeparated_quiet identifier_quiet) fun _ =>
    .bind (expect_quiet _) fun _ => .pure _

theorem skipWithin_quiet {stop : Parser Bool} (hs : Quiet stop) (n : Nat) :
    Quiet (skipWithin stop n) := by
  induction n with
  | zero => exact .outOfRounds
  | succ n ih => exact .bind hs fun _ => .ite (.pure _) (.bind advance_quiet fun _ => ih)

theorem written_quiet {p : Parser Unit} (h : Quiet p) : Quiet (written p) :=
  .bind get_quiet fun _ => .bind advance_quiet fun _ => .bind h fun _ => .bind get_quiet fun _ =>
    sliceOf_quiet _

theorem textToParenthesis_quiet : Quiet textToParenthesis := by
  refine written_quiet (.bind rounds_quiet fun n => skipWithin_quiet ?_ n)
  exact .bind kind_quiet fun _ => .bind kind_quiet fun _ => .pure _

theorem addAlias_quiet (aliasName table : String) : Quiet (addAlias aliasName table) := by
  intro src s x t h
  cases h
  exact ⟨rfl, rfl⟩

/-! ## Readers that note what they return -/

/-- What has been noted in `t` is what had been in `s` and `new`. -/
def Grows (s t : ParserState) (new : Reference → Prop) : Prop :=
  ∀ r, t.references.Has r ↔ s.references.Has r ∨ new r

theorem Grows.same {s t : ParserState} (h : t.references.Has = s.references.Has) :
    Grows s t fun _ => False := by
  intro r
  rw [h, or_false]

theorem Grows.trans {s u t : ParserState} {new more : Reference → Prop} (h : Grows s u new)
    (h' : Grows u t more) : Grows s t fun r => new r ∨ more r := by
  intro r
  rw [h' r, h r, or_assoc]

/-- Run under `verb`, the reader notes references that together with those of `pre` cover `k` of its
result, and if `exact` holds all of them that are no columns are in it. -/
def NotesAs (exact : Prop) (verb : String) (pre : Reference → Prop) (p : Parser α)
    (k : α → Reference → Prop) : Prop :=
  ∀ src s x t, s.verb = verb → Returns p src s x t →
    t.verb = verb ∧ ∃ new, Grows s t new ∧ (∀ r, k x r → pre r ∨ new r) ∧
      (exact → ∀ r, r.isColumn = false → pre r ∨ new r → k x r)

/-- Run under `verb`, the reader notes the tables and columns that its result names. -/
abbrev Notes [HasParts α] (exact : Prop) (verb : String) (p : Parser α) : Prop :=
  NotesAs exact verb (fun _ => False) p fun x => Part.Named verb (parts x)

namespace NotesAs

variable {exact : Prop} {verb : String} {pre : Reference → Prop} {j : α → Reference → Prop}
  {k : β → Reference → Prop}

/-- Where more columns may be noted than are named. -/
theorem pureCovers {x : β} (h : ∀ r, k x r → pre r)
    (hexact : exact → ∀ r, r.isColumn = false → pre r → k x r) :
    NotesAs exact verb pre (Pure.pure x) k := by
  intro src s y t hv hr
  obtain ⟨rfl, rfl⟩ := Returns.pure hr
  exact ⟨hv, fun _ => False, .same rfl, fun r hk => .inl (h r hk),
    fun he r hr hp => hexact he r hr (hp.resolve_right id)⟩

theorem pure {x : β} (h : ∀ r, k x r ↔ pre r) : NotesAs exact verb pre (Pure.pure x) k :=
  pureCovers (fun r => (h r).mp) fun _ r _ => (h r).mpr

/-- Where more may be noted than is named. -/
theorem covers {x : β} (h : ∀ r, k x r → pre r) : NotesAs False verb pre (Pure.pure x) k :=
  pureCovers h False.elim

theorem fails {p : Parser β} (h : ∀ src s x t, ¬ Returns p src s x t) :
    NotesAs exact verb pre p k :=
  fun _ _ _ _ _ hr => absurd hr (h _ _ _ _)

theorem unexpected {what : String} : NotesAs exact verb pre (unexpected what) k :=
  .fails fun _ _ _ _ => not_returns_unexpected

theorem outOfRounds : NotesAs exact verb pre outOfRounds k := .unexpected

theorem ite {c : Prop} [Decidable c] {p q : Parser β} (hp : NotesAs exact verb pre p k)
    (hq : NotesAs exact verb pre q k) : NotesAs exact verb pre (if c then p else q) k := by
  split
  · exact hp
  · exact hq

/-- What was noted before is used up by the first reader, and the second may rely on what is known
of its result. -/
theorem andThenKnowing {K : α → Prop} (hknown : Ensures K p)
    (hp : NotesAs exact verb pre p j) (hf : ∀ x, K x → NotesAs exact verb (j x) (f x) k) :
    NotesAs exact verb pre (p >>= f) k := by
  intro src s y t hv hr
  obtain ⟨x, u, hx, hy⟩ := Returns.bind hr
  obtain ⟨hu, new, hnew, hcover, hexact⟩ := hp src s x u hv hx
  obtain ⟨ht, more, hmore, hcover', hexact'⟩ := hf x (hknown src s x u hx) src u y t hu hy
  refine ⟨ht, _, hnew.trans hmore, fun r hk => ?_, fun he r hr hp => ?_⟩
  · rcases hcover' r hk with hj | hm
    · exact (hcover r hj).imp_right .inl
    · exact .inr (.inr hm)
  · rcases hp with hp | hn | hm
    · exact hexact' he r hr (.inl (hexact he r hr (.inl hp)))
    · exact hexact' he r hr (.inl (hexact he r hr (.inr hn)))
    · exact hexact' he r hr (.inr hm)

theorem andThen (hp : NotesAs exact verb pre p j) (hf : ∀ x, NotesAs exact verb (j x) (f x) k) :
    NotesAs exact verb pre (p >>= f) k :=
  andThenKnowing (K := fun _ => True) (fun _ _ _ _ _ => trivial) hp fun x _ => hf x

/-- What was noted before stays for what comes after. -/
theorem frame (hp : NotesAs exact verb (fun _ => False) p j) :
    NotesAs exact verb pre p fun x r => pre r ∨ j x r := by
  intro src s x t hv hr
  obtain ⟨ht, new, hnew, hcover, hexact⟩ := hp src s x t hv hr
  refine ⟨ht, new, hnew, fun r hk => ?_, fun he r hr hp => ?_⟩
  · exact hk.imp_right fun hj => (hcover r hj).resolve_left id
  · exact hp.imp_right fun hn => hexact he r hr (.inr hn)

theorem bind (hp : NotesAs exact verb (fun _ => False) p j)
    (hf : ∀ x, NotesAs exact verb (fun r => pre r ∨ j x r) (f x) k) :
    NotesAs exact verb pre (p >>= f) k :=
  hp.frame.andThen hf

theorem bindKnowing {K : α → Prop} (hknown : Ensures K p)
    (hp : NotesAs exact verb (fun _ => False) p j)
    (hf : ∀ x, K x → NotesAs exact verb (fun r => pre r ∨ j x r) (f x) k) :
    NotesAs exact verb pre (p >>= f) k :=
  andThenKnowing hknown hp.frame hf

theorem quiet (hp : Quiet p) (hf : ∀ x, NotesAs exact verb pre (f x) k) :
    NotesAs exact verb pre (p >>= f) k := by
  refine andThen (j := fun _ => pre) (fun src s x t hv hr => ?_) hf
  obtain ⟨ht, hsame⟩ := hp src s x t hr
  exact ⟨ht.trans hv, fun _ => False, .same hsame, fun r h => .inl h,
    fun _ r _ h => h.resolve_right id⟩

theorem pureBind {x : α} (h : NotesAs exact verb pre (f x) k) :
    NotesAs exact verb pre (Pure.pure x >>= f) k := by
  rwa [pure_bind]

/-- What was noted before is what the value names. -/
theorem pureNamed [HasParts α] {x : α} (h : ∀ r, Part.Named verb (parts x) r ↔ pre r)
    (hf : ∀ x, NotesAs exact verb (Part.Named verb (parts x)) (f x) k) :
    NotesAs exact verb pre (Pure.pure x >>= f) k :=
  andThen (pure h) hf

theorem congr {pre' : Reference → Prop} {k' : β → Reference → Prop} {p : Parser β}
    (hp : NotesAs exact verb pre p k) (hpre : ∀ r, pre' r ↔ pre r) (hk : ∀ x r, k' x r ↔ k x r) :
    NotesAs exact verb pre' p k' := by
  obtain rfl : pre' = pre := funext fun r => propext (hpre r)
  obtain rfl : k' = k := funext fun x => funext fun r => propext (hk x r)
  exact hp

/-- More may have been noted before than the reader uses. -/
theorem weaken {pre' : Reference → Prop} {p : Parser β} (hp : NotesAs False verb pre p k)
    (hpre : ∀ r, pre r → pre' r) : NotesAs False verb pre' p k := by
  intro src s x t hv hr
  obtain ⟨ht, new, hnew, hcover, -⟩ := hp src s x t hv hr
  exact ⟨ht, new, hnew, fun r hk => (hcover r hk).imp_left (hpre r), False.elim⟩

end NotesAs

variable {exact : Prop} {verb : String}

theorem withVerb_notes {k : α → Reference → Prop} {pre : Reference → Prop} {inner : String}
    (h : NotesAs exact inner pre p k) : NotesAs exact verb pre (withVerb inner p) k := by
  intro src s x t hv hr
  obtain ⟨u, hu, rfl⟩ := withVerb_returns hr
  obtain ⟨-, new, hnew, hrest⟩ := h src { s with verb := inner } x u rfl hu
  exact ⟨hv, new, hnew, hrest⟩

theorem addTable_notes (db : Option String) (table : String) :
    NotesAs exact verb (fun _ => False) (addTable db table) fun _ r =>
      r = .table ⟨verb, db, table⟩ := by
  intro src s x t hv hr
  cases hr
  refine ⟨hv, fun r => r = .table ⟨verb, db, table⟩, fun r => ?_, fun r => .inr,
    fun _ r _ h => h.resolve_left id⟩
  cases r <;> simp [References.Has, References.addTable, hv]

theorem addColumn_notes (table : Option String) (column : String) :
    NotesAs exact verb (fun _ => False) (addColumn table column) fun _ r =>
      r = .column (.of verb table column) := by
  intro src s x t hv hr
  cases hr
  refine ⟨hv, fun r => r = .column (.of verb table column), fun r => ?_, fun r => .inr,
    fun _ r _ h => h.resolve_left id⟩
  cases r <;> simp [References.Has, References.addColumn, ColumnReference.of, hv]

theorem addCte_notes (name : String) :
    NotesAs exact verb (fun _ => False) (addCte name) fun _ r => r = .query name := by
  intro src s x t hv hr
  cases hr
  refine ⟨hv, fun r => r = .query name, fun r => ?_, fun r => .inr,
    fun _ r _ h => h.resolve_left id⟩
  cases r <;> simp [References.Has, References.addCte, or_comm]

section Loops

variable {k : α → Reference → Prop} {item : Parser α}
  (hi : NotesAs exact verb (fun _ => False) item k)
include hi

theorem manyWithin_notes {start : Parser Bool} (hs : Quiet start) (n : Nat) :
    NotesAs exact verb (fun _ => False) (manyWithin start item n) fun xs r => ∃ x ∈ xs, k x r := by
  induction n with
  | zero => exact .outOfRounds
  | succ n ih =>
    exact .quiet hs fun _ => .ite (.bind hi fun _ => .bind ih fun _ => .pure (by simp))
      (.pure (by simp))

theorem many_notes {start : Parser Bool} (hs : Quiet start) :
    NotesAs exact verb (fun _ => False) (many start item) fun xs r => ∃ x ∈ xs, k x r :=
  .quiet rounds_quiet fun n => manyWithin_notes hi hs n

theorem commaSeparated_notes :
    NotesAs exact verb (fun _ => False) (commaSeparated item) fun xs r => ∃ x ∈ xs, k x r :=
  .bind hi fun _ => .bind (many_notes hi (eat_quiet _)) fun _ => .pure (by simp)

end Loops

end SqlWeave.Parser
