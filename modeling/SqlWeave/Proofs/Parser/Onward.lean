import Mathlib.Logic.Function.Iterate
import SqlWeave.Proofs.Parser.ScriptNotes

/-! Going on from token to token. A reader is made of steps that leave the tokens as they are and of
steps that take the current one. Two readers that differ only in what they ask further on do the
same before; so the readers inside a reader, and the next round of a loop, may be compared at the
tokens at which they are asked. -/

namespace SqlWeave.Parser

variable {α β σ : Type} {src : Source} {s t u : ParserState} {n m : Nat} {P : TokenKind → Prop}
  {w : α → Prop}

/-! ## States further on -/

/-- So many tokens or more are taken from `s` to `t`. -/
def Later (n : Nat) (s t : ParserState) : Prop :=
  ∃ ts, s.current :: s.rest = ts ++ t.current :: t.rest ∧ n ≤ ts.length

namespace Later

theorem of_tokens (hcurrent : t.current = s.current) (hrest : t.rest = s.rest) : Later 0 s t :=
  ⟨[], by rw [hcurrent, hrest]; rfl, Nat.le_refl 0⟩

theorem trans (h : Later n s t) (h' : Later m t u) : Later (n + m) s u := by
  obtain ⟨ts, hts, hn⟩ := h
  obtain ⟨us, hus, hm⟩ := h'
  refine ⟨ts ++ us, by rw [hts, hus, List.append_assoc], ?_⟩
  rw [List.length_append]
  omega

theorem le (h : Later n s t) (hmn : m ≤ n) : Later m s t := by
  obtain ⟨ts, hts, hn⟩ := h
  exact ⟨ts, hts, Nat.le_trans hmn hn⟩

theorem rest_le (h : Later n s t) : t.rest.length + n ≤ s.rest.length := by
  obtain ⟨ts, hts, hn⟩ := h
  have hlength := congrArg List.length hts
  simp only [List.length_cons, List.length_append] at hlength
  omega

theorem ended (h : Later n s t) (hs : Ended s) : Ended t := by
  obtain ⟨ts, hts, -⟩ := h
  obtain ⟨us, finish, hus, hfinish, hinner⟩ := hs
  rcases List.append_eq_append_iff.mp (hus.symm.trans hts) with ⟨vs, -, hvs⟩ | ⟨vs, rfl, hvs⟩
  · cases vs with
    | nil => exact ⟨[], finish, hvs.symm, hfinish, fun _ hk => absurd hk List.not_mem_nil⟩
    | cons v vs =>
      exact absurd (List.cons.inj hvs).2.symm
        (List.append_ne_nil_of_right_ne_nil vs (List.cons_ne_nil _ _))
  · exact ⟨vs, finish, hvs, hfinish, fun k hk => hinner k (List.mem_append_right ts hk)⟩

/-- At another token something has been taken. -/
theorem of_ne (h : Later 0 s t) (hne : t.current ≠ s.current) : Later 1 s t := by
  obtain ⟨ts, hts, -⟩ := h
  refine ⟨ts, hts, List.length_pos_iff.mpr fun hnil => hne ?_⟩
  rw [hnil] at hts
  exact (List.cons.inj hts).1.symm

end Later

theorem Ended.rest_eq_nil (h : Ended s) (hkind : s.current.kind = .eof) : s.rest = [] := by
  obtain ⟨ts, finish, hts, -, hinner⟩ := h
  cases ts with
  | nil => exact (List.cons.inj hts).2
  | cons k ts =>
    exact absurd ((congrArg Token.kind (List.cons.inj hts).1).symm.trans hkind)
      (hinner k List.mem_cons_self)

theorem later_advance (s : ParserState) : Later 0 s s.advance := by
  unfold ParserState.advance
  split
  · exact .of_tokens rfl rfl
  · rename_i a as hrest
    exact ⟨[s.current], by rw [hrest]; rfl, Nat.zero_le _⟩

theorem Ended.later_advance (h : Ended s) (hkind : s.current.kind ≠ .eof) :
    Later 1 s s.advance := by
  have hrest : s.rest ≠ [] := by
    intro hrest
    obtain ⟨ts, finish, hts, hfinish, -⟩ := h
    rw [hrest] at hts
    have hlast : [] ++ [s.current] = ts ++ [finish] := hts
    obtain ⟨-, hcurrent⟩ := List.append_inj' hlast rfl
    exact hkind ((congrArg Token.kind (List.cons.inj hcurrent).1).trans hfinish)
  obtain ⟨a, as, has⟩ := List.exists_cons_of_ne_nil hrest
  refine ⟨[s.current], ?_, Nat.le_refl 1⟩
  rw [ParserState.advance, has]
  rfl

/-! ## Steps -/

/-- The reader leaves the tokens as they are. -/
def Still (p : Parser α) : Prop :=
  ∀ src s x t, Returns p src s x t → t.current = s.current ∧ t.rest = s.rest

/-- The reader is made of steps that leave the tokens as they are and of steps that take the current
one. -/
class inductive Onward : {α : Type} → Parser α → Prop
  | still {α : Type} {p : Parser α} (h : Still p) : Onward p
  | advance : Onward advance
  | seq {α β : Type} {p : Parser α} {f : α → Parser β} (hp : Onward p) (hf : ∀ x, Onward (f x)) :
      Onward (p >>= f)

theorem Onward.later {p : Parser α} {x : α} (hp : Onward p) (h : Returns p src s x t) :
    Later 0 s t := by
  induction hp generalizing s t with
  | still hp => exact .of_tokens (hp _ _ _ _ h).1 (hp _ _ _ _ h).2
  | advance =>
    rw [advance_returns h]
    exact later_advance s
  | seq _ _ ihp ihf =>
    obtain ⟨y, u, hy, h⟩ := Returns.bind h
    exact (ihp hy).trans (ihf y h)

/-- Tokens are taken wherever the reader stands at what `P` holds of and gives what `w` holds of. -/
def TakesOn (P : TokenKind → Prop) (w : α → Prop) (p : Parser α) : Prop :=
  ∀ src s x t, Ended s → P s.current.kind → Returns p src s x t → w x → Later 1 s t

/-- From a state with fewer than `m` tokens behind the current one, of which `P` holds, both readers
do the same. -/
structure SameOn (P : TokenKind → Prop) (m : Nat) (p q : Parser α) : Prop where
  left : Onward p
  right : Onward q
  agree : ∀ {src s}, Ended s → s.rest.length < m → P s.current.kind → p src s = q src s

/-- From a state with fewer than `m` tokens behind the current one both readers do the same. -/
abbrev Same (m : Nat) (p q : Parser α) : Prop := SameOn (fun _ => True) m p q

theorem Still.of_same {p : Parser α} (h : ∀ {src s x t}, Returns p src s x t → s = t) : Still p :=
  fun _ _ _ _ hr => by
  obtain rfl := h hr
  exact ⟨rfl, rfl⟩

theorem kind_still : Still kind := .of_same fun h => (kind_returns h).2

theorem nextKind_still : Still nextKind := .of_same fun h => (nextKind_returns h).2

theorem currentText_still : Still currentText := .of_same fun h => (currentText_returns h).2

theorem pure_still (x : α) : Still (Pure.pure x) := .of_same fun h => (Returns.pure h).2

theorem Asks.still {check : Parser Bool} {b : TokenKind → Bool} (h : Asks check b) : Still check :=
  .of_same fun hr => (h.returns hr).2

instance {what : String} : Onward (unexpected what : Parser α) :=
  .still fun _ _ _ _ h => absurd h not_returns_unexpected

instance : Onward (outOfRounds : Parser α) := inferInstanceAs (Onward (unexpected _))

namespace TakesOn

variable {p q : Parser α} {f : α → Parser β} {v : β → Prop}

theorem mono {Q : TokenKind → Prop} {w' : α → Prop} (h : TakesOn P w p) (hP : ∀ k, Q k → P k)
    (hw : ∀ x, w' x → w x) :
    TakesOn Q w' p := fun src s x t hs hQ hr hx => h src s x t hs (hP _ hQ) hr (hw _ hx)

theorem advance {w : Unit → Prop} (hP : ∀ k, P k → k ≠ .eof) : TakesOn P w advance := by
  intro src s x t hs hk hr _
  rw [advance_returns hr]
  exact hs.later_advance (hP _ hk)

theorem pure {x : α} (h : ¬ w x) : TakesOn P w (Pure.pure x) := by
  intro src s y t _ _ hr hy
  obtain ⟨rfl, -⟩ := Returns.pure hr
  exact absurd hy h

theorem unexpected {what : String} : TakesOn P w (unexpected what) :=
  fun _ _ _ _ _ _ hr _ => absurd hr not_returns_unexpected

theorem seq (hp : TakesOn P (fun _ => True) p) (hf : ∀ x, Onward (f x)) :
    TakesOn P v (p >>= f) := by
  intro src s y t hs hk hr _
  obtain ⟨x, u, hx, hr⟩ := Returns.bind hr
  exact (hp _ _ _ _ hs hk hx trivial).trans ((hf x).later hr)

/-- Where the first part takes nothing, the second takes something. -/
theorem after [hp : Onward p] (hf : ∀ x, TakesOn (fun _ => True) v (f x)) :
    TakesOn P v (p >>= f) := by
  intro src s y t hs _ hr hy
  obtain ⟨x, u, hx, hr⟩ := Returns.bind hr
  have hu := hp.later hx
  exact (hu.trans (hf x _ _ _ _ (hu.ended hs) trivial hr hy)).le (by omega)

/-- A test that takes a token, or else what takes one. -/
theorem whenTaken {check : Parser Bool} [Onward check] (h : TakesOn P (· = true) check)
    (hp : Onward p) (hq : TakesOn (fun _ => True) w q) :
    TakesOn P w (check >>= fun b => if b = true then p else q) := by
  intro src s x t hs hk hr hx
  obtain ⟨b, u, hb, hr⟩ := Returns.bind hr
  cases b with
  | true => exact (h _ _ _ _ hs hk hb rfl).trans (hp.later hr)
  | false =>
    have hu := ‹Onward check›.later hb
    exact (hu.trans (hq _ _ _ _ (hu.ended hs) trivial hr hx)).le (by omega)

theorem still (hp : Still p) (hf : ∀ x, TakesOn P v (f x)) : TakesOn P v (p >>= f) := by
  intro src s y t hs hk hr hy
  obtain ⟨x, u, hx, hr⟩ := Returns.bind hr
  obtain ⟨hcurrent, hrest⟩ := hp _ _ _ _ hx
  have hu : Later 0 s u := .of_tokens hcurrent hrest
  exact (hu.trans (hf x _ _ _ _ (hu.ended hs) (by rwa [hcurrent]) hr hy)).le (by omega)

theorem look {f : TokenKind → Parser β} (hf : ∀ k, P k → TakesOn (· = k) v (f k)) :
    TakesOn P v (kind >>= f) := by
  intro src s y t hs hk hr hy
  obtain ⟨k, u, hx, hr⟩ := Returns.bind hr
  obtain ⟨rfl, rfl⟩ := kind_returns hx
  exact hf _ hk _ _ _ _ hs rfl hr hy

theorem asks {check : Parser Bool} {b : TokenKind → Bool} {f : Bool → Parser β} (hp : Asks check b)
    (hf : ∀ x, TakesOn (fun k => P k ∧ b k = x) v (f x)) : TakesOn P v (check >>= f) := by
  intro src s y t hs hk hr hy
  obtain ⟨x, u, hx, hr⟩ := Returns.bind hr
  obtain ⟨rfl, rfl⟩ := hp.returns hx
  exact hf _ _ _ _ _ hs ⟨hk, rfl⟩ hr hy

theorem ite {c : Prop} [Decidable c] (hp : c → TakesOn P w p) (hq : ¬ c → TakesOn P w q) :
    TakesOn P w (if c then p else q) := by
  split
  · exact hp ‹_›
  · exact hq ‹_›

end TakesOn

namespace SameOn

variable {p q : Parser α} {f g : α → Parser β}

theorem refl [hp : Onward p] : SameOn P m p p := ⟨hp, hp, fun _ _ _ => rfl⟩

theorem mono {Q : TokenKind → Prop} (h : SameOn P m p q) (hnm : n ≤ m) (hP : ∀ k, Q k → P k) :
    SameOn Q n p q :=
  ⟨h.left, h.right, fun hs hn hk => h.agree hs (Nat.lt_of_lt_of_le hn hnm) (hP _ hk)⟩

/-- Where a token is taken, or the reader gives up, what follows need only be the same at later
tokens. -/
theorem past (hp : SameOn P (m + 1) p q)
    (hf : ∀ x, TakesOn P (· = x) p ∧ Same m (f x) (g x) ∨ Same (m + 1) (f x) (g x)) :
    SameOn P (m + 1) (p >>= f) (q >>= g) where
  left := .seq hp.left fun x => (hf x).elim (fun h => h.2.left) fun h => h.left
  right := .seq hp.right fun x => (hf x).elim (fun h => h.2.right) fun h => h.right
  agree {src s} hs hm hk := by
    rw [run_bind, run_bind, ← hp.agree hs hm hk]
    cases hrun : p src s with
    | error e => rfl
    | ok r =>
      have hlater := hp.left.later hrun
      rcases hf r.1 with ⟨htakes, hsame⟩ | hsame
      · have htaken := htakes _ _ _ _ hs hk hrun rfl
        have hrest := htaken.rest_le
        exact hsame.agree (htaken.ended hs) (by omega) trivial
      · exact hsame.agree (hlater.ended hs) (Nat.lt_of_le_of_lt hlater.rest_le hm) trivial

/-- Where the test takes a token, what follows need only be the same at later tokens. -/
theorem whenTaken {check : Parser Bool} [Onward check] {p' q' : Parser α}
    (h : TakesOn P (· = true) check) (hp : Same m p q) (hp' : Same (m + 1) p' q') :
    SameOn P (m + 1) (check >>= fun b => if b = true then p else p')
      (check >>= fun b => if b = true then q else q') := by
  refine .past ⟨‹_›, ‹_›, fun _ _ _ => rfl⟩ fun b => ?_
  cases b with
  | false => exact .inr hp'
  | true => exact .inl ⟨h, hp⟩

/-- Where something is found, it has been taken. -/
theorem whenSome {p q : Parser (Option α)} {f g : Option α → Parser β} (hp : SameOn P (m + 1) p q)
    (h : TakesOn P (·.isSome) p) (hnone : Same (m + 1) (f none) (g none))
    (hsome : ∀ x, Same m (f (some x)) (g (some x))) : SameOn P (m + 1) (p >>= f) (q >>= g) := by
  refine .past hp fun x => ?_
  cases x with
  | none => exact .inr hnone
  | some x => exact .inl ⟨h.mono (fun _ => id) (by rintro _ rfl; rfl), hsome x⟩

theorem andThen (hp : SameOn P m p q) (hf : ∀ x, Same m (f x) (g x)) :
    SameOn P m (p >>= f) (q >>= g) where
  left := .seq hp.left fun x => (hf x).left
  right := .seq hp.right fun x => (hf x).right
  agree {src s} hs hm hk := by
    cases m with
    | zero => exact absurd hm (Nat.not_lt_zero _)
    | succ m => exact (hp.past fun x => .inr (hf x)).agree hs hm hk

theorem bind [hp : Onward p] (hf : ∀ x, Same m (f x) (g x)) : SameOn P m (p >>= f) (p >>= g) :=
  .andThen .refl hf

theorem ite {c : Prop} [Decidable c] {p' q' : Parser α} (hp : SameOn P m p q)
    (hp' : SameOn P m p' q') :
    SameOn P m (if c then p else p') (if c then q else q') := by
  split
  · exact hp
  · exact hp'

theorem still (hp : Still p) (hf : ∀ x, SameOn P m (f x) (g x)) :
    SameOn P m (p >>= f) (p >>= g) where
  left := .seq (.still hp) fun x => (hf x).left
  right := .seq (.still hp) fun x => (hf x).right
  agree {src s} hs hm hk := by
    rw [run_bind, run_bind]
    cases hrun : p src s with
    | error e => rfl
    | ok r =>
      obtain ⟨hcurrent, hrest⟩ := hp _ _ _ _ hrun
      exact (hf r.1).agree ((Later.of_tokens hcurrent hrest).ended hs) (by rwa [hrest])
        (by rwa [hcurrent])

theorem look {f g : TokenKind → Parser β} (hf : ∀ k, SameOn (fun j => P j ∧ j = k) m (f k) (g k)) :
    SameOn P m (kind >>= f) (kind >>= g) where
  left := .seq (.still kind_still) fun k => (hf k).left
  right := .seq (.still kind_still) fun k => (hf k).right
  agree hs hm hk := (hf _).agree hs hm ⟨hk, rfl⟩

theorem asks {check : Parser Bool} {b : TokenKind → Bool} {f g : Bool → Parser β}
    (hp : Asks check b) (hf : ∀ x, SameOn (fun k => P k ∧ b k = x) m (f x) (g x)) :
    SameOn P m (check >>= f) (check >>= g) where
  left := .seq (.still hp.still) fun x => (hf x).left
  right := .seq (.still hp.still) fun x => (hf x).right
  agree {src s} hs hm hk := by
    rw [run_bind, run_bind, hp src s]
    exact (hf _).agree hs hm ⟨hk, rfl⟩

theorem pure (x : α) : SameOn P m (Pure.pure x) (Pure.pure x) :=
  @refl _ _ _ _ (.still (pure_still x))

theorem unexpected {what : String} : SameOn P m (unexpected what : Parser α) (unexpected what) :=
  .refl

theorem outOfRounds : SameOn P m (outOfRounds : Parser α) outOfRounds := .refl

end SameOn

/-- The readers take a token where they stand, and do the same at it and further on. -/
structure Entering (P : TokenKind → Prop) (m : Nat) (p q : Parser α) : Prop where
  same : SameOn P (m + 1) p q
  takes : TakesOn P (fun _ => True) p

namespace Entering

variable {p q : Parser α} {f g : α → Parser β}

theorem andThen (hp : Entering P m p q) (hf : ∀ x, Same m (f x) (g x)) :
    Entering P m (p >>= f) (q >>= g) where
  same := hp.same.past fun x => .inl ⟨hp.takes.mono (fun _ => id) fun _ _ => trivial, hf x⟩
  takes := hp.takes.seq fun x => (hf x).left

/-- What follows a token that is taken need only be the same at later ones. -/
theorem past [Onward p] (hp : TakesOn P (fun _ => True) p) (hf : ∀ x, Same m (f x) (g x)) :
    Entering P m (p >>= f) (p >>= g) := .andThen ⟨.refl, hp⟩ hf

theorem step {k : TokenKind} (hk : k ≠ .eof) {f g : Unit → Parser β} (hf : Same m (f ()) (g ())) :
    Entering (fun j => P j ∧ j = k) m (advance >>= f) (advance >>= g) :=
  @andThen _ _ _ _ _ _ _ _ ⟨@SameOn.refl _ _ _ _ .advance, .advance fun j hj => by rwa [hj.2]⟩
    fun _ => hf

theorem still (hp : Still p) (hf : ∀ x, Entering P m (f x) (g x)) :
    Entering P m (p >>= f) (p >>= g) :=
  ⟨.still hp fun x => (hf x).same, .still hp fun x => (hf x).takes⟩

theorem look {f g : TokenKind → Parser β}
    (hf : ∀ k, Entering (fun j => P j ∧ j = k) m (f k) (g k)) :
    Entering P m (kind >>= f) (kind >>= g) :=
  ⟨.look fun k => (hf k).same, .look fun k hk =>
    (hf k).takes.mono (by rintro _ rfl; exact ⟨hk, rfl⟩) fun _ => id⟩

theorem ite {c : Prop} [Decidable c] {p' q' : Parser α} (hp : Entering P m p q)
    (hp' : Entering P m p' q') :
    Entering P m (if c then p else p') (if c then q else q') := by
  split
  · exact hp
  · exact hp'

end Entering

/-! ## Loops -/

/-- The reader ends where it starts or further on. -/
def Forward (p : Parser α) : Prop := ∀ src s x t, Returns p src s x t → Later 0 s t

theorem Onward.forward {p : Parser α} (hp : Onward p) : Forward p := fun _ _ _ _ h => hp.later h

theorem Forward.andThen {p : Parser α} {f : α → Parser β} (hp : Forward p)
    (hf : ∀ x, Forward (f x)) :
    Forward (p >>= f) := fun _ _ _ _ h => by
  obtain ⟨x, u, hx, h⟩ := Returns.bind h
  exact (hp _ _ _ _ hx).trans (hf x _ _ _ _ h)

theorem Forward.ite {c : Prop} [Decidable c] {p q : Parser α} (hp : Forward p) (hq : Forward q) :
    Forward (if c then p else q) := by
  split
  · exact hp
  · exact hq

/-- From a state with fewer than `m` tokens behind the current one both readers do the same. -/
def Alike (m : Nat) (p q : Parser α) : Prop :=
  ∀ src s, Ended s → s.rest.length < m → p src s = q src s

namespace Alike

variable {p q : Parser α}

theorem andThen {f g : α → Parser β} (hp : Alike m p q) (hforward : Forward p)
    (hf : ∀ x, Alike m (f x) (g x)) :
    Alike m (p >>= f) (q >>= g) := by
  intro src s hs hm
  rw [run_bind, run_bind, ← hp src s hs hm]
  cases hrun : p src s with
  | error e => rfl
  | ok r =>
    have hlater := hforward _ _ _ _ hrun
    exact hf r.1 _ _ (hlater.ended hs) (Nat.lt_of_le_of_lt hlater.rest_le hm)

theorem mark {f g : ParserState → Parser β}
    (h : ∀ start, Ended start → start.rest.length < m → Alike m (f start) (g start)) :
    Alike m (get >>= f) (get >>= g) := fun src s hs hm => h s hs hm src s hs hm

/-- Going back to a state with fewer than `m` tokens behind the current one. -/
theorem back {start : ParserState} (hp : Alike m p q) (hstart : Ended start)
    (hm : start.rest.length < m) :
    Alike m (do rewind start; p) (do rewind start; q) := fun src s _ _ =>
  hp src { s with previous := start.previous, current := start.current, rest := start.rest }
    ((Later.of_tokens rfl rfl).ended hstart) hm

end Alike

/-- The readers are alike, and end where they start or further on, however they come there. -/
structure SameAhead (m : Nat) (p q : Parser α) : Prop where
  left : Forward p
  right : Forward q
  agree : Alike m p q

theorem SameOn.alike {p q : Parser α} (h : Same m p q) : Alike m p q :=
  fun _ _ hs hm => h.agree hs hm trivial

theorem SameOn.ahead {p q : Parser α} (h : Same m p q) : SameAhead m p q :=
  ⟨h.left.forward, h.right.forward, h.alike⟩

theorem SameAhead.andThen {p q : Parser α} {f g : α → Parser β} (hp : SameAhead m p q)
    (hf : ∀ x, SameAhead m (f x) (g x)) : SameAhead m (p >>= f) (q >>= g) where
  left := hp.left.andThen fun x => (hf x).left
  right := hp.right.andThen fun x => (hf x).right
  agree := .andThen hp.agree hp.left fun x => (hf x).agree

theorem SameAhead.ite {c : Prop} [Decidable c] {p q p' q' : Parser α} (hp : SameAhead m p q)
    (hp' : SameAhead m p' q') :
    SameAhead m (if c then p else p') (if c then q else q') := by
  split
  · exact hp
  · exact hp'

/-- A loop that goes round by `round`, in which the next round starts at a later token than this
one: what it does further on makes no difference before. `S m` says of two readers that they do the
same with fewer than `m` tokens left. -/
structure TokenDriven (S : Nat → Parser α → Parser α → Prop) (loop : Nat → σ → Parser α)
    (round : (σ → Parser α) → σ → Parser α) : Prop where
  zero : ∀ x, loop 0 x = outOfRounds
  succ : ∀ n x, loop (n + 1) x = round (loop n) x
  later : ∀ {m f g}, (∀ x, S m (f x) (g x)) → ∀ x, S (m + 1) (round f x) (round g x)

/-- After as many rounds as there are tokens it makes no difference what would come then. -/
theorem TokenDriven.enough {S : Nat → Parser α → Parser α → Prop} {loop : Nat → σ → Parser α}
    {round : (σ → Parser α) → σ → Parser α} (h : TokenDriven S loop round) {f : σ → Parser α}
    (hf : ∀ x, S 0 outOfRounds (f x)) (n : Nat) (x : σ) : S n (loop n x) (round^[n] f x) := by
  induction n generalizing x with
  | zero =>
    rw [h.zero]
    exact hf x
  | succ n ih =>
    rw [h.succ, Function.iterate_succ_apply']
    exact h.later ih x

/-- Refuses to go on where no token has been taken since `s`. -/
def onlyAfter (s : ParserState) (p : Parser α) : Parser α := do
  if (← get).rest.length < s.rest.length then p else unexpected "later token"

theorem onlyAfter_eq {p : Parser α} (h : t.rest.length < s.rest.length) :
    onlyAfter s p src t = p src t := by
  show (if t.rest.length < s.rest.length then p else unexpected _) src t = p src t
  rw [if_pos h]

theorem get_still : Still (get : Parser ParserState) :=
  fun _ _ _ _ h => by cases h; exact ⟨rfl, rfl⟩

theorem Onward.onlyAfter {p : Parser α} (hp : Onward p) : Onward (onlyAfter s p) := by
  refine .seq (.still get_still) fun t => ?_
  split
  · exact hp
  · exact inferInstance

theorem SameOn.onlyAfter {p : Parser α} (hp : Onward p) : Same s.rest.length p (onlyAfter s p) :=
  ⟨hp, hp.onlyAfter, fun _ hm _ => (onlyAfter_eq hm).symm⟩

theorem SameAhead.onlyAfter {p : Parser α} (hp : Forward p) :
    SameAhead s.rest.length p (onlyAfter s p) where
  left := hp
  right := .andThen (Onward.forward (.still get_still)) fun _ =>
    .ite hp (Onward.forward inferInstance)
  agree _ _ _ hm := (onlyAfter_eq hm).symm

/-- Each further round of the loop starts at a strictly later token than the one before, so that as
many rounds as there are tokens are enough. `Goes` says of readers that they do not go back. -/
structure Advances (Goes : Parser α → Prop) (loop : Nat → σ → Parser α)
    (round : (σ → Parser α) → σ → Parser α) :
    Prop where
  succ : ∀ n x, loop (n + 1) x = round (loop n) x
  later : ∀ {f}, (∀ x, Goes (f x)) → ∀ {src s}, Ended s →
    ∀ x, round f x src s = round (fun y => onlyAfter s (f y)) x src s
  enough : ∀ {f}, (∀ x, Goes (f x)) → ∀ {src s n}, Ended s → s.rest.length < n →
    ∀ x, loop n x src s = round^[n] f x src s

theorem TokenDriven.advances {loop : Nat → σ → Parser α} {round : (σ → Parser α) → σ → Parser α}
    (h : TokenDriven Same loop round) : Advances Onward loop round where
  succ := h.succ
  later {_} hf {_ s} hs x :=
    (h.later (fun y => SameOn.onlyAfter (s := s) (hf y)) x).agree hs (Nat.lt_succ_self _) trivial
  enough {_} hf {_ _ n} hs hn x :=
    (h.enough (fun y => ⟨inferInstance, hf y, fun _ h => absurd h (Nat.not_lt_zero _)⟩) n x).agree
      hs hn trivial

theorem TokenDriven.advancesAhead {loop : Nat → σ → Parser α}
    {round : (σ → Parser α) → σ → Parser α} (h : TokenDriven SameAhead loop round) :
    Advances Forward loop round where
  succ := h.succ
  later {_} hf {_ s} hs x := (h.later (fun y => SameAhead.onlyAfter (s := s) (hf y)) x).agree _ _ hs
    (Nat.lt_succ_self _)
  enough {_} hf {_ _ n} hs hn x :=
    (h.enough (fun y => ⟨Onward.forward inferInstance, hf y,
      fun _ _ _ h => absurd h (Nat.not_lt_zero _)⟩) n x).agree _ _ hs hn

end SqlWeave.Parser
