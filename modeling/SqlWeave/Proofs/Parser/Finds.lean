import SqlWeave.Parser.DataType
import SqlWeave.Proofs.Parser.Lockstep
import SqlWeave.Proofs.Parser.Reads
import SqlWeave.Proofs.Token.Tiling

/-! What a run tells about the pieces it went over. `Finds d p ks Q` says that wherever `p` returns
before the pieces `ks` of a text of the dialect, what it returns and the pieces it comes to are as
`Q` says. Where `Reads` puts a run together, `Finds` takes it apart. -/

namespace SqlWeave

theorem TokenKind.isWord_eq_true {k : TokenKind} {word : String} :
    k.isWord word = true ↔ ∃ name, k = .identifier name ∧ Text.sameAscii name word = true := by
  cases k <;> simp [isWord]

namespace Token

/-- What is known of a piece of a text: a bare word is spelled as it is, and an opening bracket is
only a sign where no names stand between brackets. -/
structure Piece.Genuine (q : Quoting) (k : Piece) : Prop where
  word : Parser.isTypeWord k.kind = true → isWord k.text = true ∧ k = .ofWord k.text
  bracket : k.kind = .symbol .leftBracket → q.bracketNames = false

/-- Nothing but the bracket itself is scanned as an opening bracket. -/
theorem scan_leftBracket {q : Quoting} {c : Char} {cs : List Char}
    (h : (scan q c cs).1 = .symbol .leftBracket) :
    q.bracketNames = false := by
  let P : TokenKind × Nat → Prop := fun x => x.1 = .symbol .leftBracket → q.bracketNames = false
  have hother {k : TokenKind} {n : Nat} (hk : k ≠ .symbol .leftBracket) : P (k, n) :=
    fun h => absurd h hk
  have hquoted {closing : Char} {kind : String → TokenKind} {missing : LexicalFault}
      (hkind : ∀ s, kind s ≠ .symbol .leftBracket) : P (scanDelimited closing kind missing cs) :=
    fun h =>
    absurd h (scanDelimited_fst (P := (· ≠ .symbol .leftBracket)) hkind (by simp) cs)
  have hpair {second : Char} {double single : Symbol} (hdouble : double ≠ .leftBracket)
      (hsingle : single ≠ .leftBracket) :
      P (scanPair second double single cs) :=
    ite_elim (fun _ => hother (by simpa)) fun _ => hother (by simpa)
  have hnumber : P (scanNumber c cs) := hother (by simp)
  suffices hscan : P (scan q c cs) from hscan h
  unfold scan
  split
  · rename_i mark hsingle
    have hmark : mark ≠ .leftBracket := by
      rintro rfl
      unfold single? at hsingle
      split at hsingle <;> cases hsingle
    exact hother (by simpa)
  · have hcolon : P (scanColon cs) := by
      cases cs with
      | nil => exact hother (by simp)
      | cons d ds =>
        exact ite_elim (fun _ => hother (by simp)) fun _ =>
          ite_elim (fun _ => hother (by simp)) fun _ => hother (by simp)
    have hhex : P (scanHex cs) := fun h =>
      absurd h (scanHex_fst (P := (· ≠ .symbol .leftBracket)) (by simp) (by simp) cs)
    have hword : P (scanWord c cs) := by
      unfold scanWord
      simp only
      split <;> exact hother (by simp)
    refine ite_elim (fun _ => ite_elim (fun _ => hquoted (by simp))
      fun hnames _ => by simpa using hnames) fun _ => ?_
    refine ite_elim (fun _ => ite_elim (fun _ => hnumber) fun _ => hother (by simp)) fun _ => ?_
    refine ite_elim (fun _ => hother (by simp)) fun _ => ite_elim (fun _ => hcolon) fun _ => ?_
    refine ite_elim (fun _ => hother (by simp)) fun _ =>
      ite_elim (fun _ => ite_elim (fun _ => hother (by simp)) fun _ =>
      ite_elim (fun _ => hother (by simp)) fun _ => hpair (by simp) (by simp)) fun _ => ?_
    refine ite_elim (fun _ => ite_elim (fun _ => hother (by simp)) fun _ =>
      hpair (by simp) (by simp)) fun _ => ?_
    refine ite_elim (fun _ => hpair (by simp) (by simp)) fun _ =>
      ite_elim (fun _ => hpair (by simp) (by simp)) fun _ => ?_
    refine ite_elim (fun _ => hquoted (by simp)) fun _ =>
      ite_elim (fun _ => ite_elim (fun _ => hquoted (by simp)) fun _ =>
      hquoted (by simp)) fun _ => ?_
    refine ite_elim (fun _ => hquoted (by simp)) fun _ => ite_elim (fun _ => hhex) fun _ => ?_
    exact ite_elim (fun _ => hnumber) fun _ => ite_elim (fun _ => hword) fun _ => hother (by simp)

theorem scan_genuine (q : Quoting) (c : Char) (cs : List Char) :
    Piece.Genuine q ⟨(scan q c cs).1, String.ofList (c :: cs.take (scan q c cs).2)⟩ := by
  refine ⟨fun hword => ?_, scan_leftBracket⟩
  have hscan := scan_fst (P := fun k => Parser.isTypeWord k = true → isNameStart c = true ∧
    startsHex c cs = false) q c cs
    (fun hstart hhex _ => ⟨hstart, hhex⟩) (fun k hname hkey _ hk => ?_) hword
  · obtain ⟨hstart, hhex⟩ := hscan
    rw [scan_word q hstart hhex, scanWord_eq, take_countWhile]
    dsimp only
    refine ⟨?_, rfl⟩
    unfold isWord
    rw [String.toList_ofList]
    exact Bool.and_eq_true_iff.mpr ⟨hstart, List.all_takeWhile⟩
  · unfold Parser.isTypeWord at hk
    split at hk
    · exact absurd rfl (hname _)
    · exact absurd rfl (hkey _)
    · cases hk

/-- A bare word that is not reserved is its own name. -/
theorem Piece.Genuine.identifier {q : Quoting} {k : Piece} (h : k.Genuine q) {name : String}
    (hk : k.kind = .identifier name) : name = k.text := by
  have hkind : k.kind = wordKind k.text := congrArg Piece.kind (h.word (by rw [hk]; rfl)).2
  rw [hk, wordKind] at hkind
  split at hkind
  · cases hkind
  · exact TokenKind.identifier.inj hkind

end Token

namespace Parser

open Token (Piece piece tokenize)

variable {α β : Type} {d : Dialect} {src : Source} {s t : ParserState} {k : Piece}
  {ks js rest : List Piece}

/-- The reader stands in a text of the dialect, before these pieces. -/
structure StandsIn (d : Dialect) (src : Source) (s : ParserState) (ks : List Piece) : Prop where
  dialect : src.dialect = d
  stands : Stands src s ks
  onText : OnText (fun _ => True) src s

/-- A reader that stands in a text stands before some of its pieces. -/
theorem OnText.standsIn {K : TokenKind → Prop} (h : OnText K src s) :
    ∃ ks, StandsIn src.dialect src s ks := by
  have hsuffix := h.suffix
  rw [(tokenize_split src.dialect src.text).1] at hsuffix
  obtain ⟨ts, hts, -⟩ := (List.suffix_concat_iff.mp hsuffix).resolve_left (List.cons_ne_nil _ _)
  have hend : piece src.text (endOf src.text) = .finish := by
    rw [piece, endOf, slice_size]
    rfl
  refine ⟨ts.map (piece src.text), rfl, ?_, fun _ _ => trivial, h.current, h.rest, h.suffix,
    h.previous⟩
  rw [Stands, hts, List.map_append, List.map_singleton, hend]

theorem StandsIn.advance (h : StandsIn d src s ks) : StandsIn d src s.advance ks.tail := by
  obtain ⟨hdialect, hstands, htext⟩ := h
  refine ⟨hdialect, ?_, (Makes.advance.returns htext returns_advance).2⟩
  cases ks with
  | nil =>
    have hrest : s.rest = [] := List.length_eq_zero_iff.mp hstands.rest_length
    rw [ParserState.advance, hrest]
    rwa [Stands, hrest] at hstands
  | cons k ks => exact hstands.advance

/-- The pieces before which a reader stands are those of a text. -/
theorem StandsIn.genuine (h : StandsIn d src s ks) : ∀ k ∈ ks, k.Genuine d.quoting := by
  obtain ⟨rfl, hstands, htext⟩ := h
  intro k hk
  have hmem : k ∈ (s.current :: s.rest).map (piece src.text) := by
    rw [show _ = ks ++ [.finish] from hstands]
    exact List.mem_append_left _ hk
  obtain ⟨a, ha, rfl⟩ := List.mem_map.mp hmem
  have hfinish : Token.Piece.Genuine src.dialect.quoting .finish :=
    ⟨fun hword => Bool.noConfusion hword, fun hmark => TokenKind.noConfusion hmark⟩
  exact Token.forall_tokenize hfinish (Token.scan_genuine _) (htext.suffix.mem ha)

/-- Where the reader returns before these pieces, `Q` holds of what it returns and of the pieces it
comes to. -/
def Finds (d : Dialect) (p : Parser α) (ks : List Piece) (Q : α → List Piece → Prop) : Prop :=
  ∀ src s x t, StandsIn d src s ks → Returns p src s x t → ∃ rest, StandsIn d src t rest ∧ Q x rest

namespace Finds

variable {p q : Parser α} {f : α → Parser β} {Q Q' : α → List Piece → Prop} {R : β →
  List Piece → Prop}

theorem pure {x : α} (h : Q x ks) : Finds d (Pure.pure x) ks Q := by
  intro src s y t hs hr
  obtain ⟨rfl, rfl⟩ := Returns.pure hr
  exact ⟨ks, hs, h⟩

theorem bind (h : Finds d p ks fun x js => Finds d (f x) js R) : Finds d (p >>= f) ks R := by
  intro src s y t hs hr
  obtain ⟨x, u, hx, hr⟩ := Returns.bind hr
  obtain ⟨js, hu, hf⟩ := h src s x u hs hx
  exact hf src u y t hu hr

theorem mono (hp : Finds d p ks Q) (h : ∀ x rest, Q x rest → Q' x rest) : Finds d p ks Q' := by
  intro src s x t hs hr
  obtain ⟨rest, ht, hx⟩ := hp src s x t hs hr
  exact ⟨rest, ht, h x rest hx⟩

theorem unexpected {what : String} : Finds d (unexpected what) ks Q := fun _ _ _ _ _ hr =>
  absurd hr not_returns_unexpected

theorem outOfRounds : Finds d outOfRounds ks Q := unexpected

/-- Whatever is made of the primitive readers comes to some of the pieces behind. -/
theorem makes {post : α → Prop} (hp : Makes (fun _ => True) post p) :
    Finds d p ks fun x _ => post x := by
  rintro src s x t ⟨rfl, -, htext⟩ hr
  obtain ⟨hx, ht⟩ := hp.returns htext hr
  obtain ⟨rest, ht⟩ := ht.standsIn
  exact ⟨rest, ht, hx⟩

theorem control [Control p] (h : ∀ x rest, Finds d (f x) rest R) : Finds d (p >>= f) ks R :=
  .bind ((makes (Control.makes (p := p) _)).mono fun x rest _ => h x rest)

theorem ite {c : Prop} [Decidable c] (hp : Finds d p ks Q) (hq : Finds d q ks Q) :
    Finds d (if c then p else q) ks Q := by
  split
  · exact hp
  · exact hq

/-- The pieces are those of a text. -/
theorem real (h : (∀ k ∈ ks, k.Genuine d.quoting) → Finds d p ks Q) : Finds d p ks Q :=
  fun src s x t hs hr =>
  h hs.genuine src s x t hs hr

theorem pureBind {x : α} (h : Finds d (f x) ks R) : Finds d (Pure.pure x >>= f) ks R := by
  rwa [pure_bind]

theorem look {f : TokenKind → Parser β} (h : Finds d (f (next ks)) ks R) :
    Finds d (kind >>= f) ks R := by
  refine .bind fun src s k t hs hr => ?_
  obtain ⟨rfl, rfl⟩ := kind_returns hr
  rw [hs.stands.kind]
  exact ⟨ks, hs, h⟩

theorem peek {f : TokenKind → Parser β} (h : Finds d (f (next ks.tail)) ks R) :
    Finds d (nextKind >>= f) ks R := by
  refine .bind fun src s k t hs hr => ?_
  obtain ⟨rfl, rfl⟩ := nextKind_returns hr
  rw [hs.stands.nextKind]
  exact ⟨ks, hs, h⟩

theorem text {f : String → Parser β} (h : Finds d (f k.text) (k :: ks) R) :
    Finds d (currentText >>= f) (k :: ks) R := by
  refine .bind fun src s k t hs hr => ?_
  obtain ⟨rfl, rfl⟩ := currentText_returns hr
  rw [hs.stands.text]
  exact ⟨_, hs, h⟩

theorem rounds {f : Nat → Parser β} (h : Finds d (f (ks.length + 1)) ks R) :
    Finds d (rounds >>= f) ks R := by
  refine .bind fun src s k t hs hr => ?_
  obtain ⟨rfl, rfl⟩ := rounds_returns hr
  rw [hs.stands.rest_length]
  exact ⟨ks, hs, h⟩

/-- At the end of input the reader stays there. -/
theorem advance {Q : Unit → List Piece → Prop} (h : Q () ks.tail) : Finds d advance ks Q := by
  intro src s x t hs hr
  obtain rfl := advance_returns hr
  exact ⟨ks.tail, hs.advance, h⟩

theorem step {f : Unit → Parser β} (h : Finds d (f ()) ks.tail R) :
    Finds d (Parser.advance >>= f) ks R :=
  .bind (.advance h)

theorem test {check : Parser Bool} {b : TokenKind → Bool} {f : Bool → Parser β} (ht : Asks check b)
    (h : Finds d (f (b (next ks))) ks R) : Finds d (check >>= f) ks R := by
  refine .bind fun src s v t hs hr => ?_
  obtain ⟨rfl, rfl⟩ := ht.returns hr
  rw [hs.stands.kind]
  exact ⟨ks, hs, h⟩

/-- A token that is taken if it is the right one. -/
theorem takeIf {check : Parser Bool} {b : TokenKind → Bool} {p q : Parser β} (ht : Asks check b)
    (hyes : b (next ks) = true → Finds d p ks.tail R) (hno : b (next ks) = false → Finds d q ks R) :
    Finds d (takeIf check >>= fun v => if v then p else q) ks R := by
  refine .bind (.test ht ?_)
  cases hb : b (next ks) with
  | true => exact .step (.pure (hyes hb))
  | false => exact .pure (hno hb)

theorem expect {mark : Symbol} {f : Unit → Parser β}
    (h : ∀ k rest, ks = k :: rest → k.kind = .symbol mark → Finds d (f ()) rest R) :
    Finds d (expect mark >>= f) ks R := by
  refine .bind (.takeIf (isAt_asks mark) (fun hmark => ?_) fun _ => .unexpected)
  cases ks with
  | nil => cases beq_iff_eq.mp hmark
  | cons k rest => exact .pure (h k rest rfl (beq_iff_eq.mp hmark))

end Finds

/-! ## Lists -/

/-- The items that are found one after the other, with commas between them. -/
inductive Found (found : List Piece → α → List Piece → Prop) :
    List Piece → List α → List Piece → Prop
  | last {first rest : List Piece} {x : α} (hx : found first x rest) : Found found first [x] rest
  | more {first after rest : List Piece} {comma : Piece} {x : α} {xs : List α}
      (hx : found first x (comma :: after)) (hcomma : comma.kind = .symbol .comma)
      (hxs : Found found after xs rest) : Found found first (x :: xs) rest

theorem Found.forall_mem {P : α → Prop} {xs : List α} (h : Found (fun _ x _ => P x) ks xs rest) :
    ∀ x ∈ xs, P x := by
  induction h with
  | last hx => exact List.forall_mem_singleton.mpr hx
  | more hx _ _ ih => exact List.forall_mem_cons.mpr ⟨hx, ih⟩

theorem Finds.manyWithin {item : Parser α} {found : List Piece → α → List Piece → Prop} {n : Nat}
    {x : α} (hitem : ∀ ks, Finds d item ks (found ks)) (hx : found ks x js) :
    Finds d (Parser.manyWithin (eat .comma) item n) js fun xs rest =>
      Found found ks (x :: xs) rest := by
  induction n generalizing ks js x with
  | zero => exact .outOfRounds
  | succ n ih =>
    refine .takeIf (isAt_asks .comma) (fun hcomma => ?_) fun _ => .pure (.last hx)
    cases js with
    | nil => cases beq_iff_eq.mp hcomma
    | cons k js =>
      refine .bind ((hitem js).mono fun y rest hy =>
        .bind ((ih hy).mono fun ys rest hys => .pure ?_))
      exact .more hx (beq_iff_eq.mp hcomma) hys

theorem Finds.commaSeparated {item : Parser α} {found : List Piece → α → List Piece → Prop}
    (hitem : ∀ ks, Finds d item ks (found ks)) :
    Finds d (commaSeparated item) ks (Found found ks) :=
  .bind ((hitem ks).mono fun _ _ hx =>
    .bind (.rounds ((Finds.manyWithin hitem hx).mono fun _ _ hxs => .pure hxs)))

end Parser

end SqlWeave
