import SqlWeave.Proofs.Parser.TypeTokens
import SqlWeave.Proofs.RoundTrip
import SqlWeave.Proofs.Spelling.DataType

/-! What the rendering of a type keeps of the tokens it was read from. A type has one length, one
scale and one mark for brackets, so some of what is accepted has no place in it. -/

namespace SqlWeave

open Decimal (word64?)
open SqlWeave.Parser (Bracketed Finds Found IsTwoWord Nested Sized Suffixed TypeNamed isFieldName
  isNumber isTypeWord nested next
  size? typeSuffixes)
open SqlWeave.Parser (Returns StandsIn readersFor startState tokensOf)
open Token (Cuts Piece Quoting tokenize)

/-! ## Types that have a place for everything -/

mutual
/-- A type that is read as what it is written as. -/
inductive DataType.Readable : DataType Expr → Prop
  | mk {t : DataType Expr} (hname : IsTypeName t.name) (hscale : t.scale.isSome → t.length.isSome)
      (hargs : ∀ e ∈ t.args, ReadableArgument e) : DataType.Readable t
inductive ReadableArgument : Expr → Prop
  | string {value : String} : ReadableArgument (.string value)
  | type {t : DataType Expr} (halone : t.StandsAlone) (h : DataType.Readable t) :
      ReadableArgument (.mk (.dataType t))
  | field {d : ColumnDefinition Expr} (hname : d.column.column ≠ .star)
      (h : DataType.Readable d.type) :
      ReadableArgument (.mk (.columnDefinition d))
end

/-- Whether a token between its neighbours has a place in a type: a number fits 64 bits, behind a
length stands a scale, brackets stand alone and the name in quotes is that of a field. -/
def hasPlace (previous k following : TokenKind) : Bool :=
  match k with
  | .number text => (word64? text).isSome
  | .symbol .comma => !isNumber previous || isNumber following
  | .symbol .leftBracket => previous != .symbol .rightBracket
  | .quotedIdentifier name =>
    isName name && (previous == .symbol .leftParen || previous == .symbol .comma) &&
      isTypeWord following
  | _ => true

/-- Whether all tokens behind `previous` have a place. -/
def havePlaces (previous : TokenKind) : List TokenKind → Bool
  | [] => true
  | k :: ks => hasPlace previous k (ks.headD .eof) && havePlaces k ks

/-! ## Tokens that are spelled anew -/

/-- A token that a name, an argument or a dimension ends with. -/
def endsPart (k : TokenKind) : Bool :=
  isTypeWord k || k == .symbol .rightParen || k == .symbol .rightBracket

def startsPart (k : TokenKind) : Bool := k == .symbol .leftParen || k == .symbol .comma

/-- Tokens behind `previous` and what they are written as: the same, but for the quotes around the
name of a field, zeros in front of a number and the case of the words at the end of a type. -/
inductive Respelled : TokenKind → List TokenKind → List TokenKind → Prop
  | done {previous : TokenKind} : Respelled previous [] []
  | same {previous k : TokenKind} {ks js : List TokenKind} (h : Respelled k ks js) :
      Respelled previous (k :: ks) (k :: js)
  | field {previous : TokenKind} {name : String} {ks js : List TokenKind}
      (hprevious : startsPart previous = true) (htype : isTypeWord (ks.headD .eof) = true)
      (h : Respelled .eof ks js) :
      Respelled previous (.identifier name :: ks) (.quotedIdentifier name :: js)
  | number {previous : TokenKind} {text : String} {n : Nat} {ks js : List TokenKind}
      (hn : word64? text = some n) (h : Respelled (.number text) ks js) :
      Respelled previous (.number text :: ks) (.number (toString n) :: js)
  | suffix {previous : TokenKind} {text word : String} {ks js : List TokenKind}
      (hprevious : endsPart previous = true) (hword : word ∈ typeSuffixes)
      (hsame : Text.sameAscii text word = true) (h : Respelled (.identifier text) ks js) :
      Respelled previous (.identifier text :: ks) (.identifier (Text.upper word) :: js)

/-- No token is lost or added. -/
theorem Respelled.length_eq {previous : TokenKind} {ks js : List TokenKind}
    (h : Respelled previous ks js) :
    ks.length = js.length := by
  induction h with
  | done => rfl
  | same _ ih | field _ _ _ ih | number _ _ ih | suffix _ _ _ _ ih =>
    rw [List.length_cons, List.length_cons, ih]

/-- These tokens behind one of `before` are written as those, and the last of them is one of
`after`. -/
def Respells (before : TokenKind → Bool) (src out : List TokenKind)
    (after : TokenKind → Bool) : Prop :=
  ∀ previous, before previous = true → ∀ ks js, (∀ k, after k = true → Respelled k ks js) →
    Respelled previous (src ++ ks) (out ++ js)

namespace Respells

variable {before before' middle after after' : TokenKind → Bool}
  {src src' out out' : List TokenKind}

theorem nil : Respells before [] [] before := fun previous hprevious _ _ h => h previous hprevious

theorem append (h : Respells before src out middle) (h' : Respells middle src' out' after) :
    Respells before (src ++ src') (out ++ out') after := by
  intro previous hprevious ks js hrest
  rw [List.append_assoc, List.append_assoc]
  exact h previous hprevious _ _ fun k hk => h' k hk ks js hrest

theorem mono (h : Respells before src out after) (hbefore : ∀ k, before' k = true → before k = true)
    (hafter : ∀ k, after k = true → after' k = true) : Respells before' src out after' :=
  fun previous hprevious ks js hrest => h previous (hbefore _ hprevious) ks js fun k hk =>
    hrest k (hafter k hk)

theorem same {k : TokenKind} (hk : after k = true) : Respells before [k] [k] after :=
  fun _ _ _ _ hrest => .same (hrest k hk)

theorem number {text : String} {n : Nat} (hn : word64? text = some n)
    (hk : after (.number text) = true) :
    Respells before [.number text] [.number (toString n)] after :=
  fun _ _ _ _ hrest => .number hn (hrest _ hk)

theorem cons {k : TokenKind} (hk : middle k = true) (h : Respells middle src out after) :
    Respells before (k :: src) (k :: out) after := (same hk).append h

/-- Any token in front of what may stand behind everything. -/
theorem behind {k : TokenKind} (h : Respells (fun _ => true) src out after) :
    Respells before (k :: src) (k :: out) after :=
  cons rfl h

/-- A number and what may stand behind everything. -/
theorem numberBehind {text : String} {n : Nat} (hn : word64? text = some n)
    (h : Respells (fun _ => true) src out after) :
    Respells before (.number text :: src) (.number (toString n) :: out) after :=
  (number hn rfl).append h

end Respells

/-! ## Places along a text -/

def kinds (ks : List Piece) : List TokenKind := ks.map Piece.kind

@[simp] theorem kinds_nil : kinds [] = [] := rfl

@[simp] theorem kinds_cons (k : Piece) (ks : List Piece) : kinds (k :: ks) = k.kind :: kinds ks :=
  rfl

@[simp] theorem kinds_append (ks js : List Piece) : kinds (ks ++ js) = kinds ks ++ kinds js :=
  List.map_append

theorem headD_kinds (ks : List Piece) : (kinds ks).headD .eof = next ks := by
  cases ks <;> rfl

/-- All pieces have a place, and the first is no name in quotes. -/
def Placed (previous : TokenKind) (ks : List Piece) : Prop := havePlaces previous (kinds ks) = true

namespace Placed

variable {previous : TokenKind} {k : Piece} {ks js : List Piece}

theorem head (h : Placed previous (k :: ks)) : hasPlace previous k.kind (next ks) = true := by
  rw [← headD_kinds]
  exact (Bool.and_eq_true_iff.mp h).1

theorem tail (h : Placed previous (k :: ks)) : Placed k.kind ks := (Bool.and_eq_true_iff.mp h).2

theorem suffix (h : Placed previous (ks ++ js)) : ∃ p, Placed p js := by
  induction ks generalizing previous with
  | nil => exact ⟨previous, h⟩
  | cons k ks ih => exact ih h.tail

theorem size (h : Placed previous (k :: ks)) (hk : isNumber k.kind = true) :
    ∃ text n, k.kind = .number text ∧ word64? text = some n := by
  have hplace := h.head
  cases hkind : k.kind with
  | number text =>
    rw [hkind] at hplace
    obtain ⟨n, hn⟩ := Option.isSome_iff_exists.mp hplace
    exact ⟨text, n, rfl, hn⟩
  | _ => rw [hkind] at hk; cases hk

end Placed

/-! ## Names -/

def isQuotedName : TokenKind → Bool
  | .quotedIdentifier _ => true
  | _ => false

variable {r : Renderer} {q : Quoting} {ks js taken rest : List Piece} {name : String}
  {t : DataType Expr}

/-- A name without quotes is written as it stands. -/
structure NameSound (q : Quoting) (taken : List Piece) (name : String)
    (rest : List Piece) : Prop where
  nonempty : taken ≠ []
  spelled : isQuotedName (next taken) = false → IsTypeName name ∧ NameSpelled q name taken ∧
    Respells (fun _ => true) (kinds taken) (kinds taken) endsPart
  alone : isQuotedName (next taken) = false →
    (isFieldName (next taken) && isTypeWord (next (taken ++ rest).tail)) = false →
    Token.isWord name = true ∧ (isFieldName (Token.wordKind name) = true →
      isTypeWord (next rest) = false)

theorem typeNamed_sound (h : TypeNamed ks name rest) (hreal : ∀ k ∈ ks, k.Genuine q) :
    ∃ taken, ks = taken ++ rest ∧ NameSound q taken name rest := by
  induction h with
  | @word k rest hk =>
    obtain ⟨hword, hk'⟩ := (hreal k List.mem_cons_self).word hk
    refine ⟨[k], rfl, List.cons_ne_nil _ _,
      fun _ => ⟨.inl hword, ?_, .same (by rw [endsPart, hk, Bool.true_or, Bool.true_or])⟩,
      fun _ h => ⟨hword, fun hfield => ?_⟩⟩
    · rw [hk']
      exact .word hword
    · have hkind : k.kind = Token.wordKind k.text := congrArg Piece.kind hk'
      rw [← hkind] at hfield
      simpa [hfield] using h
  | @quoted k name rest hk =>
    have hquoted : isQuotedName (next [k]) ≠ false := by
      rw [Parser.next_cons, hk]
      exact Bool.noConfusion
    exact ⟨[k], rfl, List.cons_ne_nil _ _, fun h => absurd h hquoted, fun h => absurd h hquoted⟩
  | @second ks rest k name h hk hwords ih =>
    obtain ⟨taken, rfl, hname⟩ := ih hreal
    obtain ⟨⟨hfirst, hkind⟩, hsecond, hkind'⟩ := isTwoWord_facts hwords
    obtain ⟨-, hk'⟩ := (hreal k (by simp)).word hk
    have htaken (hquoted : isQuotedName (next (taken ++ [k])) = false) :
        taken = [.ofWord name] := by
      rw [Parser.next_append hname.nonempty] at hquoted
      exact (hname.spelled hquoted).2.1.eq_word hfirst
    refine ⟨taken ++ [k], by simp, by simp, fun hquoted => ?_, fun hquoted hfield => ?_⟩
    · obtain rfl := htaken hquoted
      have hends (word : String) : endsPart (.identifier word) = true := rfl
      have hspells : Respells (fun _ => true) _ _ _ := .cons (hends name) (.same (hends k.text))
      have hkinds : kinds ([.ofWord name] ++ [k]) = [.identifier name, .identifier k.text] := by
        show [Token.wordKind name, k.kind] = _
        rw [hkind, show k.kind = Token.wordKind k.text from congrArg Piece.kind hk', hkind']
      rw [hkinds]
      refine ⟨.inr ⟨name, _, rfl, hwords⟩, ?_, hspells⟩
      rw [hk']
      exact .words hwords
    · obtain rfl := htaken hquoted
      have hboth : (isFieldName (Token.wordKind name) && isTypeWord k.kind) = false := hfield
      rw [hkind, hk] at hboth
      cases hboth

/-! ## What stands in parentheses -/

/-- The tokens that were taken as an argument. -/
structure ArgumentSound (r : Renderer) (taken : List Piece) (e : Expr)
    (rest : List Piece) : Prop where
  readable : ∀ previous, startsPart previous = true → Placed previous (taken ++ rest) →
    ReadableArgument e
  spelled : ReadableArgument e → ∃ text js, ArgumentSpelled r e text js ∧
    ∀ previous, startsPart previous = true → Placed previous (taken ++ rest) →
      Respells startsPart (kinds taken) (kinds js) fun _ => true

def ArgumentFound (r : Renderer) (ks : List Piece) (e : Expr) (rest : List Piece) : Prop :=
  ∃ taken, ks = taken ++ rest ∧ ArgumentSound r taken e rest

/-- One expression has one spelling. -/
theorem ArgumentSpelled.unique {e : Expr} {text text' : String} (h : ArgumentSpelled r e text ks)
    (h' : ArgumentSpelled r e text' js) : ks = js := by
  obtain rfl : text = text' := Except.ok.inj (h.rendered.symm.trans h'.rendered)
  exact List.append_cancel_right (h.legible.lexes.finished.symm.trans h'.legible.lexes.finished)

theorem found_split {xs : List Expr} (h : Found (ArgumentFound r) ks xs rest) :
    ∃ taken, ks = taken ++ rest := by
  induction h with
  | last hx =>
    obtain ⟨taken, hsplit, -⟩ := hx
    exact ⟨taken, hsplit⟩
  | more hx _ _ ih =>
    obtain ⟨taken, rfl, -⟩ := hx
    obtain ⟨more, rfl⟩ := ih
    exact ⟨_, (List.append_assoc taken (_ :: more) _).symm⟩

theorem found_mem {xs : List Expr} (h : Found (ArgumentFound r) ks xs rest) :
    ∀ e ∈ xs, ∃ taken more, ArgumentSound r taken e more := by
  induction h with
  | last hx =>
    obtain ⟨taken, -, hx⟩ := hx
    exact fun e he => List.mem_singleton.mp he ▸ ⟨taken, _, hx⟩
  | more hx _ _ ih =>
    obtain ⟨taken, -, hx⟩ := hx
    intro e he
    rcases List.mem_cons.mp he with rfl | he
    · exact ⟨taken, _, hx⟩
    · exact ih e he

theorem found_sound {xs : List Expr} (h : Found (ArgumentFound r) ks xs rest) {previous : TokenKind}
    (hprevious : startsPart previous = true) (hplaced : Placed previous ks) :
    ∀ e ∈ xs, ReadableArgument e := by
  induction h generalizing previous with
  | last hx =>
    obtain ⟨taken, rfl, hx⟩ := hx
    exact fun e he => List.mem_singleton.mp he ▸ hx.readable previous hprevious hplaced
  | more hx hcomma _ ih =>
    obtain ⟨taken, rfl, hx⟩ := hx
    obtain ⟨p, hrest⟩ := hplaced.suffix
    intro e he
    rcases List.mem_cons.mp he with rfl | he
    · exact hx.readable previous hprevious hplaced
    · exact ih (by rw [hcomma]; rfl) hrest.tail e he

theorem found_spelled {x : Expr} {xs : List Expr} {text : Expr → String}
    {spelling : Expr → List Piece} (h : Found (ArgumentFound r) ks (x :: xs) rest)
    (hread : ∀ e ∈ x :: xs, ReadableArgument e)
    (hspelled : ∀ e ∈ x :: xs, ArgumentSpelled r e (text e) (spelling e)) :
    ∃ taken, ks = taken ++ rest ∧ ∀ previous, startsPart previous = true → Placed previous ks →
      Respells startsPart (kinds taken)
        (kinds (spelling x ++ xs.flatMap fun y => .comma :: spelling y)) fun _ => true := by
  induction xs generalizing x ks with
  | nil =>
    cases h with
    | last hx =>
      obtain ⟨taken, rfl, hx⟩ := hx
      obtain ⟨text', js, hspelled', hrespells⟩ := hx.spelled (hread x List.mem_cons_self)
      obtain rfl := (hspelled x List.mem_cons_self).unique hspelled'
      refine ⟨taken, rfl, fun previous hprevious hplaced => ?_⟩
      rw [List.flatMap_nil, List.append_nil]
      exact hrespells previous hprevious hplaced
    | more _ _ hxs => cases hxs
  | cons y ys ih =>
    cases h with
    | @more _ after _ comma _ _ hx hcomma hxs =>
      obtain ⟨taken, rfl, hx⟩ := hx
      obtain ⟨text', js, hspelled', hrespells⟩ := hx.spelled (hread x List.mem_cons_self)
      obtain rfl := (hspelled x List.mem_cons_self).unique hspelled'
      obtain ⟨more, rfl, hmore⟩ := ih hxs (fun e he => hread e (List.mem_cons_of_mem _ he))
        fun e he => hspelled e (List.mem_cons_of_mem _ he)
      refine ⟨taken ++ comma :: more, by simp, fun previous hprevious hplaced => ?_⟩
      obtain ⟨p, hrest⟩ := hplaced.suffix
      have hstarts : startsPart comma.kind = true := by
        rw [hcomma]
        rfl
      have hafter := hmore comma.kind hstarts hrest.tail
      have hboth := (hrespells previous hprevious hplaced).append (.cons hstarts hafter)
      have hmark : comma.kind = Piece.comma.kind := hcomma
      simpa [hmark] using hboth

/-- The tokens that were taken as what stands in parentheses behind a name. -/
structure SizeSound (r : Renderer) (taken : List Piece) (name : String) (t : DataType Expr)
    (rest : List Piece) : Prop where
  plain : t.name = name ∧ t.array = false ∧ t.suffix = []
  readable : ∀ previous, Placed previous (taken ++ rest) →
    (t.scale.isSome → t.length.isSome) ∧ (∀ e ∈ t.args, ReadableArgument e) ∧
      (taken = [] ∨ t.length.isSome ∨ t.args ≠ [])
  spelled : (t.scale.isSome → t.length.isSome) → (∀ e ∈ t.args, ReadableArgument e) →
    ∃ text js, SizeSpelled r t text js ∧
    ∀ previous, Placed previous (taken ++ rest) →
      Respells endsPart (kinds taken) (kinds js) endsPart

theorem size?_eq_some {k : TokenKind} {n : Nat} (h : size? k = some n) :
    ∃ text, k = .number text ∧ word64? text = some n ∧ n < Nat.pow 2 64 := by
  cases k with
  | number text =>
    have hword : word64? text = some n := h
    refine ⟨text, rfl, hword, ?_⟩
    unfold word64? at hword
    simp only at hword
    split at hword
    · rename_i hboth
      obtain rfl := Option.some.inj hword
      exact of_decide_eq_true (Bool.and_eq_true_iff.mp hboth).2
    · cases hword
  | _ => cases h

theorem sized_sound (h : Sized (ArgumentFound r) { name } ks t rest) :
    ∃ taken, ks = taken ++ rest ∧ SizeSound r taken name t rest := by
  have hends : endsPart (.symbol .rightParen) = true := rfl
  cases h with
  | none =>
    refine ⟨[], rfl, ⟨rfl, rfl, rfl⟩, fun _ _ => ⟨id, by simp, .inl rfl⟩,
      fun _ _ => ⟨"", [], .none name, fun _ _ => .nil⟩⟩
  | @length opening length closing _ hopening hlength hclosing =>
    have hsized {previous : TokenKind}
        (hplaced : Placed previous (opening :: length :: closing :: rest)) :
        ∃ n, size? length.kind = some n := by
      obtain ⟨text, n, hkind, hn⟩ := hplaced.tail.size hlength
      exact ⟨n, by rw [hkind, size?, hn]⟩
    refine ⟨[opening, length, closing], rfl, ⟨rfl, rfl, rfl⟩,
      fun _ hplaced => ⟨by simp, by simp, .inr (.inl ?_)⟩, fun _ _ => ?_⟩
    · obtain ⟨n, hn⟩ := hsized hplaced
      exact Option.isSome_iff_exists.mpr ⟨n, hn⟩
    · cases hsize : size? length.kind with
      | none =>
        refine ⟨"", [], .none name, fun _ hplaced => ?_⟩
        obtain ⟨n, hn⟩ := hsized hplaced
        cases hsize.symm.trans hn
      | some n =>
        obtain ⟨text, hkind, hn, hbound⟩ := size?_eq_some hsize
        refine ⟨_, _, .length hbound, fun _ _ => ?_⟩
        rw [show kinds [opening, length, closing] =
          .symbol .leftParen :: ([.number text] ++ [.symbol .rightParen]) by
          simp [kinds, hopening, hkind, hclosing]]
        exact .behind (.numberBehind hn (.same hends))
  | @scale opening length comma scale closing _ hopening hlength hcomma hclosing =>
    have hsized {previous : TokenKind}
        (hplaced : Placed previous (opening :: length :: comma :: scale :: closing :: rest)) :
        ∃ n m, size? length.kind = some n ∧ size? scale.kind = some m := by
      obtain ⟨text, n, hkind, hn⟩ := hplaced.tail.size hlength
      have hscale : isNumber scale.kind = true := by
        have hplace := hplaced.tail.tail.head
        rw [hcomma, hkind] at hplace
        exact hplace
      obtain ⟨text', m, hkind', hm⟩ := hplaced.tail.tail.tail.size hscale
      exact ⟨n, m, by rw [hkind, size?, hn], by rw [hkind', size?, hm]⟩
    refine ⟨[opening, length, comma, scale, closing], rfl, ⟨rfl, rfl, rfl⟩, fun _ hplaced => ?_,
      fun hscale _ => ?_⟩
    · obtain ⟨n, m, hn, hm⟩ := hsized hplaced
      have hlength : (size? length.kind).isSome = true := Option.isSome_iff_exists.mpr ⟨n, hn⟩
      exact ⟨fun _ => hlength, by simp, .inr (.inl hlength)⟩
    · cases hsize : size? length.kind with
      | none =>
        obtain hsize' : size? scale.kind = none := by simpa [hsize] using hscale
        rw [hsize']
        refine ⟨"", [], .none name, fun _ hplaced => ?_⟩
        obtain ⟨n, m, hn, hm⟩ := hsized hplaced
        cases hsize.symm.trans hn
      | some n =>
        obtain ⟨text, hkind, hn, hbound⟩ := size?_eq_some hsize
        cases hsize' : size? scale.kind with
        | none =>
          refine ⟨_, _, .length hbound, fun _ hplaced => ?_⟩
          obtain ⟨n, m, hn, hm⟩ := hsized hplaced
          cases hsize'.symm.trans hm
        | some m =>
          obtain ⟨text', hkind', hm, hbound'⟩ := size?_eq_some hsize'
          refine ⟨_, _, .scale hbound hbound', fun _ _ => ?_⟩
          rw [show kinds [opening, length, comma, scale, closing] =
            .symbol .leftParen :: ([.number text] ++
            (.symbol .comma :: ([.number text'] ++ [.symbol .rightParen]))) by
              simp [kinds, hopening, hkind, hcomma, hkind', hclosing]]
          exact .behind (.numberBehind hn (.behind (.numberBehind hm (.same hends))))
  | @arguments opening closing ks rest args hopening hargs hclosing =>
    obtain ⟨x, xs, rfl⟩ : ∃ x xs, args = x :: xs := by
      cases hargs with
      | last => exact ⟨_, _, rfl⟩
      | more => exact ⟨_, _, rfl⟩
    obtain ⟨inner, rfl⟩ := found_split hargs
    have hstarts : startsPart opening.kind = true := by
      rw [hopening]
      rfl
    have hplaced' {previous : TokenKind}
        (hplaced : Placed previous (opening :: (inner ++ [closing]) ++ rest)) :
        Placed opening.kind (inner ++ closing :: rest) := by
      have htail : Placed opening.kind ((inner ++ [closing]) ++ rest) := hplaced.tail
      rwa [List.append_assoc] at htail
    refine ⟨opening :: (inner ++ [closing]), by simp, ⟨rfl, rfl, rfl⟩, fun _ hplaced => ?_,
      fun _ hread => ?_⟩
    · exact ⟨by simp, found_sound hargs hstarts (hplaced' hplaced),
        .inr (.inr (List.cons_ne_nil _ _))⟩
    · have hexists : ∀ e ∈ x :: xs, ∃ text js, ArgumentSpelled r e text js := by
        intro e he
        obtain ⟨taken, rest, hfound⟩ := found_mem hargs e he
        obtain ⟨text, js, hspelled, -⟩ := hfound.spelled (hread e he)
        exact ⟨text, js, hspelled⟩
      obtain ⟨text, spelling, hspelled⟩ := exists_spellings hexists
      obtain ⟨inner', hsplit, hinner⟩ := found_spelled hargs hread hspelled
      obtain rfl := List.append_cancel_right hsplit
      refine ⟨_, _, .arguments hspelled, fun _ hplaced => ?_⟩
      have hmiddle := hinner _ hstarts (hplaced' hplaced)
      have hclosed : Respells (fun _ => true) [Piece.closing.kind] [Piece.closing.kind] endsPart :=
        .same hends
      have hboth : Respells endsPart _ _ _ := .cons hstarts (hmiddle.append hclosed)
      have hkinds : opening.kind = Piece.opening.kind ∧ closing.kind = Piece.closing.kind :=
        ⟨hopening, hclosing⟩
      simpa [hkinds] using hboth

/-! ## What stands behind -/

theorem bracketed_split {n : Nat} (h : Bracketed n ks rest) : ∃ taken, ks = taken ++ rest := by
  induction h with
  | none => exact ⟨[], rfl⟩
  | pair _ _ _ ih =>
    obtain ⟨taken, rfl⟩ := ih
    exact ⟨_ :: _ :: taken, rfl⟩

/-- Only one pair of brackets has a place. -/
theorem bracketed_sound {pairs : List Unit} (h : Bracketed pairs.length ks rest)
    (hreal : ∀ k ∈ ks, k.Genuine q) :
    ∃ taken, ks = taken ++ rest ∧ ((!pairs.isEmpty) = true → q.bracketNames = false) ∧
      (pairs.isEmpty = true → taken = []) ∧
      ∀ previous, Placed previous ks →
        Respells endsPart (kinds taken) (kinds (bracketPieces (!pairs.isEmpty))) endsPart := by
  cases pairs with
  | nil =>
    cases h
    exact ⟨[], rfl, by simp, fun _ => rfl, fun _ _ => .nil⟩
  | cons pair pairs =>
    cases h with
    | @pair _ opening closing ks _ hopening hclosing h =>
      have hnames : q.bracketNames = false := (hreal opening List.mem_cons_self).bracket hopening
      cases pairs with
      | nil =>
        cases h
        refine ⟨[opening, closing], rfl, fun _ => hnames, by simp, fun _ _ => ?_⟩
        rw [show kinds [opening, closing] =
          [.symbol .leftBracket, .symbol .rightBracket] by simp [hopening, hclosing]]
        exact .behind (.same rfl)
      | cons pair' pairs =>
        cases h with
        | @pair _ opening' closing' ks _ hopening' hclosing' h =>
          obtain ⟨taken, rfl⟩ := bracketed_split h
          refine ⟨opening :: closing :: opening' :: closing' :: taken, rfl,
            fun _ => hnames, by simp, fun _ hplaced => ?_⟩
          have hplace := hplaced.tail.tail.head
          rw [hclosing, hopening'] at hplace
          cases hplace

theorem typeSuffixes_facts : ∀ word ∈ typeSuffixes,
    word.toList.all (·.toNat < 0x80) = true ∧ word.toList.map Char.toLower = word.toList := by
  decide +kernel

theorem suffixed_sound {words : List String} (h : Suffixed ks words rest) :
    ∃ taken, ks = taken ++ rest ∧ (∀ word ∈ words, word ∈ typeSuffixes) ∧
      (isTypeWord (next ks) = false → words = []) ∧
        Respells endsPart (kinds taken) (kinds (suffixPieces words)) endsPart := by
  induction h with
  | none => exact ⟨[], rfl, by simp, fun _ => rfl, .nil⟩
  | @word k ks rest word words hword hk hsame h ih =>
    obtain ⟨taken, rfl, hwords, -, hrespells⟩ := ih
    obtain ⟨hascii, hsmall⟩ := typeSuffixes_facts word hword
    have hlower : Text.lower k.text = word := Text.lower_of_sameAscii hsame hascii hsmall
    rw [hlower]
    refine ⟨k :: taken, rfl, fun w hw => ?_, fun hend => ?_,
      fun previous hprevious js js' hrest => ?_⟩
    · rcases List.mem_cons.mp hw with rfl | hw
      · exact hword
      · exact hwords w hw
    · rw [Parser.next_cons, hk] at hend
      cases hend
    · rw [kinds_cons, hk]
      exact .suffix hprevious hword hsame (hrespells _ rfl js js' hrest)

/-! ## Types -/

/-- The tokens that were taken as a type. -/
structure TypeSound (r : Renderer) (taken : List Piece) (t : DataType Expr)
    (rest : List Piece) : Prop where
  nonempty : taken ≠ []
  readable : ∀ previous, isQuotedName (next taken) = false → Placed previous (taken ++ rest) →
    t.Readable ∧
    ((isFieldName (next taken) && isTypeWord (next (taken ++ rest).tail)) = false → t.StandsAlone)
  spelled : t.Readable → ∃ text js, TypeSpelled r t text js ∧
    ∀ previous, isQuotedName (next taken) = false → Placed previous (taken ++ rest) →
      Respells (fun _ => true) (kinds taken) (kinds js) endsPart

def TypeFound (r : Renderer) (ks : List Piece) (t : DataType Expr) (rest : List Piece) : Prop :=
  ∃ taken, ks = taken ++ rest ∧ TypeSound r taken t rest

theorem type_sound {sized bracketed suffixed : List Piece} {pairs : List Unit} {words : List String}
    (hname : TypeNamed ks name sized) (hsize : Sized (ArgumentFound r) { name } sized t bracketed)
    (hpairs : Bracketed pairs.length bracketed suffixed) (hwords : Suffixed suffixed words rest)
    (hreal : ∀ k ∈ ks, k.Genuine r.config.dialect.quoting) :
    TypeFound r ks { t with array := !pairs.isEmpty, suffix := words } rest := by
  obtain ⟨named, rfl, hnamed⟩ := typeNamed_sound hname hreal
  obtain ⟨sizeTaken, rfl, hsized⟩ := sized_sound hsize
  obtain ⟨bracketTaken, rfl, hquoting, hbare, hbrackets⟩ :=
    bracketed_sound hpairs fun k hk => hreal k (by simp [hk])
  obtain ⟨suffixTaken, rfl, hsuffix, hnone, hsuffixes⟩ := suffixed_sound hwords
  obtain ⟨rfl, -, -⟩ := hsized.plain
  have hfirst : next (named ++ (sizeTaken ++ (bracketTaken ++ suffixTaken))) = next named :=
    Parser.next_append hnamed.nonempty _
  have hsplit : named ++ (sizeTaken ++ (bracketTaken ++ suffixTaken)) ++ rest =
      named ++ (sizeTaken ++ (bracketTaken ++ (suffixTaken ++ rest))) := by
    simp only [List.append_assoc]
  refine ⟨named ++ (sizeTaken ++ (bracketTaken ++ suffixTaken)), hsplit.symm, ?_,
    fun previous hquoted hplaced => ?_, fun hread => ?_⟩
  · exact List.append_ne_nil_of_left_ne_nil hnamed.nonempty _
  · rw [hfirst] at hquoted
    rw [hsplit] at hplaced
    rw [hfirst, hsplit]
    obtain ⟨p, hplacedSize⟩ := hplaced.suffix
    obtain ⟨hscale, hargs, hshown⟩ := hsized.readable p hplacedSize
    refine ⟨.mk (hnamed.spelled hquoted).1 hscale hargs, fun hfield => ?_⟩
    obtain ⟨hword, hapart⟩ := hnamed.alone hquoted hfield
    refine ⟨hword, fun hname => ?_⟩
    have hnext := hapart hname
    rcases hshown with rfl | hlength | hargs
    · cases hempty : pairs.isEmpty with
      | true =>
        rw [hbare hempty] at hnext
        exact .inl (hnone hnext)
      | false => exact .inr (.inr (.inr rfl))
    · exact .inr (.inl hlength)
    · exact .inr (.inr (.inl hargs))
  · obtain ⟨hname, hscale, hargs⟩ := hread
    obtain ⟨size, sizeJs, hsizeSpelled, hsizeRespells⟩ := hsized.spelled hscale hargs
    by_cases hquoted : isQuotedName (next named) = false
    · obtain ⟨-, hspelled, hrespells⟩ := hnamed.spelled hquoted
      refine ⟨_, _, .assembled hspelled hsizeSpelled hquoting hsuffix, fun previous _ hplaced => ?_⟩
      rw [hsplit] at hplaced
      obtain ⟨p, hplacedSize⟩ := hplaced.suffix
      obtain ⟨p', hplacedBrackets⟩ := hplacedSize.suffix
      have hall :=
        hrespells.append ((hsizeRespells p hplacedSize).append
          ((hbrackets p' hplacedBrackets).append hsuffixes))
      simpa using hall
    · obtain ⟨js, hspelled⟩ := hname.spelled (q := r.config.dialect.quoting)
      refine ⟨_, _, .assembled hspelled hsizeSpelled hquoting hsuffix, fun previous hquoted' => ?_⟩
      rw [hfirst] at hquoted'
      exact absurd hquoted' hquoted

/-! ## What the readers take -/

namespace Parser

theorem identifier_finds {d : Dialect} :
    Finds d identifier ks fun name rest => ∃ k, ks = k :: rest ∧ name? k = some name := by
  refine .look ?_
  cases ks with
  | nil => exact .unexpected
  | cons k ks =>
    rw [next_cons]
    cases hk : k.kind with
    | identifier name | quotedIdentifier name => exact .step (.pure ⟨k, rfl, by rw [name?, hk]⟩)
    | keyword word =>
      cases hunreserved : word.isUnreserved with
      | false => simp only [hunreserved]; exact .unexpected
      | true =>
        simp only [hunreserved, if_true]
        exact .text (.step (.pure ⟨k, rfl, by simp [name?, hk, hunreserved]⟩))
    | _ => exact .unexpected

end Parser

variable {opening closing : Char}

theorem isQuotedName_of_isTypeWord {k : TokenKind} (h : isTypeWord k = true) :
    isQuotedName k = false := by
  cases k <;> first | rfl | cases h

theorem field_sound {k : Piece} (hr : r.Standard opening closing)
    (hreal : k.Genuine r.config.dialect.quoting) (hfield : isFieldName k.kind = true)
    (htype : isTypeWord (next taken) = true) (hname : Parser.name? k = some name)
    (h : TypeSound r taken t rest) :
    ArgumentSound r (k :: taken) (.mk (.columnDefinition (.ofName name t))) rest := by
  have hkind : k.kind = .identifier name ∨ k.kind = .quotedIdentifier name := by
    cases hk : k.kind with
    | identifier text | quotedIdentifier text =>
      obtain rfl : text = name := by simpa [Parser.name?, hk] using hname
      simp
    | _ => rw [hk] at hfield; cases hfield
  have hquoted := isQuotedName_of_isTypeWord htype
  refine ⟨fun previous hprevious hplaced => ?_, fun hread => ?_⟩
  · have hstar : isName name = true := by
      rcases hkind with hk | hk
      · obtain rfl := hreal.identifier hk
        obtain ⟨hword, -⟩ := hreal.word (by rw [hk]; rfl)
        refine bne_iff_ne.mpr fun hstar => ?_
        rw [hstar] at hword
        exact absurd hword (by decide)
      · have hplace : hasPlace previous k.kind (next (taken ++ rest)) = true := Placed.head hplaced
        rw [hk] at hplace
        exact (Bool.and_eq_true_iff.mp (Bool.and_eq_true_iff.mp hplace).1).1
    refine .field ?_ (h.readable k.kind hquoted hplaced.tail).1
    show ColumnName.ofText name ≠ .star
    rw [ColumnName.ofText, if_neg (bne_iff_ne.mp hstar)]
    intro heq
    cases heq
  · cases hread with
    | field hstar hread =>
      have hname : isName name = true := by
        refine bne_iff_ne.mpr fun heq => hstar ?_
        show ColumnName.ofText name = .star
        rw [ColumnName.ofText, if_pos heq]
      obtain ⟨text, js, hspelled, hrespells⟩ := h.spelled hread
      obtain ⟨text', hargument⟩ := ArgumentSpelled.field hr hname hspelled
      refine ⟨text', _, hargument, fun previous hprevious hplaced p hp ks js' hrest => ?_⟩
      have hinner (p : TokenKind) :=
        hrespells k.kind hquoted hplaced.tail p rfl ks js' fun k _ => hrest k rfl
      rcases hkind with hk | hk
      · rw [kinds_cons, hk]
        refine .field hp ?_ (hinner .eof)
        rw [← headD_kinds] at htype
        cases taken with
        | nil => cases htype
        | cons => exact htype
      · rw [kinds_cons, hk]
        exact .same (hinner _)

theorem argument_sound (h : TypeSound r taken t rest)
    (hfield : (isFieldName (next taken) && isTypeWord (next (taken ++ rest).tail)) = false) :
    ArgumentSound r taken (.mk (.dataType t)) rest := by
  have hbare {previous : TokenKind} (hplaced : Placed previous (taken ++ rest)) :
      isQuotedName (next taken) = false := by
    obtain ⟨k, more, rfl⟩ := List.exists_cons_of_ne_nil h.nonempty
    have hplace : hasPlace previous k.kind (next (more ++ rest)) = true := Placed.head hplaced
    cases hk : k.kind with
    | quotedIdentifier name =>
      rw [hk] at hplace
      have htype : isTypeWord (next (more ++ rest)) = true := (Bool.and_eq_true_iff.mp hplace).2
      rw [show next (k :: more) = k.kind from rfl, hk] at hfield
      exact absurd htype (by simpa [isFieldName] using hfield)
    | _ => rw [Parser.next_cons, hk]; rfl
  refine ⟨fun previous _ hplaced => ?_, fun hread => ?_⟩
  · obtain ⟨hread, halone⟩ := h.readable previous (hbare hplaced) hplaced
    exact .type (halone hfield) hread
  · cases hread with
    | type halone hread =>
      obtain ⟨text, js, hspelled, hrespells⟩ := h.spelled hread
      refine ⟨text, js, .type hspelled halone, fun previous _ hplaced => ?_⟩
      exact (hrespells previous (hbare hplaced) hplaced).mono (fun _ _ => rfl) fun _ _ => rfl

theorem typeArgument_finds {i : Nested} (hr : r.Standard opening closing)
    (hi : ∀ ks, Finds r.config.dialect i.dataType ks (TypeFound r ks)) :
    Finds r.config.dialect i.typeArgument ks (ArgumentFound r ks) := by
  refine .real fun hreal => .look (.peek ?_)
  cases hfield : isFieldName (next ks) && isTypeWord (next ks.tail) with
  | true =>
    obtain ⟨hname, htype⟩ := Bool.and_eq_true_iff.mp hfield
    refine .bind (Parser.identifier_finds.mono fun name js hfound => ?_)
    obtain ⟨k, rfl, hk⟩ := hfound
    refine .bind ((hi js).mono fun t rest hfound => .pure ?_)
    obtain ⟨taken, rfl, ht⟩ := hfound
    rw [List.tail_cons, Parser.next_append ht.nonempty] at htype
    exact ⟨k :: taken, rfl, field_sound hr (hreal k List.mem_cons_self) hname htype hk ht⟩
  | false =>
    have htype : Finds r.config.dialect (do return Expr.mk (.dataType (← i.dataType))) ks
        (ArgumentFound r ks) := by
      refine .bind ((hi ks).mono fun t rest hfound => .pure ?_)
      obtain ⟨taken, rfl, ht⟩ := hfound
      rw [Parser.next_append ht.nonempty] at hfield
      exact ⟨taken, rfl, argument_sound ht hfield⟩
    refine .look ?_
    cases hk : next ks with
    | string value =>
      cases ks with
      | nil => cases hk
      | cons k ks =>
        refine .step (.pure ⟨[k], rfl, fun _ _ _ => .string,
          fun _ => ⟨_, _, .string value, fun _ _ _ => ?_⟩⟩)
        rw [show kinds [k] = [.string value] from congrArg (fun k => [k]) hk]
        exact .same rfl
    | _ => exact htype

theorem dataType_finds (hr : r.Standard opening closing) (n : Nat) :
    Finds r.config.dialect (nested n).dataType ks (TypeFound r ks) := by
  induction n generalizing ks with
  | zero => exact .unexpected
  | succ n ih =>
    show Finds r.config.dialect (nested n).readDataType ks (TypeFound r ks)
    refine .real fun hreal => ?_
    refine .bind (Parser.typeName_finds.mono fun first js hfirst => ?_)
    refine .bind ((Parser.secondWord_finds (List.Subset.refl _) hfirst).mono
      fun name sized hname => ?_)
    refine .bind ((Parser.typeArguments_finds fun ks => typeArgument_finds hr fun ks => ih).mono
      fun t bracketed hsize => ?_)
    refine .bind (.rounds (Parser.brackets_finds.mono fun pairs suffixed hpairs => ?_))
    exact .rounds (.bind (Parser.suffixWords_finds.mono fun words rest hwords =>
      .pure (type_sound hname hsize hpairs hwords hreal)))

/-! ## Whole texts -/

theorem havePlaces_end {previous : TokenKind} {ks : List TokenKind}
    (h : havePlaces previous (ks ++ [.eof]) = true) :
    havePlaces previous ks = true := by
  induction ks generalizing previous with
  | nil => rfl
  | cons k ks ih =>
    obtain ⟨hk, hks⟩ := Bool.and_eq_true_iff.mp h
    refine Bool.and_eq_true_iff.mpr ⟨?_, ih hks⟩
    cases ks with
    | nil => exact hk
    | cons => exact hk

theorem kinds_pieces (d : Dialect) (text : String) :
    kinds (Token.pieces d.quoting text.toList) = (tokenize d text).map Token.kind :=
  List.map_map

theorem startState_standsIn (d : Dialect) (text : String) :
    ∃ ks, StandsIn d ⟨text, d⟩ (startState d text) ks ∧
      (tokenize d text).map Token.kind = kinds ks ++ [.eof] ∧
      ∀ k ∈ ks, k.kind ≠ .eof := by
  have hstart : Parser.OnText (fun _ => True) ⟨text, d⟩ (startState d text) :=
    Parser.startState_onText fun _ _ => trivial
  obtain ⟨ks, hks⟩ := hstart.standsIn
  obtain ⟨hsplit, hinner⟩ := Parser.tokenize_split d text
  have hkinds : (tokenize d text).map Token.kind = kinds ks ++ [.eof] := by
    have hpieces := congrArg kinds hks.stands
    rw [startState_pieces, kinds_pieces, kinds_append] at hpieces
    exact hpieces
  refine ⟨ks, hks, hkinds, fun k hk => ?_⟩
  rw [hsplit, List.map_append] at hkinds
  have hmem : k.kind ∈ (tokensOf d text).map Token.kind := by
    rw [List.append_cancel_right hkinds]
    exact List.mem_map_of_mem hk
  obtain ⟨a, ha, hkind⟩ := List.mem_map.mp hmem
  rw [← hkind]
  exact (hinner a ha).1

/-- The tokens of a rendered type are those it was read from, if all of these have a place in it. -/
theorem dataType_respelled {d : Dialect} (hd : d.identifierQuote ≠ .bare) (mode : RenderMode)
    {text : String} {t : DataType Expr} {u : ParserState}
    (hread : Returns (readersFor (startState d text)).dataType ⟨text, d⟩ (startState d text) t u)
    (hend : u.current.kind = .eof)
    (hplaces : havePlaces .eof ((tokenize d text).map Token.kind) = true) :
    ∃ sql, Render.dataType (t.map (Renderer.item { config := ⟨d, mode⟩ })) = .ok sql ∧
      Respelled .eof ((tokenize d text).map Token.kind) ((tokenize d sql).map Token.kind) := by
  obtain ⟨opening, closing, hr⟩ := Renderer.standard_of_delimited hd mode
  obtain ⟨ks, hstands, hkinds, hinner⟩ := startState_standsIn d text
  obtain ⟨rest, hu, taken, rfl, ht⟩ := dataType_finds hr _ _ _ _ _ hstands hread
  obtain rfl : rest = [] := by
    cases rest with
    | nil => rfl
    | cons k rest => exact absurd (hu.stands.kind.symm.trans hend) (hinner k (by simp))
  rw [List.append_nil] at hkinds
  have hplaced : Placed .eof (taken ++ []) := by
    rw [hkinds] at hplaces
    rw [List.append_nil]
    exact havePlaces_end hplaces
  have hquoted : isQuotedName (next taken) = false := by
    obtain ⟨k, more, rfl⟩ := List.exists_cons_of_ne_nil ht.nonempty
    have hplace : hasPlace _ k.kind (next (more ++ [])) = true := Placed.head hplaced
    cases hk : k.kind with
    | quotedIdentifier name =>
      rw [hk] at hplace
      simp [hasPlace] at hplace
    | _ => rw [Parser.next_cons, hk]; rfl
  obtain ⟨sql, js, hspelled, hrespells⟩ := ht.spelled (ht.readable .eof hquoted hplaced).1
  refine ⟨sql, hspelled.rendered, ?_⟩
  have hsql : (tokenize d sql).map Token.kind = kinds js ++ [.eof] := by
    rw [← kinds_pieces, hspelled.legible.lexes.finished, kinds_append]
    rfl
  rw [hkinds, hsql]
  exact hrespells .eof hquoted hplaced .eof rfl _ _ fun _ _ => .same .done

/-- The type that a text is read as, from what it is rendered as. -/
theorem reads_dataType {r : Renderer} {d : Dialect} {text sql : String}
    (h : ((readersFor (startState d text)).dataType ⟨text, d⟩ (startState d text)).toOption.map
      (fun x => (x.2.current.kind, (Render.dataType (x.1.map r.item)).toOption)) =
        some (.eof, some sql)) :
    ∃ t u, Returns (readersFor (startState d text)).dataType ⟨text, d⟩ (startState d text) t u ∧
      u.current.kind = .eof ∧
      Render.dataType (t.map r.item) = .ok sql := by
  obtain ⟨t, u, ht, hend, hsql⟩ :=
    Parser.reads_of_toOption (readersFor (startState d text)).dataType d text
    (fun t _ => (Render.dataType (t.map r.item)).toOption) h
  refine ⟨t, u, ht, hend, ?_⟩
  cases hrun : Render.dataType (t.map r.item) with
  | error e =>
    rw [hrun] at hsql
    cases hsql
  | ok text =>
    rw [hrun] at hsql
    rw [Option.some.inj hsql]

theorem dataType_respelled_nested :
    let text := "MAP(VARCHAR(007), STRUCT(a INT unsigned))[]"
    ∃ t u sql, Returns (readersFor (startState .mySql text)).dataType ⟨text, .mySql⟩
      (startState .mySql text) t u ∧
      Render.dataType (t.map (Renderer.item { config := ⟨.mySql, .strict⟩ })) = .ok sql ∧
      sql = "MAP(VARCHAR(7), STRUCT(`a` INT UNSIGNED))[]" ∧
      Respelled .eof ((tokenize .mySql text).map Token.kind)
        ((tokenize .mySql sql).map Token.kind) := by
  intro text
  obtain ⟨t, u, ht, hend, hsql⟩ := @reads_dataType { config := ⟨.mySql, .strict⟩ } .mySql text
    "MAP(VARCHAR(7), STRUCT(`a` INT UNSIGNED))[]" (by decide +kernel)
  obtain ⟨sql, hsql', hrespelled⟩ :=
    dataType_respelled (by decide) .strict ht hend (by decide +kernel)
  exact ⟨t, u, sql, ht, hsql', Except.ok.inj (hsql'.symm.trans hsql), hrespelled⟩

/-- Of two pairs of brackets one is kept, and a scale that is no number is left out. -/
theorem dataType_tokens_lost :
    let r : Renderer := { config := ⟨.mySql, .strict⟩ }
    ∀ lost ∈ [("INT[][]", "INT[]"), ("DECIMAL(10, x)", "DECIMAL(10)")],
      (∃ t u, Returns (readersFor (startState .mySql lost.1)).dataType ⟨lost.1, .mySql⟩
        (startState .mySql lost.1) t u ∧
        u.current.kind = .eof ∧ Render.dataType (t.map r.item) = .ok lost.2) ∧
      ¬ Respelled .eof ((tokenize .mySql lost.1).map Token.kind)
        ((tokenize .mySql lost.2).map Token.kind) := by
  intro r lost hlost
  have hruns : ∀ lost ∈ [("INT[][]", "INT[]"), ("DECIMAL(10, x)", "DECIMAL(10)")],
      ((readersFor (startState .mySql lost.1)).dataType ⟨lost.1, .mySql⟩
        (startState .mySql lost.1)).toOption.map (fun x =>
        (x.2.current.kind, (Render.dataType (x.1.map r.item)).toOption)) =
          some (.eof, some lost.2) ∧
      ((tokenize .mySql lost.1).map Token.kind).length ≠
        ((tokenize .mySql lost.2).map Token.kind).length := by
    decide +kernel
  obtain ⟨hrun, hlength⟩ := hruns lost hlost
  exact ⟨reads_dataType hrun, fun h => hlength h.length_eq⟩

end SqlWeave
