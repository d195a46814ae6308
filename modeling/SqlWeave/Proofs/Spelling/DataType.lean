import SqlWeave.Proofs.Parser.TypeTokens
import SqlWeave.Proofs.Spelling.Operand
import SqlWeave.Proofs.Token.Words

/-! Types that are read back: what they are written as, and that it is read as the type again before
everything that cannot belong to it. -/

namespace SqlWeave

open Decimal (word64?)
open SqlWeave.Parser (IsTwoWord Nested Reads isFieldName isNumber isTypeWord nested next
  typeSuffixes twoWordTypes)
open Render (Item commas inParens)
open Text (enclose)
open Token (Cuts Lexes Piece Quoting endsWord isApart)

variable {r : Renderer} {q : Quoting} {opening closing : Char} {name : String} {t : DataType Expr}
  {rest : List Piece}

/-- The words that a type goes on with. -/
def typeWords : List String := twoWordTypes.map Prod.snd ++ typeSuffixes

/-- Whether no type goes on with a token. -/
def endsType (k : TokenKind) : Bool :=
  !(k == .symbol .leftParen || k == .symbol .leftBracket || typeWords.any k.isWord)

/-! ## Names -/

/-- A name of a type that is read without quotes. -/
def IsTypeName (name : String) : Prop :=
  Token.isWord name = true ∨ ∃ first second, name = first ++ " " ++ second ∧ IsTwoWord first second

/-- The words of two-word names are words, and not reserved. -/
theorem isTwoWord_facts {first second : String} (h : IsTwoWord first second) :
    (Token.isWord first = true ∧ Token.wordKind first = .identifier first) ∧
      Token.isWord second = true ∧ Token.wordKind second = .identifier second := by
  have hall : ∀ words ∈ twoWordTypes, ∀ word ∈ [words.1, words.2],
      word ≠ "" ∧ word.toList.all (·.toLower.isAlpha) = true ∧
        Keyword.lookup? word = none := by decide
  have hword {a b : String} (hsame : Text.sameAscii a b = true)
      (hb : b ≠ "" ∧ b.toList.all (·.toLower.isAlpha) = true ∧ Keyword.lookup? b = none) :
      Token.isWord a = true ∧ Token.wordKind a = .identifier a := by
    obtain ⟨hne, hletters, hlookup⟩ := hb
    refine ⟨Token.isWord_of_sameAscii hsame hne hletters, ?_⟩
    rw [Token.wordKind, Keyword.lookup?_congr hsame, hlookup]
  obtain ⟨words, hwords, hfirst, hsecond⟩ := h
  exact ⟨hword hfirst (hall words hwords _ (by simp)),
    hword hsecond (hall words hwords _ (by simp))⟩

/-- The name of a type is written as these pieces and read from them. -/
structure NameSpelled (q : Quoting) (name : String) (ks : List Piece) : Prop where
  cuts : ∀ rest, endsWord rest = true → Cuts q rest name.toList ks
  opens : isTypeWord (next ks) = true
  reads : ∀ rest, (twoWordTypes.map Prod.snd).any (next rest).isWord = false → ∃ first js,
    Reads Parser.typeName (ks ++ rest) first js ∧
      Reads (Parser.secondWord first twoWordTypes) js name rest

theorem typeName_reads {k : Piece} (h : isTypeWord k.kind = true) :
    Reads Parser.typeName (k :: rest) k.text rest := by
  refine .look ?_
  rw [Parser.next_cons]
  cases hk : k.kind with
  | identifier | keyword => exact .text (.step (.pure _))
  | _ => rw [hk] at h; cases h

theorem isTypeWord_wordKind (name : String) : isTypeWord (Token.wordKind name) = true := by
  unfold Token.wordKind
  split <;> rfl

theorem secondWord_stays {words : List (String × String)}
    (h : (words.map Prod.snd).any (next rest).isWord = false) :
    Reads (Parser.secondWord name words) rest name rest := by
  induction words with
  | nil => exact .pure _
  | cons pair words ih =>
    obtain ⟨first, second⟩ := pair
    simp only [List.map_cons, List.any_cons, Bool.or_eq_false_iff] at h
    refine .test (Parser.isAtWord_asks second) ?_
    rw [h.1, Bool.and_false]
    exact ih h.2

theorem NameSpelled.word (h : Token.isWord name = true) : NameSpelled q name [.ofWord name] where
  cuts := fun _ hrest => .word h hrest
  opens := isTypeWord_wordKind name
  reads := fun _ hrest => ⟨name, _, typeName_reads (isTypeWord_wordKind name),
    secondWord_stays hrest⟩

theorem NameSpelled.eq_word {ks : List Piece} (h : NameSpelled q name ks)
    (hword : Token.isWord name = true) :
    ks = [.ofWord name] :=
  List.append_cancel_right ((h.cuts [] rfl).pieces_eq.symm.trans (Cuts.word hword rfl).pieces_eq)

/-- The second word belongs to the first it is listed with. -/
theorem secondWord_takes {first second : String} (h : IsTwoWord first second)
    (hrest : (twoWordTypes.map Prod.snd).any (next rest).isWord = false) :
    Reads (Parser.secondWord first twoWordTypes) (.ofWord second :: rest) (first ++ " " ++ second)
      rest := by
  obtain ⟨-, -, hkind⟩ := isTwoWord_facts h
  have hnext : next (Piece.ofWord second :: rest) = .identifier second := hkind
  obtain ⟨words, hwords, hfirst, hsecond⟩ := h
  have hstays {more : List (String × String)} (hmore : more ⊆ twoWordTypes) :
      Reads (Parser.secondWord (first ++ " " ++ second) more) rest (first ++ " " ++ second)
        rest := by
    refine secondWord_stays ?_
    rw [List.any_eq_false] at hrest ⊢
    exact fun word hword => hrest word (List.map_subset _ hmore hword)
  rcases List.mem_cons.mp hwords with rfl | hwords
  · refine .test (Parser.isAtWord_asks "precision") ?_
    rw [hnext, TokenKind.isWord, hfirst, hsecond]
    exact .text (.step (hstays (List.subset_cons_self _ _)))
  · obtain rfl := List.mem_singleton.mp hwords
    have hother : Text.sameAscii first "double" = false := by
      have hsame : first.toList.map Char.toLower = "character".toList.map Char.toLower :=
        beq_iff_eq.mp hfirst
      unfold Text.sameAscii
      rw [hsame]
      decide
    refine .test (Parser.isAtWord_asks "precision") ?_
    rw [hother, Bool.false_and]
    refine .test (Parser.isAtWord_asks "varying") ?_
    rw [hnext, TokenKind.isWord, hfirst, hsecond]
    exact .text (.step (hstays (List.nil_subset _)))

theorem NameSpelled.words {first second : String} (h : IsTwoWord first second) :
    NameSpelled q (first ++ " " ++ second) [.ofWord first, .ofWord second] := by
  obtain ⟨⟨hfirst, hkind⟩, hsecond, -⟩ := isTwoWord_facts h
  refine ⟨fun rest hrest => ?_, isTypeWord_wordKind first, fun rest hrest =>
    ⟨first, _, typeName_reads (isTypeWord_wordKind first), secondWord_takes h hrest⟩⟩
  have hlast : Cuts q rest (' ' :: second.toList) [.ofWord second] :=
    .blank (by decide) (.word hsecond hrest)
  have hcuts :
      Cuts q rest (first.toList ++ ' ' :: second.toList) ([.ofWord first] ++ [.ofWord second]) :=
    .append (.word hfirst rfl) hlast
  simpa using hcuts

theorem IsTypeName.spelled (h : IsTypeName name) : ∃ ks, NameSpelled q name ks := by
  rcases h with hword | ⟨first, second, rfl, hwords⟩
  · exact ⟨_, .word hword⟩
  · exact ⟨_, .words hwords⟩

/-! ## What stands behind -/

def bracketPieces (array : Bool) : List Piece :=
  if array then [⟨.symbol .leftBracket, "["⟩, ⟨.symbol .rightBracket, "]"⟩] else []

def suffixPieces (suffix : List String) : List Piece :=
  suffix.map fun word => .plain (Text.upper word)

theorem brackets_cuts (array : Bool) (h : array = true → q.bracketNames = false)
    {rest : List Char} :
    Cuts q rest (if array then "[]" else "").toList (bracketPieces array) := by
  cases array with
  | false => exact .done
  | true =>
    have hscan : Token.scan q '[' (']' :: rest) = (.symbol .leftBracket, 0) := by
      rw [Token.scan_bracket, h rfl]
      rfl
    exact .sign (by decide) rfl hscan (.mark rfl (by decide) (fun _ => rfl) .done)

theorem brackets_read (array : Bool) (rest : List Piece) (h : next rest ≠ .symbol .leftBracket) :
    Reads (Parser.many Nested.bracketPair Parser.advance) (bracketPieces array ++ rest)
      (if array then [()] else []) rest := by
  have hstop : Reads Nested.bracketPair rest false rest := by
    refine .test (Parser.isAt_asks .leftBracket) (.peek ?_)
    rw [beq_eq_false_iff_ne.mpr h]
    exact .pure _
  have hnone (n : Nat) :
      Reads (Parser.manyWithin Nested.bracketPair Parser.advance (n + 1)) rest [] rest :=
    hstop.bind (.pure _)
  cases array with
  | false => exact .rounds (hnone _)
  | true =>
    have htake : Reads Nested.bracketPair (bracketPieces true ++
        rest) true (⟨.symbol .rightBracket, "]"⟩ :: rest) :=
      .test (Parser.isAt_asks .leftBracket) (.peek (.step (.pure _)))
    exact .rounds (htake.bind (Reads.step ((hnone _).bind (.pure _))))

theorem suffix_facts : ∀ word ∈ typeSuffixes, Token.isWord (Text.upper word) = true ∧
    Token.wordKind (Text.upper word) = .identifier (Text.upper word) ∧
      Text.lower (Text.upper word) = word ∧
    typeSuffixes.any (TokenKind.identifier (Text.upper word)).isWord = true := by
  decide +kernel

theorem next_suffix {P : TokenKind → Prop} {suffix : List String}
    (h : ∀ word ∈ suffix, word ∈ typeSuffixes)
    (hword : ∀ word ∈ typeSuffixes, P (.identifier (Text.upper word))) (hrest : P (next rest)) :
    P (next (suffixPieces suffix ++ rest)) := by
  cases suffix with
  | nil => exact hrest
  | cons word suffix => exact hword word (h word List.mem_cons_self)

theorem next_behind {P : TokenKind → Prop} (array : Bool) {suffix : List String}
    (h : ∀ word ∈ suffix, word ∈ typeSuffixes) (hbracket : P (.symbol .leftBracket))
    (hword : ∀ word ∈ typeSuffixes, P (.identifier (Text.upper word))) (hrest : P (next rest)) :
    P (next (bracketPieces array ++ (suffixPieces suffix ++ rest))) := by
  cases array with
  | false => exact next_suffix h hword hrest
  | true => exact hbracket

theorem suffix_lexes {suffix : List String} (h : ∀ word ∈ suffix, word ∈ typeSuffixes) :
    Lexes q (String.join (suffix.map fun word => " " ++ Text.upper word))
      (suffixPieces suffix) := by
  induction suffix with
  | nil => exact .empty
  | cons word suffix ih =>
    obtain ⟨hword, hkind, -, -⟩ := suffix_facts word (h word List.mem_cons_self)
    have hrest := ih fun w hw => h w (List.mem_cons_of_mem _ hw)
    rw [List.map_cons, String.join_cons]
    refine (Lexes.plain hword hkind).blank.append hrest ?_
    cases suffix with
    | nil => rfl
    | cons w ws =>
      rw [List.map_cons, String.join_cons, String.toList_append, String.toList_append]; rfl

theorem suffix_reads {suffix : List String} (h : ∀ word ∈ suffix, word ∈ typeSuffixes)
    (hrest : typeSuffixes.any (next rest).isWord = false) {n : Nat} (hn : suffix.length < n) :
    Reads (Nested.suffixWords n) (suffixPieces suffix ++ rest) suffix rest := by
  induction suffix generalizing n with
  | nil =>
    obtain ⟨n, rfl⟩ : ∃ m, n = m + 1 := ⟨n - 1, by omega⟩
    exact (Reads.isFalse (Parser.isAtAnyWord_asks typeSuffixes) hrest (.pure _)).bind (.pure _)
  | cons word suffix ih =>
    obtain ⟨n, rfl⟩ : ∃ m, n = m + 1 := ⟨n - 1, by omega⟩
    rw [List.length_cons] at hn
    obtain ⟨-, -, hlower, hany⟩ := suffix_facts word (h word List.mem_cons_self)
    have hword : Reads Nested.suffixWord (suffixPieces (word :: suffix) ++ rest) (some word)
        (suffixPieces suffix ++ rest) := by
      refine .isTrue (Parser.isAtAnyWord_asks typeSuffixes) hany (.text (.step ?_))
      show Reads (pure (some (Text.lower (Text.upper word)))) _ _ _
      rw [hlower]
      exact .pure _
    exact hword.bind ((ih (fun w hw => h w (List.mem_cons_of_mem _ hw)) (by omega)).bind (.pure _))

/-! ## What stands in parentheses -/

/-- Whether an argument of a type ends before a token. -/
def endsArgument (k : TokenKind) : Bool := k == .symbol .comma || k == .symbol .rightParen

/-- An argument of a type is written as the text, and read from its pieces. -/
structure ArgumentSpelled (r : Renderer) (e : Expr) (text : String) (ks : List Piece) : Prop where
  rendered : r.expr e = .ok text
  nonempty : ks ≠ []
  opens : isNumber (next ks) = false
  legible : Legible r.config.dialect.quoting (fun i => i.typeArgument) endsArgument e text ks

/-- What stands in parentheses behind the name of a type is written as the text, and read from its
pieces. -/
structure SizeSpelled (r : Renderer) (t : DataType Expr) (text : String)
    (ks : List Piece) : Prop where
  rendered : ∀ array suffix, Render.dataType (DataType.map r.item { t with array, suffix }) =
    .ok (t.name ++ text ++ (if array then "[]" else "") ++
      String.join (suffix.map fun word => " " ++ Text.upper word))
  opens : (text = "" ∧ ks = [] ∧ t.length = none ∧ t.args = []) ∨ ∃ cs js, text.toList = '(' :: cs ∧
    ks = .opening :: js
  cuts : ∀ rest, Cuts r.config.dialect.quoting rest text.toList ks
  reads : ∀ n, ks.length < n → ∀ rest, next rest ≠ .symbol .leftParen →
    Reads ((nested n).typeArguments { name := t.name }) (ks ++ rest)
      { t with array := false, suffix := [] } rest

/-- A number as a piece. -/
def numberPiece (n : Nat) : Piece := ⟨.number (toString n), toString n⟩

theorem length_reads {n : Nat} (hn : n < Nat.pow 2 64) :
    Reads (Parser.typeSize (toString n)) (numberPiece n :: .closing :: rest) (some n, none)
      (.closing :: rest) := by
  refine .step (.left (Parser.isAt_asks .comma) rfl ?_)
  rw [Decimal.word64?_toString hn]
  exact .pure _

theorem scale_reads {n m : Nat} (hn : n < Nat.pow 2 64) (hm : m < Nat.pow 2 64) :
    Reads (Parser.typeSize (toString n))
      (numberPiece n :: .comma :: numberPiece m :: .closing :: rest) (some n, some m)
      (.closing :: rest) := by
  refine .step (.taken (Parser.isAt_asks .comma) rfl (.look ?_))
  rw [Parser.next_cons, numberPiece, Decimal.word64?_toString hn]
  simp only [Decimal.word64?_toString hm]
  exact .pureBind (.step (.pure _))

namespace SizeSpelled

theorem none (name : String) : SizeSpelled r { name } "" [] where
  rendered := fun array suffix => by
    rw [String.append_empty]
    show Except.ok (name ++ "" ++ _ ++ _) = _
    rw [String.append_empty]
    rfl
  opens := .inl ⟨rfl, rfl, rfl, rfl⟩
  cuts := fun _ => .done
  reads := fun _ _ _ hrest => .left (Parser.isAt_asks .leftParen) (beq_eq_false_iff_ne.mpr hrest)
    (.pure _)

theorem enclosed {inner : String} (js : List Piece)
    (hrendered : ∀ array suffix, Render.dataType (DataType.map r.item { t with array, suffix }) =
      .ok (t.name ++ inParens inner ++ (if array then "[]" else "") ++
        String.join (suffix.map fun word => " " ++ Text.upper word)))
    (hlexes : Lexes r.config.dialect.quoting inner js)
    (hreads : ∀ n, js.length < n → ∀ rest,
      Reads ((nested n).typeArguments { name := t.name }) (.opening :: (js ++ .closing :: rest))
        { t with array := false, suffix := [] } rest) :
    SizeSpelled r t (inParens inner) (.opening :: (js ++ [.closing])) where
  rendered := hrendered
  opens := .inr ⟨inner.toList ++ [')'], _, by simp [inParens], rfl⟩
  cuts := hlexes.enclosed_cuts
  reads := fun n hn rest _ => by
    have hread := hreads n (by rw [List.length_cons, List.length_append] at hn; omega) rest
    simpa using hread

theorem length {n : Nat} (hn : n < Nat.pow 2 64) :
    SizeSpelled r { name, length := some n } (inParens (toString n)) [.opening, numberPiece n,
      .closing] := by
  refine enclosed [numberPiece n] (fun array suffix => rfl) (.digits (Decimal.isDigits_toString n))
    fun _ _ rest => ?_
  refine .taken (Parser.isAt_asks .leftParen) rfl (.look ((length_reads hn).bind (.pureBind ?_)))
  exact (Parser.expect_reads .rightParen ")").bind (.pure _)

theorem scale {n m : Nat} (hn : n < Nat.pow 2 64) (hm : m < Nat.pow 2 64) :
    SizeSpelled r { name, length := some n, scale := some m }
      (inParens (toString n ++ ", " ++ toString m))
      [.opening, numberPiece n, .comma, numberPiece m, .closing] := by
  have hlexes : Lexes r.config.dialect.quoting (toString n ++ (", " ++ toString m))
      ([numberPiece n] ++ [.comma, numberPiece m]) :=
    (Lexes.digits (Decimal.isDigits_toString n)).append
      (Lexes.digits (Decimal.isDigits_toString m)).afterComma
      (by rw [String.toList_append]; rfl)
  refine enclosed [numberPiece n, .comma, numberPiece m] (fun array suffix => ?_) ?_ fun _ _ rest =>
    ?_
  · have hinner : inParens (toString n ++ ", " ++ toString m) = "(" ++ toString n ++ ", " ++
        toString m ++ ")" := by
      simp only [inParens, String.append_assoc]
    rw [hinner]
    rfl
  · rwa [String.append_assoc]
  · refine .taken (Parser.isAt_asks .leftParen) rfl
      (.look ((scale_reads hn hm).bind (.pureBind ?_)))
    exact (Parser.expect_reads .rightParen ")").bind (.pure _)

theorem arguments {x : Expr} {xs : List Expr} {text : Expr → String} {spelling : Expr → List Piece}
    (h : ∀ e ∈ x :: xs, ArgumentSpelled r e (text e) (spelling e)) :
    SizeSpelled r { name, args := x :: xs } (inParens (commas ((x :: xs).map text)))
      (.opening :: ((spelling x ++ xs.flatMap fun y => .comma :: spelling y) ++ [.closing])) := by
  have hlegible := Legible.commas (fun e he => (h e he).legible) rfl
  refine enclosed _ (fun array suffix => ?_) hlegible.lexes fun n hn rest => ?_
  · have hsqls : Render.sqls ((x :: xs).map r.item) = .ok ((x :: xs).map text) :=
      r.sqls_ok fun e he => (h e he).rendered
    unfold Render.dataType
    show (do return Render.typeText _ (← Render.sqls ((x :: xs).map r.item))) = _
    rw [hsqls]
    rfl
  · have hnext : next ((spelling x ++ xs.flatMap fun y => .comma :: spelling y) ++
        .closing :: rest) = next (spelling x) := by
      rw [List.append_assoc, Parser.next_append (h x List.mem_cons_self).nonempty]
    have hopens := (h x List.mem_cons_self).opens
    refine .taken (Parser.isAt_asks .leftParen) rfl (.look ?_)
    rw [hnext]
    have hread := hlegible.reads n hn (.closing :: rest) rfl
    have hexpect : Reads (Parser.expect .rightParen) (.closing :: rest) () rest :=
      Parser.expect_reads .rightParen ")"
    cases hfirst : next (spelling x) with
    | number => rw [hfirst] at hopens; cases hopens
    | _ => exact hread.bind (.pureBind (hexpect.bind (.pure _)))

end SizeSpelled

/-! ## Types -/

/-- Whether the words of a type as an argument are told from a field and its type: behind a name of
one word that could be a field's no word stands. -/
structure DataType.StandsAlone (t : DataType Expr) : Prop where
  word : Token.isWord t.name = true
  apart : isFieldName (Token.wordKind t.name) = true → t.suffix = [] ∨ t.length.isSome ∨
    t.args ≠ [] ∨ t.array = true

/-- The type is written as the text, and read from its pieces. -/
structure TypeSpelled (r : Renderer) (t : DataType Expr) (text : String)
    (ks : List Piece) : Prop where
  rendered : Render.dataType (t.map r.item) = .ok text
  opens : isTypeWord (next ks) = true
  alone : t.StandsAlone → ∀ rest, isTypeWord (next rest) = false →
    (isFieldName (next ks) && isTypeWord (next (ks ++ rest).tail)) = false
  legible : Legible r.config.dialect.quoting (fun i => i.dataType) endsType t text ks

theorem endsType_facts {k : TokenKind} (h : endsType k = true) :
    k ≠ .symbol .leftParen ∧ k ≠ .symbol .leftBracket ∧
    (twoWordTypes.map Prod.snd).any k.isWord = false ∧ typeSuffixes.any k.isWord = false := by
  simp only [endsType, typeWords, List.any_append, Bool.not_eq_true', Bool.or_eq_false_iff,
    beq_eq_false_iff_ne] at h
  exact ⟨h.1.1, h.1.2, h.2.1, h.2.2⟩

theorem endsWord_behind {size : String} (cs : List Char) {array : Bool} {suffix : List String}
    {rest : List Char} (hsize : size = "" ∨ size.toList = '(' :: cs) (hrest : isApart rest = true) :
    endsWord (size.toList ++ ((if array then "[]" else "").toList ++
      ((String.join (suffix.map fun word => " " ++ Text.upper word)).toList ++ rest))) = true := by
  rcases hsize with rfl | hsize
  · cases array with
    | true => rfl
    | false =>
      cases suffix with
      | nil => exact Token.endsWord_of_isApart hrest
      | cons word suffix =>
        rw [List.map_cons, String.join_cons, String.toList_append, String.toList_append]
        rfl
  · rw [hsize]
    rfl

theorem suffix_apart : ∀ word ∈ typeSuffixes,
    (twoWordTypes.map Prod.snd).any (TokenKind.identifier (Text.upper word)).isWord = false := by
  decide +kernel

/-- A type is its name, what stands in parentheses, brackets and the words at its end. -/
theorem TypeSpelled.assembled {named sized : List Piece} {size : String} {array : Bool}
    {suffix : List String} (hname : NameSpelled r.config.dialect.quoting t.name named)
    (hsize : SizeSpelled r t size sized)
    (harray : array = true → r.config.dialect.quoting.bracketNames = false)
    (hsuffix : ∀ word ∈ suffix, word ∈ typeSuffixes) :
    TypeSpelled r { t with array, suffix }
      (t.name ++ size ++ (if array then "[]" else "") ++
        String.join (suffix.map fun word => " " ++ Text.upper word))
      (named ++ (sized ++ (bracketPieces array ++ suffixPieces suffix))) where
  rendered := hsize.rendered array suffix
  opens := by
    have hne : named ≠ [] := by
      rintro rfl
      cases hname.opens
    rw [Parser.next_append hne]
    exact hname.opens
  alone := by
    intro ⟨hword, hapart⟩ rest hrest
    obtain rfl := hname.eq_word hword
    show (isFieldName (Token.wordKind t.name) &&
      isTypeWord (next ((sized ++ (bracketPieces array ++ suffixPieces suffix)) ++ rest))) = false
    cases hfield : isFieldName (Token.wordKind t.name) with
    | false => rfl
    | true =>
      rw [Bool.true_and]
      rcases hsize.opens with ⟨-, rfl, hlength, hargs⟩ | ⟨cs, js, -, rfl⟩
      · cases array with
        | true => rfl
        | false =>
          obtain rfl : suffix = [] := by simpa [hlength, hargs] using hapart hfield
          exact hrest
      · rfl
  legible := by
    constructor
    · intro rest hrest
      have hends := hsize.opens.imp And.left fun ⟨cs, _, htext, _⟩ =>
        (⟨cs, htext⟩ : ∃ cs, size.toList = '(' :: cs)
      simp only [String.toList_append, List.append_assoc]
      refine .append (hname.cuts _ ?_)
        (.append (hsize.cuts _) (.append (brackets_cuts array harray)
        (suffix_lexes hsuffix _ hrest)))
      rw [List.append_assoc, List.append_assoc]
      rcases hends with hempty | ⟨cs, htext⟩
      · exact endsWord_behind [] (.inl hempty) hrest
      · exact endsWord_behind _ (.inr htext) hrest
    · intro n hn rest hrest
      obtain ⟨hparen, hbracket, hsecond, hwords⟩ := endsType_facts hrest
      obtain ⟨m, rfl⟩ : ∃ m, n = m + 1 := ⟨n - 1, by omega⟩
      have hlength : sized.length < m := by
        have hpos : 0 < named.length := List.length_pos_iff.mpr fun hnil => by
          have hopens := hname.opens
          rw [hnil] at hopens
          cases hopens
        simp only [List.length_append] at hn
        omega
      have hopening :
          next (bracketPieces array ++ (suffixPieces suffix ++ rest)) ≠ .symbol .leftParen :=
        next_behind (P := (· ≠ _)) array hsuffix (by simp) (by simp) hparen
      have hsized : (twoWordTypes.map Prod.snd).any
          (next (sized ++ (bracketPieces array ++ (suffixPieces suffix ++ rest)))).isWord =
            false := by
        rcases hsize.opens with ⟨-, rfl, -, -⟩ | ⟨cs, js, -, rfl⟩
        · exact next_behind (P := fun k => (twoWordTypes.map Prod.snd).any k.isWord = false)
            array hsuffix rfl suffix_apart hsecond
        · rfl
      obtain ⟨first, js, hfirst, hnamed⟩ := hname.reads _ hsized
      have hpairs := brackets_read array (suffixPieces suffix ++ rest)
        (next_suffix (P := (· ≠ _)) hsuffix (by simp) hbracket)
      have hrounds : suffix.length < (suffixPieces suffix ++ rest).length + 1 := by
        rw [List.length_append, suffixPieces, List.length_map]
        omega
      have hread : Reads (nested (m + 1)).dataType
          (named ++ (sized ++ (bracketPieces array ++ (suffixPieces suffix ++ rest))))
            { t with array, suffix } rest := by
        show Reads (nested m).readDataType _ _ _
        refine hfirst.bind (hnamed.bind ((hsize.reads m hlength _ hopening).bind (hpairs.bind ?_)))
        refine .rounds ((suffix_reads hsuffix hwords hrounds).bind ?_)
        cases array with
        | false => exact .pure _
        | true => exact .pure _
      simpa only [List.append_assoc] using hread

/-! ## Arguments -/

theorem Renderer.node_columnDefinition (hr : r.registry = .standard) (d : ColumnDefinition Item) :
    r.node (.columnDefinition d) = Render.standardColumnDefinition r.config d := by
  cases r
  cases hr
  rfl

theorem endsType_of_endsArgument {k : TokenKind} (h : endsArgument k = true) :
    endsType k = true := by
  rcases Bool.or_eq_true_iff.mp h with h | h <;> rw [beq_iff_eq.mp h] <;> decide

theorem isTypeWord_of_endsArgument {k : TokenKind} (h : endsArgument k = true) :
    isTypeWord k = false := by
  rcases Bool.or_eq_true_iff.mp h with h | h <;> rw [beq_iff_eq.mp h] <;> rfl

namespace ArgumentSpelled

theorem string (value : String) : ArgumentSpelled r (.string value) (Render.quoteString value)
    [⟨.string value, enclose '\'' '\'' value⟩] where
  rendered := r.expr_mk _
  nonempty := List.cons_ne_nil _ _
  opens := rfl
  legible := ⟨.string value, fun _ _ _ _ => .look (.peek (.look (.step (.pure _))))⟩

theorem type {text : String} {ks : List Piece} (h : TypeSpelled r t text ks)
    (halone : t.StandsAlone) :
    ArgumentSpelled r (.mk (.dataType t)) text ks where
  rendered := (r.expr_mk _).trans h.rendered
  nonempty := by
    rintro rfl
    cases h.opens
  opens := by
    have hopens := h.opens
    cases hk : next ks <;> first | rfl | (rw [hk] at hopens; cases hopens)
  legible := by
    refine ⟨h.legible.lexes, fun n hn rest hrest => .look (.peek ?_)⟩
    have hne : ks ≠ [] := by
      rintro rfl
      cases h.opens
    have hopens := h.opens
    have hread := h.legible.reads n hn rest (endsType_of_endsArgument hrest)
    rw [Parser.next_append hne, h.alone halone rest (isTypeWord_of_endsArgument hrest)]
    refine .look ?_
    rw [Parser.next_append hne]
    cases hk : next ks with
    | string => rw [hk] at hopens; cases hopens
    | _ => exact hread.bind (.pure _)

/-- A field is written with its name in quotes. -/
theorem field (hr : r.Standard opening closing) (hname : isName name = true) {text : String}
    {ks : List Piece} (h : TypeSpelled r t text ks) :
    ∃ text', ArgumentSpelled r (.mk (.columnDefinition (.ofName name t))) text'
      (.quoted opening closing name :: ks) := by
  have hstar : name ≠ "*" := by simpa [isName] using hname
  have hcolumn : Render.columnName r.config.dialect
      ((ColumnName.ofText name : ColumnName Expr).map r.item) =
      .ok (enclose opening closing name) := by
    rw [ColumnName.ofText, if_neg hstar, ← Renderer.ident_eq hr.delimiters hstar]
    rfl
  have hrendered : r.expr (.mk (.columnDefinition (.ofName name t))) =
      .ok (Render.fragments [enclose opening closing name, text, "", "", "", "", "", "", ""]) := by
    rw [r.expr_mk]
    refine (Renderer.node_columnDefinition hr.registry _).trans ?_
    show (do
      let name ← Render.columnName r.config.dialect
          ((ColumnName.ofText name : ColumnName Expr).map r.item)
      let type ← Render.dataType (t.map r.item)
      return Render.fragments [name, type, "", "", "", "", "", "", ""]) = _
    rw [hcolumn, h.rendered]
    rfl
  have hempty : Lexes r.config.dialect.quoting (Render.fragments ["", "", "", "", "", "", ""]) [] :=
    .empty
  have hlexes := Lexes.fragment (.enclosed hr.delimiters name) (.fragment h.legible.lexes hempty)
  refine ⟨_, hrendered, List.cons_ne_nil _ _, rfl, by simpa using hlexes,
    fun n hn rest hrest => .look (.peek ?_)⟩
  have hne : ks ≠ [] := by
    rintro rfl
    cases h.opens
  have hnext : isTypeWord (next (ks ++ rest)) = true := by
    rw [Parser.next_append hne]
    exact h.opens
  have hread := h.legible.reads n (Nat.lt_of_succ_lt hn) rest (endsType_of_endsArgument hrest)
  show Reads (if (true && isTypeWord (next (ks ++ rest))) = true then _ else _) _ _ _
  rw [hnext]
  exact (Parser.identifier_reads rfl).bind (hread.bind (.pure _))

end ArgumentSpelled

end SqlWeave
