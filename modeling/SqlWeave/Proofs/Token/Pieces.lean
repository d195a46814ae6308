import SqlWeave.Decimal.Digits
import SqlWeave.Proofs.Token.Printed
import SqlWeave.Render.Basic

/-! Tokens without their positions: what each is, and how it is spelled. A text that is put together
from parts has the tokens of its parts one after the other, if every part but the first starts with
a character that no token goes on with. -/

namespace SqlWeave

/-- The reserved words are listed in the order in which they are declared. -/
theorem Keyword.mem_all (k : Keyword) : k ∈ Keyword.all :=
  List.mem_of_getElem? (show Keyword.all[k.ctorIdx]? = some k by cases k <;> rfl)

end SqlWeave

namespace SqlWeave.Token

open Text (doubling enclose isBlank)

structure Piece where
  kind : TokenKind
  text : String

/-- The token of a text without its position. -/
def piece (text : String) (t : Token) : Piece := ⟨t.kind, slice text t.span⟩

/-- The tokens of a text, the end of input last. -/
def pieces (q : Quoting) (cs : List Char) : List Piece :=
  (tokensFrom q 0 cs).map (piece (String.ofList cs))

namespace Piece

def finish : Piece := ⟨.eof, ""⟩
def opening : Piece := ⟨.symbol .leftParen, "("⟩
def closing : Piece := ⟨.symbol .rightParen, ")"⟩
def comma : Piece := ⟨.symbol .comma, ","⟩
def dot : Piece := ⟨.symbol .dot, "."⟩
def star : Piece := ⟨.symbol .star, "*"⟩
def semicolon : Piece := ⟨.symbol .semicolon, ";"⟩

end Piece

/-! ## The pieces of a text, one step at a time -/

theorem slice_go_all (stop pos : Nat) (cs : List Char) (h : pos + byteLength cs ≤ stop) :
    slice.go ⟨0, stop⟩ pos cs = cs := by
  induction cs generalizing pos with
  | nil => rfl
  | cons c cs ih =>
    have hc := Char.utf8Size_pos c
    rw [byteLength_cons] at h
    rw [slice.go, if_neg (by simp only; omega), if_pos (by simp only; omega), ih _ (by omega)]

theorem slice_start (cs ds : List Char) :
    slice (String.ofList (cs ++ ds)) ⟨0, byteLength cs⟩ = String.ofList cs := by
  rw [slice, String.toList_ofList, slice_go_after _ 0 cs ds (by simp only; omega),
    slice_go_all _ _ _ (by omega)]

theorem piece_shift (cs ds : List Char) (t : Token) :
    piece (String.ofList (cs ++ ds)) (t.shift (byteLength cs)) = piece (String.ofList ds) t := by
  have hslice := slice_go_before ⟨t.span.start + byteLength cs, t.span.stop + byteLength cs⟩ 0 cs ds
    (by simp only; omega)
  rw [slice_go_shift] at hslice
  simp only [piece, shift, slice, String.toList_ofList, hslice]

theorem map_piece_shift (q : Quoting) (cs ds : List Char) :
    (tokensFrom q (0 + byteLength cs) ds).map (piece (String.ofList (cs ++ ds))) = pieces q ds := by
  rw [tokensFrom_shift, List.map_map, pieces]
  exact List.map_congr_left fun t _ => piece_shift cs ds t

theorem pieces_nil (q : Quoting) : pieces q [] = [.finish] := by
  rw [pieces, tokensFrom_nil]
  rfl

theorem pieces_blank (q : Quoting) {c : Char} (hc : isBlank c = true) (cs : List Char) :
    pieces q (c :: cs) = pieces q cs := by
  have hshift := map_piece_shift q [c] cs
  rw [byteLength_cons] at hshift
  rw [pieces, tokensFrom_blank q 0 hc]
  exact hshift

theorem pieces_token (q : Quoting) {c : Char} {cs : List Char} (hc : isBlank c = false)
    (hn : comment? c cs = none) :
    pieces q (c :: cs) =
      ⟨(scan q c cs).1, String.ofList (c :: cs.take (scan q c cs).2)⟩ :: pieces q
        (cs.drop (scan q c cs).2) := by
  have hsplit : c :: cs = (c :: cs.take (scan q c cs).2) ++ cs.drop (scan q c cs).2 := by
    rw [List.cons_append, List.take_append_drop]
  have hshift := map_piece_shift q (c :: cs.take (scan q c cs).2) (cs.drop (scan q c cs).2)
  rw [← hsplit] at hshift
  rw [pieces, tokensFrom_token q 0 hc hn, List.map_cons, hshift]
  congr 1
  rw [piece, Nat.zero_add]
  have hslice := slice_start (c :: cs.take (scan q c cs).2) (cs.drop (scan q c cs).2)
  rw [← hsplit] at hslice
  rw [hslice]

theorem pieces_comment (q : Quoting) {c : Char} {cs : List Char} {n : Nat} (hc : isBlank c = false)
    (hn : comment? c cs = some n) : pieces q (c :: cs) = pieces q (cs.drop n) := by
  have hshift := map_piece_shift q (c :: cs.take n) (cs.drop n)
  rw [List.cons_append, List.take_append_drop] at hshift
  rw [pieces, tokensFrom_comment q 0 hc hn]
  exact hshift

/-- What holds of the token at every place of a text holds of all its tokens. -/
theorem forall_tokenize {P : Piece → Prop} {d : Dialect} (hfinish : P .finish)
    (hscan : ∀ c cs, P ⟨(scan d.quoting c cs).1,
      String.ofList (c :: cs.take (scan d.quoting c cs).2)⟩) {text : String}
    {a : Token} (ha : a ∈ tokenize d text) : P (piece text a) := by
  have hall (cs : List Char) : ∀ k ∈ pieces d.quoting cs, P k := by
    induction cs using text_induction d.quoting with
    | nil =>
      rw [pieces_nil]
      exact List.forall_mem_singleton.mpr hfinish
    | blank c cs hc ih =>
      rw [pieces_blank _ hc]
      exact ih
    | comment c cs n hc hn ih =>
      rw [pieces_comment _ hc hn]
      exact ih
    | token c cs hc hn ih =>
      rw [pieces_token _ hc hn]
      exact List.forall_mem_cons.mpr ⟨hscan c cs, ih⟩
  refine hall text.toList _ ?_
  rw [pieces, String.ofList_toList]
  exact List.mem_map_of_mem ha

theorem scan_notEq {q : Quoting} {c : Char} {cs : List Char}
    (h : (scan q c cs).1 = .symbol .notEq) :
    String.ofList (c :: cs.take (scan q c cs).2) ∈ ["!=", "<>"] := by
  revert h
  refine scan_elim (P := fun x => x.1 = .symbol .notEq →
    String.ofList (c :: cs.take x.2) ∈ ["!=", "<>"]) q c cs
    (fun s hs _ h => absurd (TokenKind.symbol.inj h) hs) (fun s x hx hs _ h => ?_) (fun hd => ?_)
      (fun _ h => by cases h)
    (fun _ h => by cases h) (fun _ h => ?_) (fun _ => ?_) (fun _ _ => ?_) (fun h => by cases h)
  · obtain ⟨ds, rfl⟩ := List.head?_eq_some_iff.mp hx
    have hsigns : ∀ sign ∈ unequalSigns, String.ofList [sign.1, sign.2] ∈ ["!=", "<>"] := by decide
    exact hsigns _ (hs (TokenKind.symbol.inj h))
  · cases hd <;> exact scanDelimited_fst (P := fun k => k = .symbol .notEq → _)
      (fun _ h => by cases h) (fun h => by cases h) cs
  · exfalso
    cases cs with
    | nil => cases h
    | cons d ds =>
      simp only [scanColon] at h
      split at h
      · cases h
      · split at h <;> cases h
  · exact scanHex_fst (P := fun k => k = .symbol .notEq → _) (fun _ h => by cases h)
      (fun _ h => by cases h) cs
  · unfold scanWord
    simp only
    split <;> exact fun h => by cases h

/-- The symbol for what is unequal keeps its spelling. -/
theorem notEq_text {d : Dialect} {text : String} {a : Token} (ha : a ∈ tokenize d text) :
    a.kind = .symbol .notEq → slice text a.span ∈ ["!=", "<>"] :=
  forall_tokenize (P := fun k => k.kind = .symbol .notEq → k.text ∈ ["!=", "<>"])
    (fun h => by cases h)
    (fun _ _ => scan_notEq) ha

/-! ## Texts with known pieces -/

/-- Before `rest` the text is cut into these pieces, with nothing but blanks between them. -/
inductive Cuts (q : Quoting) (rest : List Char) : List Char → List Piece → Prop
  | done : Cuts q rest [] []
  | blank {c : Char} {cs : List Char} {ks : List Piece} (hc : isBlank c = true)
      (h : Cuts q rest cs ks) :
      Cuts q rest (c :: cs) ks
  | token {c : Char} {cs ds : List Char} {kind : TokenKind} {ks : List Piece}
      (hc : isBlank c = false) (hn : comment? c (cs ++ ds ++ rest) = none)
      (hscan : scan q c (cs ++ ds ++ rest) = (kind, cs.length)) (h : Cuts q rest ds ks) :
      Cuts q rest (c :: (cs ++ ds)) (⟨kind, String.ofList (c :: cs)⟩ :: ks)

namespace Cuts

variable {q : Quoting} {cs ds rest : List Char} {ks js : List Piece}

theorem append (h : Cuts q (ds ++ rest) cs ks) (h' : Cuts q rest ds js) :
    Cuts q rest (cs ++ ds) (ks ++ js) := by
  induction h with
  | done => exact h'
  | blank hc _ ih => exact .blank hc ih
  | @token c cs es kind ks hc hn hscan _ ih =>
    have hcs : cs ++ es ++ (ds ++ rest) = cs ++ (es ++ ds) ++ rest := by
      simp only [List.append_assoc]
    rw [hcs] at hn hscan
    rw [List.cons_append, List.append_assoc]
    exact .token hc hn hscan ih

theorem pieces_eq (h : Cuts q rest cs ks) : pieces q (cs ++ rest) = ks ++ pieces q rest := by
  induction h with
  | done => rfl
  | blank hc _ ih => exact (pieces_blank q hc _).trans ih
  | token hc hn hscan _ ih =>
    rw [List.cons_append, pieces_token q hc hn, hscan, List.append_assoc, List.take_left,
      List.drop_left, ih]
    rfl

/-- The rest has its own tokens, so many bytes further on. -/
theorem tokens (h : Cuts q rest cs ks) (pos : Nat) :
    ∃ ts, tokensFrom q pos (cs ++ rest) = ts ++ tokensFrom q (pos + byteLength cs) rest := by
  induction h generalizing pos with
  | done => exact ⟨[], rfl⟩
  | @blank c cs _ hc _ ih =>
    obtain ⟨ts, hts⟩ := ih (pos + c.utf8Size)
    exact ⟨ts, by rw [List.cons_append, tokensFrom_blank q pos hc, hts, byteLength_cons,
      Nat.add_assoc]⟩
  | @token c cs ds kind _ hc hn hscan _ ih =>
    obtain ⟨ts, hts⟩ := ih (pos + byteLength (c :: cs))
    refine ⟨⟨kind, ⟨pos, pos + byteLength (c :: cs)⟩⟩ :: ts, ?_⟩
    rw [List.cons_append, tokensFrom_token q pos hc hn, hscan, List.append_assoc, List.take_left,
      List.drop_left, hts, Nat.add_assoc, ← byteLength_append]
    rfl

/-- A token that takes the whole text. -/
theorem whole {c : Char} {kind : TokenKind} (hc : isBlank c = false)
    (hn : comment? c (cs ++ rest) = none) (hscan : scan q c (cs ++ rest) = (kind, cs.length)) :
    Cuts q rest (c :: cs) [⟨kind, String.ofList (c :: cs)⟩] := by
  have htoken : Cuts q rest (c :: (cs ++ [])) [⟨kind, String.ofList (c :: cs)⟩] :=
    .token hc (by rwa [List.append_nil]) (by rwa [List.append_nil]) .done
  rwa [List.append_nil] at htoken

/-- A sign that is a token by itself. -/
theorem sign {c : Char} {mark : Symbol} (hc : isBlank c = false)
    (hn : comment? c (cs ++ rest) = none) (hscan : scan q c (cs ++ rest) = (.symbol mark, 0))
    (h : Cuts q rest cs ks) :
    Cuts q rest (c :: cs) (⟨.symbol mark, String.singleton c⟩ :: ks) :=
  @token q rest c [] cs _ ks hc hn hscan h

/-- A sign that is one before anything. -/
theorem mark {c : Char} {mark : Symbol} (hmark : single? c = some mark) (hc : isBlank c = false)
    (hn : ∀ cs, comment? c cs = none) (h : Cuts q rest cs ks) :
    Cuts q rest (c :: cs) (⟨.symbol mark, String.singleton c⟩ :: ks) :=
  sign hc (hn _) (by rw [scan, hmark]) h

end Cuts

/-- No token goes on with the text. -/
def isApart (cs : List Char) : Bool := cs.head?.all endsToken

theorem isApart_append {cs ds : List Char} (hcs : isApart cs = true) (hds : isApart ds = true) :
    isApart (cs ++ ds) = true := by
  cases cs with
  | nil => exact hds
  | cons c cs => exact hcs

/-- The text has these pieces, whatever comes after it and is apart from it. -/
def Lexes (q : Quoting) (text : String) (ks : List Piece) : Prop :=
  ∀ rest, isApart rest = true → Cuts q rest text.toList ks

namespace Lexes

variable {q : Quoting} {a b : String} {ks js : List Piece}

theorem finished (h : Lexes q a ks) : pieces q a.toList = ks ++ [.finish] := by
  have hend := (h [] rfl).pieces_eq
  rwa [List.append_nil, pieces_nil] at hend

theorem empty : Lexes q "" [] := fun _ _ => .done

theorem append (ha : Lexes q a ks) (hb : Lexes q b js) (hapart : isApart b.toList = true) :
    Lexes q (a ++ b) (ks ++ js) := by
  intro rest hrest
  rw [String.toList_append]
  exact (ha _ (isApart_append hapart hrest)).append (hb rest hrest)

theorem blank (h : Lexes q a ks) : Lexes q (" " ++ a) ks := by
  intro rest hrest
  rw [String.toList_append]
  exact .blank (by decide) (h rest hrest)

theorem spaced (ha : Lexes q a ks) (hb : Lexes q b js) : Lexes q (a ++ " " ++ b) (ks ++ js) := by
  rw [String.append_assoc]
  exact ha.append hb.blank (by rw [String.toList_append]; rfl)

/-- A token that takes the whole text. -/
theorem token {c : Char} {cs : List Char} {kind : TokenKind} (ha : a.toList = c :: cs)
    (hc : isBlank c = false) (hn : comment? c cs = none) (hscan : scan q c cs = (kind, cs.length))
    (hopen : isOpen kind = false) : Lexes q a [⟨kind, a⟩] := by
  intro rest hrest
  have hscan' : scan q c (cs ++ rest) = (kind, cs.length) ∧ comment? c (cs ++ rest) = none := by
    cases rest with
    | nil =>
      rw [List.append_nil]
      exact ⟨hscan, hn⟩
    | cons b rest =>
      exact ⟨by rw [scan_append hrest q c cs (by rw [hscan]; exact hopen), hscan],
        comment?_append_none (stopsToken_of_endsToken hrest) hn⟩
  have hcuts := Cuts.whole hc hscan'.2 hscan'.1
  rwa [← ha, String.ofList_toList] at hcuts

end Lexes

/-! ## Single tokens -/

variable {q : Quoting}

/-- A word, reserved or not. -/
def Piece.ofWord (word : String) : Piece := ⟨wordKind word, word⟩

theorem Lexes.word {name : String} (h : isWord name = true) : Lexes q name [.ofWord name] := by
  unfold isWord at h
  cases hname : name.toList with
  | nil => simp [hname] at h
  | cons c cs =>
    obtain ⟨hstart, hcs⟩ : isNameStart c = true ∧ cs.all isNameChar = true := by
      simpa [hname] using h
    have hhex : startsHex c cs = false := by
      have hwhole : startsHex c (cs ++ []) = false := startsHex_word hcs rfl
      rwa [List.append_nil] at hwhole
    have htake : cs.takeWhile isNameChar = cs := by
      have hwhole : (cs ++ []).takeWhile isNameChar = cs := takeWhile_word hcs rfl
      rwa [List.append_nil] at hwhole
    refine .token hname (isNameStart_not_blank hstart) (comment?_of_isNameStart hstart cs) ?_ ?_
    · rw [scan_word q hstart hhex, scanWord_eq, countWhile, htake, ← hname, String.ofList_toList]
    · unfold wordKind
      split <;> rfl

/-- Words with blanks between them. -/
theorem Lexes.words {word : String} {words : List String}
    (h : ∀ w ∈ word :: words, isWord w = true) :
    Lexes q (" ".intercalate (word :: words)) ((word :: words).map .ofWord) := by
  induction words generalizing word with
  | nil => exact .word (h word List.mem_cons_self)
  | cons next words ih =>
    have hrest := ih fun w hw => h w (List.mem_cons_of_mem _ hw)
    rw [String.intercalate_cons_cons]
    exact (Lexes.word (h word List.mem_cons_self)).spaced hrest

/-- A reserved word as it is spelled. -/
def Piece.word (k : Keyword) : Piece := ⟨.keyword k, k.spelling⟩

/-- A word that is not reserved. -/
def Piece.plain (word : String) : Piece := ⟨.identifier word, word⟩

/-- A name between delimiters. -/
def Piece.quoted (opening closing : Char) (name : String) : Piece :=
  ⟨.quotedIdentifier name, enclose opening closing name⟩

theorem Lexes.plain {word : String} (h : isWord word = true)
    (hkind : wordKind word = .identifier word) :
    Lexes q word [.plain word] := by
  have hlexes : Lexes q word [⟨wordKind word, word⟩] := .word h
  rwa [hkind] at hlexes

/-- Reserved words are words, and are known as themselves. -/
theorem wordKind_spelling (k : Keyword) :
    isWord k.spelling = true ∧ wordKind k.spelling = .keyword k := by
  have hall : ∀ k ∈ Keyword.all, isWord k.spelling = true ∧ wordKind k.spelling = .keyword k := by
    decide +kernel
  exact hall k k.mem_all

theorem Piece.ofWord_spelling (k : Keyword) : Piece.ofWord k.spelling = .word k := by
  rw [Piece.ofWord, (wordKind_spelling k).2]
  rfl

theorem Lexes.keyword (k : Keyword) : Lexes q k.spelling [.word k] := by
  rw [← Piece.ofWord_spelling]
  exact .word (wordKind_spelling k).1

/-- A text between delimiters that is written with the closing one doubled. -/
theorem Lexes.delimited {opening closing : Char} {kind : String → TokenKind}
    {missing : LexicalFault} (h : Delimits q opening closing kind missing) (value : String) :
    Lexes q (enclose opening closing value) [⟨kind value, enclose opening closing value⟩] := by
  obtain ⟨hblank, hcomment, hopen⟩ := h.starts
  have hscan := @Delimits.scan_enclosed _ _ _ _ _ h value [] (by simp)
  rw [List.append_nil] at hscan
  exact .token (enclose_toList _ _ _) hblank (hcomment _) hscan (hopen value)

section Names

variable {d : Dialect} {opening closing : Char}

theorem Cuts.enclosed (hd : d.identifierQuote.delimiters = some (opening, closing)) (name : String)
    {rest : List Char} (hrest : rest.head? ≠ some closing) :
    Cuts d.quoting rest (enclose opening closing name).toList [.quoted opening closing name] := by
  obtain ⟨hblank, hcomment, -⟩ := (delimits hd).starts
  have hcuts := Cuts.whole hblank (hcomment _) ((delimits hd).scan_enclosed name hrest)
  rwa [← enclose_toList, String.ofList_toList] at hcuts

theorem Lexes.enclosed (hd : d.identifierQuote.delimiters = some (opening, closing))
    (name : String) :
    Lexes d.quoting (enclose opening closing name) [.quoted opening closing name] :=
  .delimited (delimits hd) name

theorem dotted_first (opening closing : Char) (name : String) (names : List String) :
    ∃ cs, (".".intercalate ((name :: names).map (enclose opening closing))).toList =
      opening :: cs := by
  cases names with
  | nil => exact ⟨_, by simp [enclose]; rfl⟩
  | cons other names => exact ⟨_, by simp [enclose, String.intercalate_cons_cons]; rfl⟩

/-- Names with points between them. -/
theorem Lexes.dotted (hd : d.identifierQuote.delimiters = some (opening, closing)) (name : String)
    (names : List String) :
    Lexes d.quoting (".".intercalate ((name :: names).map (enclose opening closing)))
      (.quoted opening closing name :: names.flatMap fun n =>
        [.dot, .quoted opening closing n]) := by
  have hcases := delimiters_cases hd
  induction names generalizing name with
  | nil => exact .enclosed hd name
  | cons next names ih =>
    intro rest hrest
    obtain ⟨cs, hcs⟩ := dotted_first opening closing next names
    have htail := ih next rest hrest
    have hscan : scan d.quoting '.' (opening :: cs ++ rest) = (.symbol .dot, 0) := by
      rw [scan_point, if_neg (by simp [hcases.1])]
    have hdot := Cuts.sign (by decide) rfl hscan (hcs ▸ htail)
    rw [List.map_cons, List.map_cons, String.intercalate_cons_cons, ← List.map_cons,
      String.toList_append, String.toList_append, hcs, List.append_assoc]
    exact (Cuts.enclosed hd name (by simpa using hcases.2.1.symm)).append hdot

end Names

theorem Lexes.string (value : String) :
    Lexes q (enclose '\'' '\'' value) [⟨.string value, enclose '\'' '\'' value⟩] :=
  .delimited .quote value

theorem single?_of_isDigit {c : Char} (h : c.isDigit = true) : single? c = none := by
  unfold single?
  split <;> first | rfl | exact absurd h (by decide)

theorem scan_digit {c : Char} (h : c.isDigit = true) (cs : List Char) :
    scan q c cs = scanNumber c cs := by
  have hne (x : Char) (hx : x.isDigit = false) : c ≠ x := by
    rintro rfl
    rw [hx] at h
    cases h
  unfold scan
  simp only [single?_of_isDigit h, h, hne '[' (by decide), hne '.' (by decide), hne '@' (by decide),
    hne ':' (by decide), hne '=' (by decide), hne '<' (by decide), hne '>' (by decide),
    hne '!' (by decide), hne '|' (by decide), hne '\'' (by decide), hne '"' (by decide),
    hne '\x60' (by decide), beq_eq_false_iff_ne.mpr (hne 'X' (by decide)),
    beq_eq_false_iff_ne.mpr (hne 'x' (by decide)), Bool.or_self, Bool.false_and, Bool.false_eq_true,
    ↓reduceIte]
theorem isBlank_of_isDigit {c : Char} (h : c.isDigit = true) : isBlank c = false := by
  have hdigits : ∀ n ∈ List.range' 48 10, isBlank (Char.ofNat n) = false := by decide
  have hmem : c.toNat ∈ List.range' 48 10 := by
    simp only [Char.isDigit, Bool.and_eq_true, decide_eq_true_eq, ge_iff_le,
      UInt32.le_iff_toNat_le] at h
    have hlow : 48 ≤ c.toNat := h.1
    have hhigh : c.toNat ≤ 57 := h.2
    rw [List.mem_range'_1]
    omega
  simpa using hdigits _ hmem

/-- Digits are a number. -/
theorem Lexes.digits {text : String} (h : Decimal.isDigits text.toList = true) :
    Lexes q text [⟨.number text, text⟩] := by
  cases htext : text.toList with
  | nil => simp [htext, Decimal.isDigits] at h
  | cons c cs =>
    obtain ⟨hc, hcs⟩ : c.isDigit = true ∧ ∀ d ∈ cs, d.isDigit = true := by
      simpa [htext, Decimal.isDigits] using h
    have hcomment : comment? c cs = none := by
      have hne (x : Char) (hx : x.isDigit = false) : c ≠ x := by
        rintro rfl
        rw [hx] at hc
        cases hc
      simp [comment?, hne '#' (by decide), hne '-' (by decide), hne '/' (by decide)]
    refine .token htext (isBlank_of_isDigit hc) hcomment ?_ rfl
    have hwhole : countWhile Char.isDigit cs = cs.length := countWhile_all hcs
    rw [scan_digit hc, scanNumber, hwhole]
    simp only [List.drop_length, fractionLength, exponentLength, Nat.add_zero, List.take_length]
    rw [← htext, String.ofList_toList]

/-- A name after a colon is a parameter. -/
theorem scan_parameter {name : String} (h : isWord name = true) :
    ∃ c cs, (":" ++ name).toList = ':' :: c :: cs ∧
      scan q ':' (c :: cs) = (.parameter name, (c :: cs).length) := by
  unfold isWord at h
  cases hname : name.toList with
  | nil => simp [hname] at h
  | cons c cs =>
    obtain ⟨hstart, hcs⟩ : isNameStart c = true ∧ cs.all isNameChar = true := by
      simpa [hname] using h
    have hcolon : c ≠ ':' := ne_of_isNameStart hstart (by decide)
    have hlength : countWhile isNameChar cs = cs.length := countWhile_all (List.all_eq_true.mp hcs)
    have hscan : scan q ':' (c :: cs) = scanColon (c :: cs) := rfl
    refine ⟨c, cs, by rw [String.toList_append, hname]; rfl, ?_⟩
    have hwhole : String.ofList ((c :: cs).take (cs.length + 1)) = name := by
      rw [← List.length_cons (a := c), List.take_length, ← hname, String.ofList_toList]
    rw [hscan, scanColon, if_neg hcolon, if_pos hstart, hlength]
    exact congrArg (fun text => (TokenKind.parameter text, cs.length + 1)) hwhole

theorem Lexes.parameter {name : String} (h : isWord name = true) :
    Lexes q (":" ++ name) [⟨.parameter name, ":" ++ name⟩] := by
  obtain ⟨c, cs, htext, hscan⟩ := scan_parameter (q := q) h
  exact .token htext (by decide) rfl hscan rfl

theorem Lexes.placeholder : Lexes q "?" [⟨.symbol .question, "?"⟩] :=
  .token rfl (by decide) rfl rfl rfl

/-- The signs of binary operators. -/
def operatorSigns : List (String × Symbol) :=
  [("=", .eq), ("!=", .notEq), ("<>", .notEq), ("<", .lt), ("<=", .ltEq), (">", .gt), (">=", .gtEq),
    ("+", .plus), ("-", .minus), ("*", .star), ("/", .slash), ("%", .percent), ("||", .concat),
    ("&", .bitAnd), ("|", .bitOr), ("<<", .leftShift), (">>", .rightShift)]

theorem scan_sign {text : String} {mark : Symbol} (h : (text, mark) ∈ operatorSigns) :
    ∃ c cs, text.toList = c :: cs ∧ isBlank c = false ∧ comment? c cs = none ∧
      scan q c cs = (.symbol mark, cs.length) ∧ c ≠ ':' := by
  simp only [operatorSigns, List.mem_cons, Prod.mk.injEq, List.not_mem_nil, or_false] at h
  rcases h with ⟨rfl, rfl⟩ | ⟨rfl, rfl⟩ | ⟨rfl, rfl⟩ | ⟨rfl, rfl⟩ | ⟨rfl, rfl⟩ | ⟨rfl,
    rfl⟩ | ⟨rfl, rfl⟩ |
    ⟨rfl, rfl⟩ | ⟨rfl, rfl⟩ | ⟨rfl, rfl⟩ | ⟨rfl, rfl⟩ | ⟨rfl, rfl⟩ | ⟨rfl, rfl⟩ | ⟨rfl,
      rfl⟩ | ⟨rfl, rfl⟩ |
    ⟨rfl, rfl⟩ | ⟨rfl, rfl⟩
  all_goals exact ⟨_, _, rfl, by decide, rfl, rfl, by decide⟩

theorem Lexes.sign {text : String} {mark : Symbol} (h : (text, mark) ∈ operatorSigns) :
    Lexes q text [⟨.symbol mark, text⟩] := by
  obtain ⟨c, cs, htext, hc, hn, hscan, -⟩ := scan_sign (q := q) h
  exact .token htext hc hn hscan rfl

/-- The signs of operators in front of an operand. -/
def leadingSigns : List (Char × Symbol) :=
  [('-', .minus), ('+', .plus), ('~', .bitNot), ('!', .bang)]

/-! ## Texts that are put together -/

namespace Lexes

open Render (commas fragments inParens)

variable {a b : String} {ks js : List Piece}

/-- Behind a closing parenthesis anything may stand. -/
theorem enclosed_cuts (h : Lexes q a ks) (rest : List Char) :
    Cuts q rest (Render.inParens a).toList (.opening :: (ks ++ [.closing])) := by
  have htext : (Render.inParens a).toList = '(' :: (a.toList ++ [')']) := by simp [Render.inParens]
  rw [htext]
  exact .mark rfl (by decide) (fun _ => rfl)
    ((h _ rfl).append (.mark rfl (by decide) (fun _ => rfl) .done))

theorem inParens (h : Lexes q a ks) : Lexes q (inParens a) (.opening :: (ks ++ [.closing])) :=
  fun rest _ => h.enclosed_cuts rest

theorem afterComma (h : Lexes q a ks) : Lexes q (", " ++ a) (.comma :: ks) := by
  intro rest hrest
  rw [String.toList_append]
  exact .mark rfl (by decide) (fun _ => rfl) (.blank (by decide) (h rest hrest))

/-- Parts with a mark before each but the first. -/
theorem separated {α : Type} {text : α → String} {spelling : α → List Piece} {x : α} {xs : List α}
    {mark : Piece} {separator : String}
    (hmark : ∀ {b : String} {js : List Piece}, Lexes q b js → Lexes q (separator ++ b) (mark :: js))
    (hapart : ∀ b : String, isApart (separator ++ b).toList = true)
    (h : ∀ y ∈ x :: xs, Lexes q (text y) (spelling y)) :
    Lexes q (separator.intercalate ((x :: xs).map text))
      (spelling x ++ xs.flatMap fun y => mark :: spelling y) := by
  induction xs generalizing x with
  | nil =>
    rw [List.flatMap_nil, List.append_nil]
    exact h x List.mem_cons_self
  | cons y ys ih =>
    have hrest := hmark (ih fun z hz => h z (List.mem_cons_of_mem _ hz))
    have hsplit : separator.intercalate ((x :: y :: ys).map text) =
        text x ++ (separator ++ separator.intercalate ((y :: ys).map text)) := by
      rw [List.map_cons, List.map_cons, String.intercalate_cons_cons, String.append_assoc]
    rw [hsplit]
    exact (h x List.mem_cons_self).append hrest (hapart _)

theorem commas {α : Type} {text : α → String} {spelling : α → List Piece} {x : α} {xs : List α}
    (h : ∀ y ∈ x :: xs, Lexes q (text y) (spelling y)) :
    Lexes q (commas ((x :: xs).map text))
      (spelling x ++ xs.flatMap fun y => .comma :: spelling y) :=
  separated afterComma (fun b => by rw [String.toList_append]; rfl) h

theorem afterSemicolon (h : Lexes q a ks) : Lexes q (" ; " ++ a) (.semicolon :: ks) := by
  intro rest hrest
  rw [String.toList_append]
  exact .blank (by decide) (.mark rfl (by decide) (fun _ => rfl)
    (.blank (by decide) (h rest hrest)))

/-- Parts with blanks between them. -/
theorem blanks {part : String × List Piece} {parts : List (String × List Piece)}
    (h : ∀ p ∈ part :: parts, Lexes q p.1 p.2) :
    Lexes q (" ".intercalate ((part :: parts).map Prod.fst))
      ((part :: parts).flatMap Prod.snd) := by
  induction parts generalizing part with
  | nil =>
    rw [List.flatMap_cons, List.flatMap_nil, List.append_nil]
    exact h part List.mem_cons_self
  | cons next parts ih =>
    have hrest := ih fun p hp => h p (List.mem_cons_of_mem _ hp)
    rw [List.map_cons, List.map_cons, String.intercalate_cons_cons, ← List.map_cons,
      List.flatMap_cons]
    exact (h part List.mem_cons_self).spaced hrest

theorem eq_nil (h : Lexes q "" ks) : ks = [] := by
  have hend := h.finished
  rw [show "".toList = [] from rfl, pieces_nil] at hend
  simpa using hend

theorem noFragments : Lexes q (fragments []) [] := empty

/-- A part without text has no pieces and leaves no blank. -/
theorem fragment {text : String} {texts : List String} (h : Lexes q text ks)
    (hrest : Lexes q (fragments texts) js) : Lexes q (fragments (text :: texts)) (ks ++ js) := by
  unfold Render.fragments at hrest ⊢
  by_cases htext : text = ""
  · subst htext
    rw [h.eq_nil]
    exact hrest
  · rw [List.filter_cons_of_pos (by simpa using htext)]
    cases hfilter : texts.filter (!·.isEmpty) with
    | nil =>
      rw [hfilter] at hrest
      rw [hrest.eq_nil, List.append_nil]
      exact h
    | cons next more =>
      rw [hfilter] at hrest
      rw [String.intercalate_cons_cons]
      exact h.spaced hrest

/-- A sign in front of an operand, if it makes up neither a comment nor a longer sign with it. -/
theorem tight {c first : Char} {cs : List Char} {mark : Symbol} (hmark : (c, mark) ∈ leadingSigns)
    (h : Lexes q a ks) (ha : a.toList = first :: cs) (heq : first ≠ '=')
    (hdash : c = '-' → first ≠ '-') :
    Lexes q (String.singleton c ++ a) (⟨.symbol mark, String.singleton c⟩ :: ks) := by
  intro rest hrest
  have hmarks : isBlank c = false ∧ comment? c (first :: (cs ++ rest)) = none ∧
      scan q c (first :: (cs ++ rest)) = (.symbol mark, 0) := by
    simp only [leadingSigns, List.mem_cons, Prod.mk.injEq, List.not_mem_nil, or_false] at hmark
    rcases hmark with ⟨rfl, rfl⟩ | ⟨rfl, rfl⟩ | ⟨rfl, rfl⟩ | ⟨rfl, rfl⟩
    · exact ⟨by decide, by simp [comment?, hdash rfl], rfl⟩
    · exact ⟨by decide, rfl, rfl⟩
    · exact ⟨by decide, rfl, rfl⟩
    · exact ⟨by decide, rfl, by simp [scan, single?, scanPair, heq]⟩
  obtain ⟨hc, hn, hscan⟩ := hmarks
  rw [String.toList_append, String.toList_singleton, List.singleton_append]
  exact .sign hc (by rwa [ha]) (by rwa [ha]) (h rest hrest)

end Lexes

end SqlWeave.Token
