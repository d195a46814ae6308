import Mathlib.Data.List.TakeWhile
import SqlWeave.Proofs.Token.Words

/-! Texts that keep their tokens. A text stands if its tokens are the same before whatever a
rendering puts behind it: a blank, a parenthesis, a comma, a bracket or a colon. Texts that stand
are put together from others that do, and a text that leaves nothing open stands with the tokens
that it has by itself. What is kept of a number, of a variable, of a parameter or of hexadecimal
digits is the same token again, whatever stood behind it. -/

namespace SqlWeave

def TokenKind.isParenthesis : TokenKind → Bool
  | .symbol .leftParen | .symbol .rightParen => true
  | _ => false

namespace Token

open Text (enclose isBlank)

/-- The kinds of the tokens of a text, the end of input last. -/
def kinds (q : Quoting) (cs : List Char) : List TokenKind := (tokensFrom q 0 cs).map Token.kind

/-- Whether a text begins with what nothing before it goes on with. -/
def isStop (q : Quoting) (rest : List Char) : Bool :=
  rest.head?.all fun b => stopsToken b && !(q.bracketNames && b == ']')

def Stands (q : Quoting) (text : String) (ks : List TokenKind) : Prop :=
  ∀ rest, isStop q rest = true → kinds q (text.toList ++ rest) = ks ++ kinds q rest

/-- The text stands even before what goes on with other texts. -/
def Opens (q : Quoting) (text : String) (ks : List TokenKind) : Prop :=
  ∀ rest, kinds q (text.toList ++ rest) = ks ++ kinds q rest

variable {q : Quoting} {a b : String} {ks js : List TokenKind} {rest : List Char}

/-! ## Kinds of tokens, one step at a time -/

theorem kinds_eq_map (q : Quoting) (pos : Nat) (cs : List Char) :
    (tokensFrom q pos cs).map Token.kind = kinds q cs := by
  have hshift := tokensFrom_shift q pos 0 cs
  rw [Nat.zero_add] at hshift
  rw [hshift, List.map_map, kinds]
  rfl

@[simp] theorem kinds_nil (q : Quoting) : kinds q [] = [.eof] := by
  rw [kinds, tokensFrom_nil]
  rfl

theorem kinds_blank {c : Char} (hc : isBlank c = true) (cs : List Char) :
    kinds q (c :: cs) = kinds q cs := by
  rw [kinds, tokensFrom_blank q 0 hc, kinds_eq_map]

theorem kinds_token {c : Char} {cs : List Char} (hc : isBlank c = false)
    (hn : comment? c cs = none) :
    kinds q (c :: cs) = (scan q c cs).1 :: kinds q (cs.drop (scan q c cs).2) := by
  rw [kinds, tokensFrom_token q 0 hc hn, List.map_cons, kinds_eq_map]

theorem Cuts.kinds_eq {cs : List Char} {ps : List Piece} (h : Cuts q rest cs ps) :
    kinds q (cs ++ rest) = ps.map Piece.kind ++ kinds q rest := by
  have hkinds (cs : List Char) : (pieces q cs).map Piece.kind = kinds q cs := by
    rw [pieces, kinds, List.map_map]
    rfl
  rw [← hkinds, h.pieces_eq, List.map_append, hkinds]

/-! ## What may come next -/

theorem isStop_append {cs ds : List Char} (hcs : isStop q cs = true) (hds : isStop q ds = true) :
    isStop q (cs ++ ds) = true := by
  cases cs with
  | nil => exact hds
  | cons c cs => exact hcs

theorem isStop_cons {b : Char} {rest : List Char} (h : isStop q (b :: rest) = true) :
    stopsToken b = true ∧ (q.bracketNames = true → b ≠ ']') := by
  simpa only [isStop, List.head?_cons, Option.all_some, Bool.and_eq_true, Bool.not_eq_true',
    Bool.and_eq_false_imp, beq_eq_false_iff_ne] using h

theorem isStop_of_stopsToken {b : Char} (hb : stopsToken b = true) (hclosing : b ≠ ']') :
    isStop q (b :: rest) = true := by
  rw [isStop, List.head?_cons, Option.all_some, hb, beq_eq_false_iff_ne.mpr hclosing,
    Bool.and_false]
  rfl

theorem isStop_of_isApart (h : isApart rest = true) : isStop q rest = true := by
  cases rest with
  | nil => rfl
  | cons c cs =>
    have hc : endsToken c = true := h
    simp [isStop, stopsToken_of_endsToken hc, endsToken_ne hc (c := ']') (by decide)]

theorem endsWord_of_isStop (h : isStop q rest = true) : endsWord rest = true := by
  cases rest with
  | nil => rfl
  | cons c cs =>
    have hc := (isStop_cons h).1
    simp [endsWord, isNameChar_boundary hc, boundary_ne hc (c := '\'') (by decide)]

/-! ## Putting texts together -/

theorem Opens.stands (h : Opens q a ks) : Stands q a ks := fun rest _ => h rest

namespace Stands

theorem empty : Stands q "" [] := fun _ _ => rfl

theorem append (ha : Stands q a ks) (hb : Stands q b js) (hstop : isStop q b.toList = true) :
    Stands q (a ++ b) (ks ++ js) := by
  intro rest hrest
  rw [String.toList_append, List.append_assoc, ha _ (isStop_append hstop hrest), hb _ hrest,
    List.append_assoc]

theorem behind (ha : Opens q a ks) (hb : Stands q b js) : Stands q (a ++ b) (ks ++ js) := by
  intro rest hrest
  rw [String.toList_append, List.append_assoc, ha, hb _ hrest, List.append_assoc]

/-- The kinds of the tokens are those of the text by itself. -/
theorem kinds_eq (h : Stands q a ks) : kinds q a.toList = ks ++ [.eof] := by
  have hend := h [] rfl
  rwa [List.append_nil, kinds_nil] at hend

theorem eq_nil (h : Stands q "" ks) : ks = [] := by
  have hkinds := h.kinds_eq
  rw [show "".toList = [] from rfl, kinds_nil] at hkinds
  simpa using hkinds

/-- A blank stands before everything, and so does what comes before it. -/
theorem opens (h : Stands q a ks) : Opens q (a ++ " ") ks := by
  intro rest
  have hblank := kinds_blank (q := q) (c := ' ') (by decide) rest
  rw [String.toList_append, List.append_assoc]
  exact (h (' ' :: rest) (isStop_of_isApart rfl)).trans (by rw [hblank])

end Stands

/-- A sign that is a token by itself before anything. -/
theorem Opens.mark {c : Char} {mark : Symbol} (hc : isBlank c = false)
    (hn : ∀ cs, comment? c cs = none) (hscan : ∀ cs, scan q c cs = (.symbol mark, 0)) :
    Opens q (String.singleton c) [.symbol mark] := by
  intro rest
  rw [String.toList_singleton, List.singleton_append, kinds_token hc (hn rest), hscan]
  rfl

theorem Opens.inParens (h : Stands q a ks) :
    Opens q (Render.inParens a) (.symbol .leftParen :: ks ++ [.symbol .rightParen]) := by
  intro rest
  have hopening := Opens.mark (q := q) (c := '(') (by decide) (fun _ => rfl) (fun _ => rfl)
  have hclosing := Opens.mark (q := q) (c := ')') (by decide) (fun _ => rfl) (fun _ => rfl) rest
  have htext : (Render.inParens a).toList ++ rest =
      (String.singleton '(').toList ++ (a.toList ++ ((String.singleton ')').toList ++ rest)) := by
    simp [Render.inParens]
  rw [htext, hopening, h _ (isStop_of_isApart rfl), hclosing]
  simp

/-- A sign in front of a text that does not make a comment or a longer sign with it. -/
theorem Stands.tight {c : Char} {mark : Symbol} (hmark : (c, mark) ∈ leadingSigns)
    (h : Stands q a ks) (hdash : c = '-' → a.toList.head? ≠ some '-')
    (heq : c = '!' → a.toList.head? ≠ some '=') :
    Stands q (String.singleton c ++ a) (.symbol mark :: ks) := by
  intro rest hrest
  have hhead {x : Char} (hx : stopsToken x = false) (ha : a.toList.head? ≠ some x) :
      (a.toList ++ rest).head? ≠ some x := by
    cases hcs : a.toList with
    | nil =>
      cases rest with
      | nil => simp
      | cons b rest => simpa using boundary_ne (isStop_cons hrest).1 hx
    | cons first cs => rwa [hcs] at ha
  have hfacts {cs : List Char} (hdash : c = '-' → cs.head? ≠ some '-')
      (heq : c = '!' → cs.head? ≠ some '=') :
      isBlank c = false ∧ comment? c cs = none ∧ scan q c cs = (.symbol mark, 0) := by
    simp only [leadingSigns, List.mem_cons, Prod.mk.injEq, List.not_mem_nil, or_false] at hmark
    rcases hmark with ⟨rfl, rfl⟩ | ⟨rfl, rfl⟩ | ⟨rfl, rfl⟩ | ⟨rfl, rfl⟩
    · exact ⟨by decide, by simp [comment?, hdash rfl], rfl⟩
    · exact ⟨by decide, rfl, rfl⟩
    · exact ⟨by decide, rfl, rfl⟩
    · exact ⟨by decide, rfl, by simp [scan, single?, scanPair, heq rfl]⟩
  obtain ⟨hc, hn, hscan⟩ := hfacts (fun h => hhead rfl (hdash h)) fun h => hhead rfl (heq h)
  rw [String.toList_append, String.toList_singleton, List.singleton_append, List.cons_append,
    kinds_token hc hn, hscan, List.drop_zero, h rest hrest]
  rfl

/-! ## Single tokens -/

/-- A token that takes the whole text. -/
theorem Stands.token {c : Char} {cs : List Char} {kind : TokenKind} (ha : a.toList = c :: cs)
    (hc : isBlank c = false) (hn : comment? c cs = none) (hscan : scan q c cs = (kind, cs.length))
    (hopen : isOpen kind = false) (hcolon : c = ':' → cs ≠ []) : Stands q a [kind] := by
  intro rest hrest
  have hfirst : comment? c (cs ++ rest) = none ∧ scan q c (cs ++ rest) = (kind, cs.length) := by
    cases rest with
    | nil =>
      rw [List.append_nil]
      exact ⟨hn, hscan⟩
    | cons b rest =>
      obtain ⟨hb, hclosing⟩ := isStop_cons hrest
      have hopen' : isOpen (scan q c cs).1 = false := by rw [hscan]; exact hopen
      have happ := scan_append_stop hb (r := rest) q c cs hopen' hclosing fun h hnil =>
        absurd hnil (hcolon h)
      exact ⟨comment?_append_none hb hn, happ.trans hscan⟩
  rw [ha, List.cons_append, kinds_token hc hfirst.1, hfirst.2, List.drop_left]
  rfl

theorem Stands.word {word : String} (h : isWord word = true) : Stands q word [wordKind word] :=
  fun _ hrest => (Cuts.word h (endsWord_of_isStop hrest)).kinds_eq

theorem Stands.sign {text : String} {mark : Symbol} (h : (text, mark) ∈ operatorSigns) :
    Stands q text [.symbol mark] := by
  obtain ⟨c, cs, htext, hc, hn, hscan, hcolon⟩ := scan_sign (q := q) h
  exact .token htext hc hn hscan rfl fun h => absurd h hcolon

/-- A text between delimiters that is written with the closing one doubled. -/
theorem Stands.delimited {opening closing : Char} {kind : String → TokenKind}
    {missing : LexicalFault} (h : Delimits q opening closing kind missing) (value : String) :
    Stands q (enclose opening closing value) [kind value] := by
  intro rest hrest
  have hclosing : rest.head? ≠ some closing := by
    cases rest with
    | nil => simp
    | cons b rest =>
      obtain ⟨hb, hbracket⟩ := isStop_cons hrest
      rw [List.head?_cons, ne_eq, Option.some.injEq]
      cases h with
      | bracket hnames => exact hbracket hnames
      | quote | nameQuote | doubleQuote | backtick => exact boundary_ne hb (by decide)
  rw [kinds, tokensFrom_delimited h 0 value hclosing, List.map_cons, kinds_eq_map]
  rfl

/-- How the name of a column or of what has columns is read: a star stands for all of them. -/
def nameKind (name : String) : TokenKind :=
  if name = "*" then .symbol .star else .quotedIdentifier name

section Names

variable {d : Dialect} {opening closing : Char}

theorem quoteIdentifier_star (d : Dialect) : d.quoteIdentifier "*" = "*" := if_pos rfl

theorem kinds_star (q : Quoting) (rest : List Char) :
    kinds q ("*".toList ++ rest) = .symbol .star :: kinds q rest :=
  Opens.mark (c := '*') (by decide) (fun _ => rfl) (fun _ => rfl) rest

/-- A name between delimiters ends where the closing one is not doubled. -/
theorem kinds_name (hd : d.identifierQuote.delimiters = some (opening, closing)) (name : String)
    (hrest : rest.head? ≠ some closing) :
    kinds d.quoting ((d.quoteIdentifier name).toList ++ rest) =
      nameKind name :: kinds d.quoting rest := by
  by_cases hstar : name = "*"
  · rw [hstar, quoteIdentifier_star]
    exact kinds_star _ _
  · have hquoted : d.quoteIdentifier name = enclose opening closing name := by
      simp only [Dialect.quoteIdentifier, if_neg hstar, hd]
    rw [hquoted, (Cuts.enclosed hd name hrest).kinds_eq, nameKind, if_neg hstar]
    rfl

theorem Stands.name (hd : d.identifierQuote.delimiters = some (opening, closing)) (name : String) :
    Stands d.quoting (d.quoteIdentifier name) [nameKind name] := by
  intro rest hrest
  by_cases hstar : name = "*"
  · rw [hstar, quoteIdentifier_star]
    exact kinds_star _ _
  · have hquoted : d.quoteIdentifier name = enclose opening closing name := by
      simp only [Dialect.quoteIdentifier, if_neg hstar, hd]
    rw [hquoted, nameKind, if_neg hstar]
    exact Stands.delimited (delimits hd) name rest hrest

/-- A quoted name and a star are no number's digits behind a point. -/
theorem quoteIdentifier_start (hd : d.identifierQuote.delimiters = some (opening, closing))
    (name : String) :
    ∃ c cs, (d.quoteIdentifier name).toList = c :: cs ∧ c.isDigit = false := by
  by_cases hstar : name = "*"
  · rw [hstar, quoteIdentifier_star]
    exact ⟨'*', [], rfl, rfl⟩
  · have hquoted : d.quoteIdentifier name = enclose opening closing name := by
      simp only [Dialect.quoteIdentifier, if_neg hstar, hd]
    rw [hquoted, enclose_toList]
    exact ⟨opening, _, rfl, (delimiters_cases hd).1⟩

/-- Names with points between them. -/
theorem Stands.dotted (hd : d.identifierQuote.delimiters = some (opening, closing))
    (names : List String) (last : String) :
    Stands d.quoting (".".intercalate ((names ++ [last]).map d.quoteIdentifier))
      (names.flatMap (fun name => [nameKind name, .symbol .dot]) ++ [nameKind last]) := by
  induction names with
  | nil => exact .name hd last
  | cons name names ih =>
    intro rest hrest
    obtain ⟨next, more, hnext⟩ := List.exists_cons_of_ne_nil (l := names ++ [last]) (by simp)
    obtain ⟨c, cs, hc, hdigit⟩ := quoteIdentifier_start hd next
    have hsplit :
        (".".intercalate ((name :: names ++ [last]).map d.quoteIdentifier)).toList ++ rest =
        (d.quoteIdentifier name).toList ++
          '.' :: ((".".intercalate ((names ++ [last]).map d.quoteIdentifier)).toList ++ rest) := by
      rw [List.cons_append, hnext, List.map_cons, List.map_cons, String.intercalate_cons_cons,
        ← List.map_cons]
      simp
    have hstart :
        ∃ cs, (".".intercalate ((names ++ [last]).map d.quoteIdentifier)).toList = c :: cs := by
      rw [hnext]
      cases more with
      | nil => exact ⟨cs, by simpa using hc⟩
      | cons other more => exact ⟨_, by simp [String.intercalate_cons_cons, hc]; rfl⟩
    obtain ⟨tail, htail⟩ := hstart
    have hscan : scan d.quoting '.' (c :: (tail ++ rest)) = (.symbol .dot, 0) := by
      rw [scan_point, if_neg (by simp [hdigit])]
    have hpoint : (some '.' : Option Char) ≠ some closing := by
      simpa using (delimiters_cases hd).2.1.symm
    have hdot : kinds d.quoting ('.' :: (c :: (tail ++ rest))) =
        .symbol .dot :: kinds d.quoting (c :: (tail ++ rest)) := by
      rw [kinds_token (by decide) rfl, hscan]
      rfl
    have hih := ih rest hrest
    rw [hsplit, kinds_name hd name (by exact hpoint), htail, List.cons_append, hdot]
    rw [htail, List.cons_append] at hih
    rw [hih]
    simp

end Names

/-! ## Texts without parentheses -/

/-- The text stands, and no parenthesis is among its tokens. -/
def Plain (q : Quoting) (text : String) : Prop :=
  ∃ ks, Stands q text ks ∧ ∀ k ∈ ks, k.isParenthesis = false

/-- The same before everything. -/
def PlainOpens (q : Quoting) (text : String) : Prop :=
  ∃ ks, Opens q text ks ∧ ∀ k ∈ ks, k.isParenthesis = false

theorem Stands.plain {k : TokenKind} (h : Stands q a [k])
    (hk : k.isParenthesis = false) : Plain q a :=
  ⟨[k], h, List.forall_mem_singleton.mpr hk⟩

theorem Opens.plain {k : TokenKind} (h : Opens q a [k]) (hk : k.isParenthesis = false) :
    PlainOpens q a :=
  ⟨[k], h, List.forall_mem_singleton.mpr hk⟩

theorem isParenthesis_wordKind (word : String) : (wordKind word).isParenthesis = false := by
  unfold wordKind
  split <;> rfl

theorem isParenthesis_nameKind (name : String) : (nameKind name).isParenthesis = false := by
  unfold nameKind
  split <;> rfl

namespace Plain

theorem empty : Plain q "" := ⟨[], .empty, List.forall_mem_nil _⟩

theorem word {word : String} (h : isWord word = true) : Plain q word :=
  (Stands.word h).plain (isParenthesis_wordKind word)

theorem name {d : Dialect} {opening closing : Char}
    (hd : d.identifierQuote.delimiters = some (opening, closing)) (name : String) :
    Plain d.quoting (d.quoteIdentifier name) :=
  (Stands.name hd name).plain (isParenthesis_nameKind name)

theorem spaced (ha : Plain q a) (hb : Plain q b) : Plain q (a ++ " " ++ b) := by
  obtain ⟨ks, hks, hplain⟩ := ha
  obtain ⟨js, hjs, hplain'⟩ := hb
  exact ⟨ks ++ js, .behind hks.opens hjs, List.forall_mem_append.mpr ⟨hplain, hplain'⟩⟩

/-- Texts with blanks between them. -/
theorem intercalate {texts : List String} (h : ∀ text ∈ texts, Plain q text) :
    Plain q (" ".intercalate texts) := by
  induction texts with
  | nil => exact empty
  | cons text texts ih =>
    obtain ⟨htext, hrest⟩ := List.forall_mem_cons.mp h
    cases texts with
    | nil => simpa using htext
    | cons next texts =>
      rw [String.intercalate_cons_cons]
      exact htext.spaced (ih hrest)

end Plain

/-- Whether the text ends between two tokens, none of which is a parenthesis, and not with a colon
that another could follow. -/
def isWhole (q : Quoting) (text : String) : Bool :=
  ending q text.toList == .plain && text.toList.getLast? != some ':' &&
    (kinds q text.toList).all (!·.isParenthesis)

theorem Plain.ofWhole (h : isWhole q a = true) : Plain q a := by
  simp only [isWhole, Bool.and_eq_true, beq_iff_eq, bne_iff_ne] at h
  obtain ⟨⟨hending, hcolon⟩, hplain⟩ := h
  obtain ⟨ts, hts, -⟩ := tokensFrom_split q 0 a.toList
  have hkinds : kinds q a.toList = ts.map Token.kind ++ [.eof] := by
    rw [kinds, hts, List.map_append]
    rfl
  refine ⟨ts.map Token.kind, fun rest hrest => ?_, fun k hk => ?_⟩
  · cases rest with
    | nil => rw [List.append_nil, hkinds, kinds_nil]
    | cons b rest =>
      obtain ⟨hb, hclosing⟩ := isStop_cons hrest
      have happ := tokensFrom_append_stop q hb hclosing rest 0 a.toList (.inl hcolon)
        (by rw [hending]; rfl)
      rw [kinds, happ, hts, List.dropLast_concat, List.map_append, kinds_eq_map]
  · have hall := List.all_eq_true.mp hplain k (by rw [hkinds]; exact List.mem_append_left _ hk)
    simpa using hall

theorem PlainOpens.comma : PlainOpens q ", " := by
  have hcomma : Opens q "," [.symbol .comma] :=
    Opens.mark (c := ',') (by decide) (fun _ => rfl) (fun _ => rfl)
  exact hcomma.stands.opens.plain rfl

/-! ## Words in capitals -/

/-- What the words of the language are written with. -/
def isWording (c : Char) : Bool := c.isAlpha || c == '_' || c == ' '

theorem isWording_cases {c : Char} (h : isWording c = true) : c = ' ' ∨ isNameStart c = true := by
  simp only [isWording, Bool.or_eq_true, beq_iff_eq] at h
  rcases h with (hletter | rfl) | rfl
  · exact .inr (by rw [isNameStart, isAlphabetic_of_isAlpha hletter, Bool.true_or])
  · exact .inr rfl
  · exact .inl rfl

theorem wording_whole (q : Quoting) {cs : List Char} (h : cs.all isWording = true) :
    ending q cs = .plain ∧ ∀ k ∈ kinds q cs, k.isParenthesis = false := by
  induction cs using text_induction q with
  | nil =>
    rw [ending, kinds_nil]
    exact ⟨rfl, List.forall_mem_singleton.mpr rfl⟩
  | blank c cs hc ih =>
    rw [ending, if_pos hc, kinds_blank hc]
    exact ih (Bool.and_eq_true_iff.mp h).2
  | comment c cs n hc hn =>
    rcases isWording_cases (Bool.and_eq_true_iff.mp h).1 with rfl | hstart
    · cases hc
    · rw [comment?_of_isNameStart hstart] at hn
      cases hn
  | token c cs hc hn ih =>
    obtain ⟨hfirst, hcs⟩ := Bool.and_eq_true_iff.mp h
    have hstart : isNameStart c = true := by
      rcases isWording_cases hfirst with rfl | hstart
      · cases hc
      · exact hstart
    have hhex : startsHex c cs = false := by
      cases cs with
      | nil => simp [startsHex]
      | cons d ds =>
        have hd : d ≠ '\'' := by
          rintro rfl
          exact absurd (Bool.and_eq_true_iff.mp hcs).1 (by decide)
        simp [startsHex, hd]
    have hscan := (scan_word q hstart hhex).trans (scanWord_eq c cs)
    have hih :=
      ih (List.all_eq_true.mpr fun d hd => List.all_eq_true.mp hcs d (List.mem_of_mem_drop hd))
    have hclosed : isOpen (scan q c cs).1 = false := by
      rw [hscan]
      unfold wordKind
      split <;> rfl
    rw [ending, if_neg (by simp [hc]), hn]
    simp only [hclosed, Bool.false_eq_true, ↓reduceIte]
    refine ⟨hih.1, ?_⟩
    have hword : (scan q c cs).1.isParenthesis = false := by
      simp only [hscan, isParenthesis_wordKind]
    rw [kinds_token hc hn]
    exact List.forall_mem_cons.mpr ⟨hword, hih.2⟩

/-- Words with blanks between them. -/
theorem Plain.wording (h : a.toList.all isWording = true) : Plain q a := by
  obtain ⟨hending, hplain⟩ := wording_whole q h
  refine .ofWhole ?_
  have hcolon : a.toList.getLast? ≠ some ':' := fun hlast =>
    absurd (List.all_eq_true.mp h ':' (List.mem_of_getLast? hlast)) (by decide)
  simp [isWhole, hending, hcolon]
  simpa using hplain

/-- Words with a blank behind them. -/
theorem PlainOpens.wording (h : a.toList.all isWording = true)
    (hblank : a.toList.getLast? = some ' ') :
    PlainOpens q a := by
  obtain ⟨cs, hcs⟩ := List.getLast?_eq_some_iff.mp hblank
  have hwords : (String.ofList cs).toList.all isWording = true := by
    rw [hcs, List.all_append, Bool.and_eq_true] at h
    rw [String.toList_ofList]
    exact h.1
  have htext : a = String.ofList cs ++ " " := by
    rw [← String.toList_inj, String.toList_append, String.toList_ofList, hcs]
    rfl
  obtain ⟨ks, hks, hplain⟩ := Plain.wording (q := q) hwords
  exact ⟨ks, htext ▸ hks.opens, hplain⟩

/-! ## Numbers -/

variable {text : String} {c : Char} {cs : List Char}

/-- Nothing, or a point with digits behind it. -/
def IsFraction (cs : List Char) : Prop :=
  cs = [] ∨ ∃ d ds, (∀ c ∈ d :: ds, c.isDigit = true) ∧ cs = '.' :: d :: ds

/-- Nothing, or a letter and what may stand behind it. -/
def IsExponent (cs : List Char) : Prop :=
  cs = [] ∨ ∃ mark d ds, (mark = 'e' ∨ mark = 'E') ∧ (d.isDigit = true ∨ d = '+' ∨ d = '-') ∧
    (∀ c ∈ ds, c.isDigit = true) ∧ cs = mark :: d :: ds

theorem take_fraction (cs : List Char) : IsFraction (cs.take (fractionLength cs)) := by
  unfold fractionLength
  split
  · rename_i d cs
    split
    · rename_i hd
      refine .inr ⟨d, cs.takeWhile Char.isDigit, ?_, ?_⟩
      · exact List.forall_mem_cons.mpr ⟨hd, fun c hc => List.mem_takeWhile_imp hc⟩
      · rw [List.take_succ_cons, List.take_succ_cons, take_countWhile]
    · exact .inl rfl
  · exact .inl rfl

theorem take_exponent (cs : List Char) : IsExponent (cs.take (exponentLength cs)) := by
  unfold exponentLength
  split
  · rename_i mark d cs
    split
    · rename_i hmark
      split
      · rename_i hd
        refine .inr ⟨mark, d, cs.takeWhile Char.isDigit, by simpa using hmark, by
          simpa [or_assoc] using hd, ?_, ?_⟩
        · exact fun c hc => List.mem_takeWhile_imp hc
        · rw [List.take_succ_cons, List.take_succ_cons, take_countWhile]
      · exact .inl rfl
    · exact .inl rfl
  · exact .inl rfl

theorem IsExponent.countWhile_append {exponent : List Char} (h : IsExponent exponent)
    {ds : List Char} (hds : ∀ c ∈ ds, c.isDigit = true) :
    countWhile Char.isDigit (ds ++ exponent) = ds.length := by
  rcases h with rfl | ⟨mark, d, more, hmark, -, -, rfl⟩
  · rw [List.append_nil]
    exact countWhile_all hds
  · rw [Token.countWhile_append (by rcases hmark with rfl | rfl <;> rfl)]
    exact countWhile_all hds

theorem IsExponent.length_eq {exponent : List Char} (h : IsExponent exponent) :
    exponentLength exponent = exponent.length := by
  rcases h with rfl | ⟨mark, d, ds, hmark, hd, hds, rfl⟩
  · rfl
  · have hletter : (mark == 'e' || mark == 'E') = true := by simpa using hmark
    have hnext : (d.isDigit || d == '+' || d == '-') = true := by simpa [or_assoc] using hd
    simp only [exponentLength, hletter, hnext, if_true, countWhile_all hds, List.length_cons]

/-- Digits, a fraction and an exponent are all of a number. -/
theorem scanNumber_all {ds fraction exponent : List Char} (hds : ∀ c ∈ ds, c.isDigit = true)
    (hfraction : IsFraction fraction) (hexponent : IsExponent exponent) (c : Char) :
    (scanNumber c (ds ++ (fraction ++ exponent))).2 = (ds ++ (fraction ++ exponent)).length := by
  have hwhole : countWhile Char.isDigit (ds ++ (fraction ++ exponent)) = ds.length := by
    rcases hfraction with rfl | ⟨d, more, -, rfl⟩
    · exact hexponent.countWhile_append hds
    · rw [List.cons_append, Token.countWhile_append rfl]
      exact countWhile_all hds
  have hpart : fractionLength (fraction ++ exponent) = fraction.length := by
    rcases hfraction with rfl | ⟨d, more, hall, rfl⟩
    · rcases hexponent with rfl | ⟨mark, d, more, hmark, -, -, rfl⟩
      · rfl
      · rcases hmark with rfl | rfl <;> rfl
    · obtain ⟨hd, hmore⟩ := List.forall_mem_cons.mp hall
      simp only [List.cons_append, fractionLength, hd, if_true, hexponent.countWhile_append hmore,
        List.length_cons]
  simp only [scanNumber, hwhole, List.drop_left, hpart]
  rw [← List.append_assoc, ← List.length_append, List.drop_left, hexponent.length_eq,
    @List.length_append _ _ exponent]

/-- A number that takes the whole text. -/
structure IsNumeral (c : Char) (cs : List Char) : Prop where
  start : c.isDigit = true ∨ c = '.' ∧ cs.head?.any Char.isDigit = true
  whole : (scanNumber c cs).2 = cs.length

theorem IsNumeral.plain (h : IsNumeral c cs) (htext : text.toList = c :: cs) : Plain q text := by
  obtain ⟨hstart, hwhole⟩ := h
  have hnumber : scanNumber c cs = (.number text, cs.length) := by
    refine Prod.ext ?_ hwhole
    rw [scanNumber] at hwhole ⊢
    simp only at hwhole ⊢
    rw [hwhole, List.take_length, ← htext, String.ofList_toList]
  have hscan : scan q c cs = (.number text, cs.length) := by
    rcases hstart with hc | ⟨rfl, hdigit⟩
    · rw [scan_digit hc, hnumber]
    · rw [scan_point, if_pos hdigit, hnumber]
  have hfirst : isBlank c = false ∧ comment? c cs = none ∧ c ≠ ':' := by
    rcases hstart with hc | ⟨rfl, -⟩
    · have hne (x : Char) (hx : x.isDigit = false) : c ≠ x := by
        rintro rfl
        rw [hx] at hc
        cases hc
      refine ⟨isBlank_of_isDigit hc, ?_, hne ':' (by decide)⟩
      simp [comment?, hne '#' (by decide), hne '-' (by decide), hne '/' (by decide)]
    · exact ⟨by decide, rfl, by decide⟩
  exact (Stands.token htext hfirst.1 hfirst.2.1 hscan rfl fun h => absurd h hfirst.2.2).plain rfl

theorem isNumeral_scanned (hstart : c.isDigit = true ∨ c = '.' ∧ cs.head?.any Char.isDigit = true) :
    IsNumeral c (cs.take (scanNumber c cs).2) := by
  have hfraction := take_fraction (cs.drop (countWhile Char.isDigit cs))
  have hexponent := take_exponent
    (cs.drop (countWhile Char.isDigit cs + fractionLength (cs.drop (countWhile Char.isDigit cs))))
  have hall : ∀ d ∈ cs.takeWhile Char.isDigit, d.isDigit = true :=
    fun d hd => List.mem_takeWhile_imp hd
  have hsplit : cs.take (scanNumber c cs).2 = cs.takeWhile Char.isDigit ++
      ((cs.drop (countWhile Char.isDigit cs)).take
        (fractionLength (cs.drop (countWhile Char.isDigit cs))) ++
        (cs.drop (countWhile Char.isDigit cs +
          fractionLength (cs.drop (countWhile Char.isDigit cs)))).take
          (exponentLength
            (cs.drop (countWhile Char.isDigit cs +
              fractionLength (cs.drop (countWhile Char.isDigit cs)))))) := by
    simp only [scanNumber]
    rw [List.take_add, List.take_add, take_countWhile, List.append_assoc]
  constructor
  · rcases hstart with hc | ⟨rfl, hhead⟩
    · exact .inl hc
    · refine .inr ⟨rfl, ?_⟩
      cases cs with
      | nil => cases hhead
      | cons d ds =>
        have hd : d.isDigit = true := hhead
        rw [hsplit, List.takeWhile_cons, if_pos hd]
        exact hd
  · rw [hsplit]
    exact scanNumber_all hall hfraction hexponent c

theorem Plain.digits (h : Decimal.isDigits text.toList = true) : Plain q text := by
  cases htext : text.toList with
  | nil =>
    rw [htext] at h
    cases h
  | cons c cs =>
    rw [htext] at h
    obtain ⟨hc, hcs⟩ : c.isDigit = true ∧ ∀ d ∈ cs, d.isDigit = true := by
      simpa [Decimal.isDigits] using h
    have hwhole := scanNumber_all hcs (.inl rfl) (.inl rfl) c
    rw [List.append_nil, List.append_nil] at hwhole
    exact IsNumeral.plain ⟨.inl hc, hwhole⟩ htext

/-! ## Hexadecimal digits, variables and parameters -/

theorem Plain.hex {digits : String} (h : ∀ c ∈ digits.toList, isHexDigit c = true) :
    Plain q ("X'" ++ digits ++ "'") := by
  have htext : ("X'" ++ digits ++ "'").toList = 'X' :: '\'' :: (digits.toList ++ ['\'']) := by simp
  have hdigits : (digits.toList ++ ['\'']).takeWhile isHexDigit = digits.toList := by
    rw [List.takeWhile_append_of_pos h]
    exact List.append_nil _
  have hscan : scan q 'X' ('\'' :: (digits.toList ++ ['\''])) =
      (.hex digits, ('\'' :: (digits.toList ++ ['\''])).length) := by
    rw [scan_hex q rfl, scanHex]
    simp only [List.drop_succ_cons, List.drop_zero, hdigits, List.drop_left, if_true,
      String.ofList_toList]
    simp
  exact (Stands.token htext (by decide) rfl hscan rfl fun h => absurd h (by decide)).plain rfl

theorem isHexDigit_scanned {digits : String} (h : (scanHex cs).1 = .hex digits) :
    ∀ c ∈ digits.toList, isHexDigit c = true := by
  simp only [scanHex] at h
  split at h
  · cases h
  · simp only at h
    split at h
    · cases h
      rw [String.toList_ofList]
      exact fun c hc => List.mem_takeWhile_imp hc
    · cases h

def isVariableChar (c : Char) : Bool := isNameChar c || c == '.'

theorem Plain.variable {session : List Char} (hsession : session = [] ∨ session = ['@'])
    (hcs : ∀ c ∈ cs, isVariableChar c = true) :
    Plain q (String.ofList ('@' :: (session ++ cs))) := by
  have hat : ∀ c ∈ cs, c ≠ '@' := by
    rintro c hc rfl
    exact absurd (hcs _ hc) (by decide)
  have hscan : scan q '@' (session ++ cs) =
      (.variable (String.ofList ('@' :: (session ++ cs))), (session ++ cs).length) := by
    have hcount : countWhile (fun c => isNameChar c || c == '.') cs = cs.length :=
      countWhile_all hcs
    show scanVariable _ = _
    rcases hsession with rfl | rfl
    · have hhead : (cs.head? == some '@') = false := by
        cases cs with
        | nil => rfl
        | cons c cs => simpa using hat c List.mem_cons_self
      simp [scanVariable, hhead, hcount]
    · simp [scanVariable, hcount, Nat.add_comm]
  have hplain := Stands.token (String.toList_ofList ..) (by decide) rfl hscan rfl fun h =>
    absurd h (by decide)
  exact hplain.plain rfl

theorem variable_scanned (cs : List Char) : ∃ session name, (session = [] ∨ session = ['@']) ∧
    (∀ c ∈ name, isVariableChar c = true) ∧
      (scanVariable cs).1 = .variable (String.ofList ('@' :: (session ++ name))) := by
  have hall (cs : List Char) : ∀ c ∈ cs.takeWhile isVariableChar, isVariableChar c = true :=
    fun c hc => List.mem_takeWhile_imp hc
  by_cases hhead : (cs.head? == some '@') = true
  · obtain ⟨ds, rfl⟩ : ∃ ds, cs = '@' :: ds := List.head?_eq_some_iff.mp (by simpa using hhead)
    refine ⟨['@'], ds.takeWhile isVariableChar, .inr rfl, hall ds, ?_⟩
    simp only [scanVariable, hhead, if_true, List.drop_succ_cons, List.drop_zero]
    rw [Nat.add_comm, List.take_succ_cons, take_countWhile]
    rfl
  · refine ⟨[], cs.takeWhile isVariableChar, .inl rfl, hall cs, ?_⟩
    simp only [scanVariable, hhead, Bool.false_eq_true, ↓reduceIte, List.drop_zero, Nat.zero_add,
      take_countWhile]
    rfl

theorem Plain.parameter {name : String} (h : isWord name = true) : Plain q (":" ++ name) := by
  obtain ⟨c, cs, htext, hscan⟩ := scan_parameter (q := q) h
  exact (Stands.token htext (by decide) rfl hscan rfl fun _ => List.cons_ne_nil _ _).plain rfl

/-! ## All of them -/

/-- What is kept of the token is the same token by itself, and a bracket is a token only where it
delimits no names. -/
def Kept (q : Quoting) : TokenKind → Prop
  | .number text | .variable text => Plain q text
  | .hex digits => Plain q ("X'" ++ digits ++ "'")
  | .parameter name => Plain q (":" ++ name)
  | .symbol mark => mark = .leftBracket → q.bracketNames = false
  | _ => True

theorem scanColon_kept (cs : List Char) : Kept q (scanColon cs).1 := by
  cases cs with
  | nil => exact fun h => by cases h
  | cons c cs =>
    simp only [scanColon]
    split
    · exact fun h => by cases h
    · split
      · rename_i hstart
        refine .parameter ?_
        rw [isWord, String.toList_ofList, List.take_succ_cons, take_countWhile]
        exact Bool.and_eq_true_iff.mpr ⟨hstart, List.all_takeWhile⟩
      · exact fun h => by cases h

theorem scan_kept (q : Quoting) (c : Char) (cs : List Char) : Kept q (scan q c cs).1 := by
  refine scan_elim (P := fun x => Kept q x.1) q c cs (fun _ _ hmark => hmark)
    (fun _ _ _ _ hmark h => absurd h hmark)
    (fun h => ?_) (fun hstart => ?_) (fun _ => ?_) (fun _ => ?_) (fun _ => ?_)
      (fun _ _ => ?_) trivial
  · cases h <;> exact scanDelimited_fst (fun _ => trivial) trivial cs
  · exact (isNumeral_scanned hstart).plain (String.toList_ofList ..)
  · obtain ⟨session, name, hsession, hname, htext⟩ := variable_scanned cs
    rw [htext]
    exact .variable hsession hname
  · exact scanColon_kept cs
  · exact scanHex_fst (P := fun k =>
      (∀ digits, k = .hex digits → ∀ c ∈ digits.toList, isHexDigit c = true) → Kept q k)
      (fun digits h => .hex (h digits rfl)) (fun _ _ => trivial) cs fun _ => isHexDigit_scanned
  · unfold scanWord
    simp only
    split <;> trivial

theorem tokenize_kept {d : Dialect} {text : String} {a : Token} (ha : a ∈ tokenize d text) :
    Kept d.quoting a.kind :=
  forall_tokenize (P := fun a => Kept d.quoting a.kind) trivial (fun _ _ => scan_kept _ _ _) ha

end Token

end SqlWeave
