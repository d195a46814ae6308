import SqlWeave.Proofs.Token.Append
import SqlWeave.Render.Basic

/-! Names and strings as they are printed. In delimiters they are one token, whatever they hold, and
a name printed bare is one exactly if it is spelled like a word. -/

namespace SqlWeave.Token

open Text (doubling enclose isBlank)

/-! ## Names in delimiters -/

theorem delimited_doubling {closing : Char} (name : List Char) {rest : List Char}
    (h : rest.head? ≠ some closing) :
    delimited closing (doubling closing name ++ closing :: rest) =
      some (name, (doubling closing name).length + 1) := by
  induction name with
  | nil =>
    cases rest with
    | nil => simp [doubling, delimited]
    | cons c cs =>
      have hc : c ≠ closing := by simpa using h
      simp [doubling, delimited, hc]
  | cons c cs ih =>
    by_cases hc : c = closing
    · subst hc
      simp [doubling, delimited, ih]
    · simp [doubling, delimited_other, hc, ih]

theorem scanDelimited_doubling {closing : Char} (kind : String → TokenKind) (missing : LexicalFault)
    (name : String) {rest : List Char} (h : rest.head? ≠ some closing) :
    scanDelimited closing kind missing (doubling closing name.toList ++ closing :: rest) =
      (kind name, (doubling closing name.toList).length + 1) := by
  rw [scanDelimited, delimited_doubling name.toList h]
  simp

/-- The delimiters of a dialect enclose names. -/
theorem delimits {d : Dialect} {opening closing : Char}
    (hd : d.identifierQuote.delimiters = some (opening, closing)) :
    Delimits d.quoting opening closing .quotedIdentifier .unterminatedIdentifier := by
  cases hq : d.identifierQuote with
  | bare => simp [hq, IdentifierQuote.delimiters] at hd
  | backtick =>
    obtain ⟨rfl, rfl⟩ : '\x60' = opening ∧ '\x60' = closing := by
      simpa [hq, IdentifierQuote.delimiters] using hd
    exact .backtick
  | doubleQuote =>
    obtain ⟨rfl, rfl⟩ : '"' = opening ∧ '"' = closing := by
      simpa [hq, IdentifierQuote.delimiters] using hd
    exact .nameQuote (by simp [Dialect.quoting, hq])
  | bracket =>
    obtain ⟨rfl, rfl⟩ : '[' = opening ∧ ']' = closing := by
      simpa [hq, IdentifierQuote.delimiters] using hd
    exact .bracket (by simp [Dialect.quoting, hq])

theorem delimiters_cases {quote : IdentifierQuote} {opening closing : Char}
    (h : quote.delimiters = some (opening, closing)) :
    opening.isDigit = false ∧ closing ≠ '.' ∧ closing ≠ ' ' := by
  cases quote with
  | bare => cases h
  | backtick | doubleQuote | bracket =>
    cases h
    decide

theorem scan_point (q : Quoting) (cs : List Char) :
    scan q '.' cs = if cs.head?.any Char.isDigit then scanNumber '.' cs else (.symbol .dot, 0) :=
  rfl

section Delimited

variable {q : Quoting} {opening closing : Char} {kind : String → TokenKind} {missing : LexicalFault}

theorem enclose_toList (opening closing : Char) (value : String) :
    (enclose opening closing value).toList =
      opening :: (doubling closing value.toList ++ [closing]) := by
  rw [enclose, String.toList_ofList]

/-- The scanner takes all that stands between the delimiters, and nothing behind them. -/
theorem Delimits.scan_enclosed (h : Delimits q opening closing kind missing) (value : String)
    {rest : List Char} (hrest : rest.head? ≠ some closing) :
    scan q opening (doubling closing value.toList ++ [closing] ++ rest) =
      (kind value, (doubling closing value.toList ++ [closing]).length) := by
  rw [h.scan_eq, List.append_assoc, List.singleton_append,
    scanDelimited_doubling kind missing value hrest, List.length_append, List.length_singleton]

/-- What stands in delimiters is one token, and what follows it is read as it is by itself. -/
theorem tokensFrom_delimited (h : Delimits q opening closing kind missing) (pos : Nat)
    (value : String) {rest : List Char} (hrest : rest.head? ≠ some closing) :
    tokensFrom q pos ((enclose opening closing value).toList ++ rest) =
      ⟨kind value, ⟨pos, pos + byteLength (enclose opening closing value).toList⟩⟩ ::
        tokensFrom q (pos + byteLength (enclose opening closing value).toList) rest := by
  obtain ⟨hblank, hcomment, -⟩ := h.starts
  rw [enclose_toList, List.cons_append, tokensFrom_token _ _ hblank (hcomment _),
    h.scan_enclosed value hrest, List.take_left, List.drop_left]

/-- The same of a text that starts there. -/
theorem tokenize_delimited {d : Dialect} (h : Delimits d.quoting opening closing kind missing)
    (value : String) {rest : String} (hrest : rest.toList.head? ≠ some closing) :
    tokenize d (enclose opening closing value ++ rest) =
      ⟨kind value, ⟨0, byteLength (enclose opening closing value).toList⟩⟩ ::
        (tokenize d rest).map (shift (byteLength (enclose opening closing value).toList)) := by
  rw [tokenize, String.toList_append, tokensFrom_delimited h 0 value hrest, tokenize,
    ← tokensFrom_shift, Nat.zero_add]

end Delimited

/-- A quoted name or string is one token, whatever it holds, that ends where the rest begins. The
rest has the tokens that it has by itself. -/
theorem quoted_confined (d : Dialect) (rest : String) :
    (∀ opening closing name, d.identifierQuote.delimiters = some (opening, closing) → name ≠ "*" →
      rest.toList.head? ≠ some closing →
      tokenize d (d.quoteIdentifier name ++ rest) =
        ⟨.quotedIdentifier name, ⟨0, byteLength (d.quoteIdentifier name).toList⟩⟩ ::
          (tokenize d rest).map (shift (byteLength (d.quoteIdentifier name).toList))) ∧
    ∀ value, rest.toList.head? ≠ some '\'' →
      tokenize d (Render.quoteString value ++ rest) =
        ⟨.string value, ⟨0, byteLength (Render.quoteString value).toList⟩⟩ ::
          (tokenize d rest).map (shift (byteLength (Render.quoteString value).toList)) := by
  refine ⟨fun opening closing name hd hname hrest => ?_,
    fun value hrest => tokenize_delimited .quote value hrest⟩
  have hquoted : d.quoteIdentifier name = enclose opening closing name := by
    simp only [Dialect.quoteIdentifier, if_neg hname, hd]
  rw [hquoted]
  exact tokenize_delimited (delimits hd) name hrest

/-- Contents that try to end their quotes, and to make a comment of the rest. -/
theorem quoted_confined_comment :
    "a]]b] -- '" ≠ "*" ∧
      tokenize .transactSql (Dialect.quoteIdentifier .transactSql "a]]b] -- '" ++ "[c]") =
        [⟨.quotedIdentifier "a]]b] -- '", ⟨0, 15⟩⟩, ⟨.quotedIdentifier "c", ⟨15, 18⟩⟩,
          ⟨.eof, ⟨18, 18⟩⟩] ∧
      tokenize .mySql (Render.quoteString "''\n/*" ++ "\"d\"") =
        [⟨.string "''\n/*", ⟨0, 9⟩⟩, ⟨.doubleQuoted "d", ⟨9, 12⟩⟩, ⟨.eof, ⟨12, 12⟩⟩] := by
  refine ⟨by decide, ?_, ?_⟩
  · rw [(quoted_confined .transactSql "[c]").1 '[' ']' "a]]b] -- '" rfl (by decide) (by decide)]
    decide +kernel
  · rw [(quoted_confined .mySql "\"d\"").2 "''\n/*" (by decide)]
    decide +kernel

/-! ## Bare names -/

/-- The kind of a word. -/
def wordKind (text : String) : TokenKind :=
  match Keyword.lookup? text with
  | some k => .keyword k
  | none => .identifier text

/-- Whether a text is spelled like a word. -/
def isWord (text : String) : Bool :=
  match text.toList with
  | [] => false
  | c :: cs => isNameStart c && cs.all isNameChar

/-- What may follow a word: nothing that goes on with it or makes a number of it. -/
def endsWord (rest : List Char) : Bool := rest.head?.all fun c => !isNameChar c && c != '\''

theorem single?_of_isNameStart {c : Char} (h : isNameStart c = true) : single? c = none := by
  unfold single?
  split <;> first | rfl | exact absurd h (by decide)

theorem isNameStart_blanksAndDigits {c : Char} (h : c.toNat ∈ blanksAndDigits) :
    isNameStart c = false := by
  have hall : ∀ n ∈ blanksAndDigits, isNameStart (Char.ofNat n) = false := by decide +kernel
  simpa using hall _ h

theorem isNameStart_not_blank {c : Char} (h : isNameStart c = true) : isBlank c = false := by
  cases hblank : isBlank c with
  | false => rfl
  | true =>
    rw [(blank_facts hblank).2.1] at h
    cases h

theorem isNameStart_not_digit {c : Char} (h : isNameStart c = true) : c.isDigit = false := by
  cases hdigit : c.isDigit with
  | false => rfl
  | true =>
    have hmem : c.toNat ∈ blanksAndDigits := by
      simp only [Char.isDigit, Bool.and_eq_true, decide_eq_true_eq, ge_iff_le,
        UInt32.le_iff_toNat_le] at hdigit
      simp only [blanksAndDigits, List.mem_append, List.mem_cons, List.mem_range'_1,
        List.not_mem_nil]
      have hlow : 48 ≤ c.toNat := hdigit.1
      have hhigh : c.toNat ≤ 57 := hdigit.2
      omega
    rw [isNameStart_blanksAndDigits hmem] at h
    cases h

theorem ne_of_isNameStart {c x : Char} (h : isNameStart c = true)
    (hx : isNameStart x = false) : c ≠ x := by
  rintro rfl
  rw [hx] at h
  cases h

theorem comment?_of_isNameStart {c : Char} (h : isNameStart c = true) (cs : List Char) :
    comment? c cs = none := by
  have hne {x : Char} := ne_of_isNameStart (x := x) h
  simp [comment?, hne (x := '#') (by decide), hne (x := '-') (by decide),
    hne (x := '/') (by decide)]

theorem scan_word (q : Quoting) {c : Char} {cs : List Char} (h : isNameStart c = true)
    (hhex : startsHex c cs = false) : scan q c cs = scanWord c cs := by
  have hne (x : Char) (hx : isNameStart x = false) : c ≠ x := ne_of_isNameStart h hx
  rw [startsHex] at hhex
  unfold scan
  simp only [single?_of_isNameStart h, hhex, isNameStart_not_digit h, h, hne '[' (by decide),
    hne '.' (by decide), hne '@' (by decide), hne ':' (by decide), hne '=' (by decide),
    hne '<' (by decide), hne '>' (by decide), hne '!' (by decide), hne '|' (by decide),
    hne '\'' (by decide), hne '"' (by decide), hne '\x60' (by decide), Bool.false_eq_true,
    ↓reduceIte]

theorem scanWord_eq (c : Char) (cs : List Char) :
    scanWord c cs = (wordKind (String.ofList (c :: cs.takeWhile isNameChar)),
      countWhile isNameChar cs) := by
  cases hword : Keyword.lookup? (String.ofList (c :: cs.takeWhile isNameChar)) <;>
    simp only [scanWord, wordKind, take_countWhile, hword]

theorem takeWhile_word {cs rest : List Char} (hcs : cs.all isNameChar = true)
    (hrest : endsWord rest = true) :
    (cs ++ rest).takeWhile isNameChar = cs := by
  rw [List.takeWhile_append_of_pos (List.all_eq_true.mp hcs)]
  cases rest with
  | nil => simp
  | cons c rest =>
    have hc : isNameChar c = false := by
      simp only [endsWord, List.head?_cons, Option.all_some, Bool.and_eq_true,
        Bool.not_eq_true'] at hrest
      exact hrest.1
    rw [List.takeWhile_cons_of_neg (by simp [hc]), List.append_nil]

theorem startsHex_word {c : Char} {cs rest : List Char} (hcs : cs.all isNameChar = true)
    (hrest : endsWord rest = true) : startsHex c (cs ++ rest) = false := by
  have hquote : (cs ++ rest).head? ≠ some '\'' := by
    cases cs with
    | nil =>
      cases rest with
      | nil => simp
      | cons x rest =>
        simp only [endsWord, List.head?_cons, Option.all_some, Bool.and_eq_true,
          bne_iff_ne] at hrest
        simpa using hrest.2
    | cons x cs =>
      intro hx
      obtain rfl : x = '\'' := by simpa using hx
      simp only [List.all_cons, Bool.and_eq_true] at hcs
      exact absurd hcs.1 (by decide)
  rw [startsHex, beq_eq_false_iff_ne.mpr hquote, Bool.and_false]

theorem byteLength_take_inj {cs : List Char} {n m : Nat}
    (h : byteLength (cs.take n) = byteLength (cs.take m)) :
    cs.take n = cs.take m := by
  induction cs generalizing n m with
  | nil => simp
  | cons c cs ih =>
    have hc := Char.utf8Size_pos c
    cases n with
    | zero =>
      cases m with
      | zero => rfl
      | succ m =>
        rw [List.take_succ_cons, byteLength_cons] at h
        have hzero : byteLength ((c :: cs).take 0) = 0 := rfl
        omega
    | succ n =>
      cases m with
      | zero =>
        rw [List.take_succ_cons, byteLength_cons] at h
        have hzero : byteLength ((c :: cs).take 0) = 0 := rfl
        omega
      | succ m =>
        rw [List.take_succ_cons, List.take_succ_cons, byteLength_cons, byteLength_cons] at h
        rw [List.take_succ_cons, List.take_succ_cons, ih (Nat.add_left_cancel h)]

theorem tokensFrom_starts (q : Quoting) (pos : Nat) (cs : List Char) :
    ∀ t ∈ tokensFrom q pos cs, pos ≤ t.span.start := by
  induction cs using text_induction q generalizing pos with
  | nil => simp [tokensFrom_nil]
  | blank c cs hc ih =>
    rw [tokensFrom_blank q pos hc]
    exact fun t ht => Nat.le_trans (Nat.le_add_right _ _) (ih _ t ht)
  | comment c cs n hc hn ih =>
    rw [tokensFrom_comment q pos hc hn]
    exact fun t ht => Nat.le_trans (Nat.le_add_right _ _) (ih _ t ht)
  | token c cs hc hn ih =>
    rw [tokensFrom_token q pos hc hn]
    intro t ht
    rcases List.mem_cons.mp ht with rfl | ht
    · exact Nat.le_refl _
    · exact Nat.le_trans (Nat.le_add_right _ _) (ih _ t ht)

theorem isNameStart_of_word {q : Quoting} {c : Char} {cs : List Char} {text : String}
    (h : (scan q c cs).1 = wordKind text) : isNameStart c = true ∧ startsHex c cs = false := by
  refine scan_fst (P := (· = wordKind text → isNameStart c = true ∧ startsHex c cs = false)) q c cs
    (fun hstart hhex _ => ⟨hstart, hhex⟩) (fun k hname hword _ hk => ?_) h
  unfold wordKind at hk
  split at hk
  · exact absurd hk (hword _)
  · exact absurd hk (hname _)

/-- A name printed bare is one token, and what follows it is read as it is by itself, exactly if the
name is spelled like a word. -/
theorem tokensFrom_bare_iff (q : Quoting) (pos : Nat) (name : String) {rest : List Char}
    (hrest : endsWord rest = true) :
    tokensFrom q pos (name.toList ++ rest) =
        ⟨wordKind name, ⟨pos, pos + byteLength name.toList⟩⟩ ::
          tokensFrom q (pos + byteLength name.toList) rest ↔
      isWord name = true := by
  unfold isWord
  cases hname : name.toList with
  | nil =>
    refine ⟨fun h => ?_, fun h => by cases h⟩
    have hlength := congrArg List.length h
    simp [byteLength] at hlength
  | cons c cs =>
    rw [List.cons_append]
    constructor
    · intro h
      have hskips (n : Nat) (ds : List Char) (hn : 0 < n) :
          tokensFrom q pos (c :: (cs ++ rest)) ≠ tokensFrom q (pos + n) ds := by
        intro he
        rw [h] at he
        have hpos := tokensFrom_starts q (pos + n) ds _ (he ▸ List.mem_cons_self)
        simp only at hpos
        omega
      cases hblank : isBlank c with
      | true => exact absurd (tokensFrom_blank q pos hblank _) (hskips _ _ (Char.utf8Size_pos c))
      | false =>
      cases hcomment : comment? c (cs ++ rest) with
      | some n =>
        have hbytes : 0 < byteLength (c :: (cs ++ rest).take n) := by
          have hc := Char.utf8Size_pos c
          rw [byteLength_cons]
          omega
        exact absurd (tokensFrom_comment q pos hblank hcomment) (hskips _ _ hbytes)
      | none =>
        rw [tokensFrom_token q pos hblank hcomment] at h
        injection h with htoken _
        injection htoken with hkind hspan
        injection hspan with _ hstop
        obtain ⟨hstart, hhex⟩ := isNameStart_of_word hkind
        -- the word goes as far as the name does
        rw [scan_word q hstart hhex, scanWord_eq, byteLength_cons, byteLength_cons] at hstop
        have htake : (cs ++ rest).take (countWhile isNameChar (cs ++ rest)) =
            (cs ++ rest).take cs.length := by
          refine byteLength_take_inj ?_
          rw [List.take_left]
          exact Nat.add_left_cancel (Nat.add_left_cancel hstop)
        rw [take_countWhile, List.take_left] at htake
        have hcs : cs.all isNameChar = true := by
          rw [← htake]
          exact List.all_takeWhile
        exact Bool.and_eq_true_iff.mpr ⟨hstart, hcs⟩
    · intro h
      obtain ⟨hstart, hcs⟩ := Bool.and_eq_true_iff.mp h
      have hscan : scan q c (cs ++ rest) = (wordKind name, cs.length) := by
        rw [scan_word q hstart (startsHex_word hcs hrest), scanWord_eq, takeWhile_word hcs hrest,
          ← hname, String.ofList_toList, countWhile, takeWhile_word hcs hrest]
      rw [tokensFrom_token q pos (isNameStart_not_blank hstart) (comment?_of_isNameStart hstart _),
        hscan, List.take_left, List.drop_left]

end SqlWeave.Token
