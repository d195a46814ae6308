import SqlWeave.Proofs.Token.Scan

/-! The tokens of a text that is put together from two. They are those of the first text and then
those of the second, if the second starts with a character that ends every token, and the first does
not stop inside a comment or a quoted token that would take in the second. -/

namespace SqlWeave.Token

open Text (isBlank)

/-! ## The tokens of a text, one step at a time -/

theorem byteLength_cons (c : Char) (cs : List Char) :
    byteLength (c :: cs) = c.utf8Size + byteLength cs := rfl

theorem byteLength_append (cs ds : List Char) :
    byteLength (cs ++ ds) = byteLength cs + byteLength ds := by
  induction cs with
  | nil => rw [List.nil_append, byteLength, Nat.zero_add]
  | cons c cs ih => rw [List.cons_append, byteLength_cons, byteLength_cons, ih, Nat.add_assoc]

theorem tokensFrom_end {q : Quoting} {pos : Nat} {cs : List Char}
    (h : cs.drop (triviaLength cs) = []) :
    tokensFrom q pos cs =
      [⟨.eof, ⟨pos + byteLength (cs.take (triviaLength cs)),
        pos + byteLength (cs.take (triviaLength cs))⟩⟩] := by
  rw [tokensFrom]
  split
  · rfl
  · rename_i hc
    rw [h] at hc
    cases hc

theorem tokensFrom_start {q : Quoting} {pos : Nat} {cs rest : List Char} {c : Char}
    (h : cs.drop (triviaLength cs) = c :: rest) :
    tokensFrom q pos cs =
      let start := pos + byteLength (cs.take (triviaLength cs))
      let stop := start + byteLength (c :: rest.take (scan q c rest).2)
      ⟨(scan q c rest).1, ⟨start, stop⟩⟩ :: tokensFrom q stop (rest.drop (scan q c rest).2) := by
  rw [tokensFrom]
  split
  · rename_i hc
    rw [h] at hc
    cases hc
  · rename_i c' rest' hc
    rw [h] at hc
    cases hc
    rfl

/-- What is skipped before the first token may be skipped in two goes. -/
theorem tokensFrom_skip (q : Quoting) (pos n : Nat) (cs : List Char)
    (h : triviaLength cs = n + triviaLength (cs.drop n)) :
    tokensFrom q pos cs = tokensFrom q (pos + byteLength (cs.take n)) (cs.drop n) := by
  have hdrop : cs.drop (triviaLength cs) = (cs.drop n).drop (triviaLength (cs.drop n)) := by
    rw [h, List.drop_drop]
  have hbytes : byteLength (cs.take (triviaLength cs)) =
      byteLength (cs.take n) + byteLength ((cs.drop n).take (triviaLength (cs.drop n))) := by
    rw [h, List.take_add, byteLength_append]
  cases hrest : cs.drop (triviaLength cs) with
  | nil =>
    rw [tokensFrom_end hrest, tokensFrom_end (hdrop ▸ hrest), hbytes, Nat.add_assoc]
  | cons c rest =>
    rw [tokensFrom_start hrest, tokensFrom_start (hdrop ▸ hrest), hbytes, Nat.add_assoc]

theorem triviaLength_blank {c : Char} (hc : isBlank c = true) (cs : List Char) :
    triviaLength (c :: cs) = triviaLength cs + 1 := by
  rw [triviaLength, if_pos hc]

theorem triviaLength_comment {c : Char} {cs : List Char} {n : Nat} (hc : isBlank c = false)
    (hn : comment? c cs = some n) : triviaLength (c :: cs) = triviaLength (cs.drop n) + n + 1 := by
  rw [triviaLength, if_neg (by simp [hc]), hn]

theorem triviaLength_token {c : Char} {cs : List Char} (hc : isBlank c = false)
    (hn : comment? c cs = none) : triviaLength (c :: cs) = 0 := by
  rw [triviaLength, if_neg (by simp [hc]), hn]

theorem tokensFrom_nil (q : Quoting) (pos : Nat) : tokensFrom q pos [] = [⟨.eof, ⟨pos, pos⟩⟩] := by
  rw [tokensFrom_end (by simp)]
  simp [byteLength]

theorem tokensFrom_ne_nil (q : Quoting) (pos : Nat) (cs : List Char) :
    tokensFrom q pos cs ≠ [] := by
  cases hrest : cs.drop (triviaLength cs) with
  | nil => simp [tokensFrom_end hrest]
  | cons c rest => simp [tokensFrom_start hrest]

theorem tokensFrom_blank (q : Quoting) (pos : Nat) {c : Char} (hc : isBlank c = true)
    (cs : List Char) :
    tokensFrom q pos (c :: cs) = tokensFrom q (pos + c.utf8Size) cs := by
  rw [tokensFrom_skip q pos 1 (c :: cs) (by rw [triviaLength_blank hc, Nat.add_comm]; rfl)]
  simp [byteLength]

theorem tokensFrom_comment (q : Quoting) (pos : Nat) {c : Char} {cs : List Char} {n : Nat}
    (hc : isBlank c = false) (hn : comment? c cs = some n) :
    tokensFrom q pos (c :: cs) = tokensFrom q (pos + byteLength (c :: cs.take n)) (cs.drop n) := by
  rw [tokensFrom_skip q pos (n + 1) (c :: cs) ?_]
  · rfl
  · rw [triviaLength_comment hc hn, List.drop_succ_cons]
    omega

theorem tokensFrom_token (q : Quoting) (pos : Nat) {c : Char} {cs : List Char}
    (hc : isBlank c = false) (hn : comment? c cs = none) :
    tokensFrom q pos (c :: cs) =
      ⟨(scan q c cs).1, ⟨pos, pos + byteLength (c :: cs.take (scan q c cs).2)⟩⟩ ::
        tokensFrom q (pos + byteLength (c :: cs.take (scan q c cs).2))
          (cs.drop (scan q c cs).2) := by
  have hzero := triviaLength_token hc hn
  have hdrop : (c :: cs).drop (triviaLength (c :: cs)) = c :: cs := by
    rw [hzero]
    rfl
  rw [tokensFrom_start hdrop, hzero]
  rfl

/-- A text is empty, or starts with a blank, a comment or a token. -/
@[elab_as_elim]
theorem text_induction (q : Quoting) {motive : List Char → Prop} (nil : motive [])
    (blank : ∀ c cs, isBlank c = true → motive cs → motive (c :: cs))
    (comment : ∀ c cs n, isBlank c = false → comment? c cs = some n → motive (cs.drop n) →
      motive (c :: cs))
    (token : ∀ c cs, isBlank c = false → comment? c cs = none →
      motive (cs.drop (scan q c cs).2) → motive (c :: cs)) (cs : List Char) : motive cs := by
  induction hlen : cs.length using Nat.strongRecOn generalizing cs with
  | _ k ih =>
    cases cs with
    | nil => exact nil
    | cons c cs =>
      have ih' (n : Nat) : motive (cs.drop n) :=
        ih (cs.drop n).length (by rw [← hlen, List.length_drop, List.length_cons]; omega)
          (cs.drop n) rfl
      cases hc : isBlank c with
      | true => exact blank c cs hc (ih' 0)
      | false =>
        cases hn : comment? c cs with
        | some n => exact comment c cs n hc hn (ih' n)
        | none => exact token c cs hc hn (ih' _)

/-! ## Where a text stops -/

/-- Between tokens, or inside a comment or a token that has not ended. -/
inductive Ending where
  | plain
  | lineComment
  | blockComment
  | openToken
deriving DecidableEq

/-- Whether a `b` that comes next belongs to nothing that was begun before. -/
def Ending.isClosedBefore (b : Char) : Ending → Bool
  | .plain => true
  | .lineComment => b == '\n'
  | .blockComment | .openToken => false

def closesBlock : List Char → Bool
  | '*' :: '/' :: _ => true
  | _ :: cs => closesBlock cs
  | [] => false

/-- Where the comment that starts with `c` leaves the text. -/
def commentEnding (c : Char) (cs : List Char) : Ending :=
  if c == '#' || (c == '-' && cs.head? == some '-') then
    if cs.contains '\n' then .plain else .lineComment
  else if closesBlock (cs.drop 1) then .plain else .blockComment

def ending (q : Quoting) : List Char → Ending
  | [] => .plain
  | c :: cs =>
    if isBlank c then ending q cs
    else
      match comment? c cs with
      | some n => if commentEnding c cs = .plain then ending q (cs.drop n) else commentEnding c cs
      | none => if isOpen (scan q c cs).1 then .openToken else ending q (cs.drop (scan q c cs).2)
termination_by cs => cs.length
decreasing_by all_goals simp; try omega

theorem blockCommentLength_le (cs : List Char) : blockCommentLength cs ≤ cs.length := by
  fun_induction blockCommentLength cs with
  | case1 => simp
  | case2 => simp only [List.length_cons]; omega
  | case3 => simp

theorem blockCommentLength_append (cs ds : List Char) (h : closesBlock cs = true) :
    blockCommentLength (cs ++ ds) = blockCommentLength cs := by
  fun_induction closesBlock cs with
  | case1 => simp [blockCommentLength]
  | case2 c cs hne ih =>
    have hne' : ∀ tail, c = '*' → cs ++ ds = '/' :: tail → False := by
      intro tail hc htail
      cases cs with
      | nil => cases h
      | cons d cs =>
        injection htail with hd _
        exact hne cs hc (by rw [hd])
    rw [List.cons_append, blockCommentLength.eq_2 c (cs ++ ds) hne',
      blockCommentLength.eq_2 c cs hne, ih h]
  | case3 => cases h

theorem countWhile_append_mem {p : Char → Bool} {cs : List Char} (ds : List Char) {c : Char}
    (hc : c ∈ cs) (hp : p c = false) : countWhile p (cs ++ ds) = countWhile p cs := by
  induction cs with
  | nil => cases hc
  | cons d cs ih =>
    unfold countWhile at *
    by_cases hd : p d
    · have hcs : c ∈ cs := by
        rcases List.mem_cons.mp hc with rfl | hcs
        · rw [hp] at hd
          cases hd
        · exact hcs
      simp [hd, ih hcs]
    · simp [hd]

theorem countWhile_all {p : Char → Bool} {cs : List Char} (h : ∀ c ∈ cs, p c = true) :
    countWhile p cs = cs.length := by
  induction cs with
  | nil => rfl
  | cons c cs ih =>
    unfold countWhile at *
    rw [List.takeWhile_cons_of_pos (h c (by simp)), List.length_cons,
      ih fun d hd => h d (List.mem_cons_of_mem c hd), List.length_cons]

theorem comment?_le {c : Char} {cs : List Char} {n : Nat} (h : comment? c cs = some n) :
    n ≤ cs.length := by
  unfold comment? at h
  split at h
  · cases h
    exact countWhile_le _ cs
  · split at h
    · rename_i hblock
      cases h
      have := blockCommentLength_le (cs.drop 1)
      simp only [List.length_drop] at this
      have := head?_le (Bool.and_eq_true _ _ ▸ hblock).2
      omega
    · cases h

section Boundary

variable {b : Char} (hb : stopsToken b = true) {r : List Char}
include hb

theorem comment?_append_none {c : Char} {cs : List Char} (h : comment? c cs = none) :
    comment? c (cs ++ b :: r) = none := by
  unfold comment? at h ⊢
  rw [head?_append (boundary_ne hb (by decide)), head?_append (boundary_ne hb (by decide))]
  split at h
  · cases h
  · split at h
    · cases h
    · rw [if_neg ‹_›, if_neg ‹_›]

theorem comment?_append_plain {c : Char} {cs : List Char} {n : Nat} (h : comment? c cs = some n)
    (hp : commentEnding c cs = .plain) : comment? c (cs ++ b :: r) = some n := by
  unfold comment? at h ⊢
  unfold commentEnding at hp
  rw [head?_append (boundary_ne hb (by decide)), head?_append (boundary_ne hb (by decide))]
  split at h
  · rw [if_pos ‹_›] at hp ⊢
    split at hp
    · rename_i hline
      rw [countWhile_append_mem _ (List.contains_iff_mem.mp hline) rfl]
      exact h
    · cases hp
  · rw [if_neg ‹_›] at hp ⊢
    split at h
    · rename_i hblock
      rw [if_pos ‹_›]
      split at hp
      · have hlen := head?_le (Bool.and_eq_true _ _ ▸ hblock).2
        rw [List.drop_append_of_le_length hlen, blockCommentLength_append _ _ ‹_›]
        exact h
      · cases hp
    · cases h

end Boundary

theorem comment?_append_line {c : Char} {cs r : List Char} {n : Nat} (h : comment? c cs = some n)
    (hl : commentEnding c cs = .lineComment) :
    n = cs.length ∧ comment? c (cs ++ '\n' :: r) = some n := by
  unfold comment? at h ⊢
  unfold commentEnding at hl
  rw [head?_append (by decide), head?_append (by decide)]
  split at h
  · rw [if_pos ‹_›] at hl ⊢
    split at hl
    · cases hl
    · rename_i hline
      have hall : ∀ d ∈ cs, (d != '\n') = true := by
        intro d hd
        simp only [bne_iff_ne, ne_eq]
        rintro rfl
        exact hline (List.contains_iff_mem.mpr hd)
      cases h
      rw [countWhile_append rfl]
      exact ⟨countWhile_all hall, rfl⟩
  · rw [if_neg ‹_›] at hl
    split at hl <;> cases hl

/-! ## Texts one after the other -/

theorem getLast?_drop_ne {α : Type} {x c : α} {cs : List α} (h : (c :: cs).getLast? ≠ some x)
    (n : Nat) :
    (cs.drop n).getLast? ≠ some x := by
  rw [List.getLast?_drop]
  split
  · exact Option.some_ne_none _ |>.symm
  · rename_i hlen
    cases cs with
    | nil => simp at hlen
    | cons d ds => rwa [List.getLast?_cons_cons] at h

/-- Before a bracket or a colon, too, if that is no part of what comes before it. -/
theorem tokensFrom_append_stop (q : Quoting) {b : Char} (hb : stopsToken b = true)
    (hclosing : q.bracketNames = true → b ≠ ']') (r : List Char) (pos : Nat) (cs : List Char)
    (hcolon : cs.getLast? ≠ some ':' ∨ b ≠ ':') (he : (ending q cs).isClosedBefore b = true) :
    tokensFrom q pos (cs ++ b :: r) =
      (tokensFrom q pos cs).dropLast ++ tokensFrom q (pos + byteLength cs) (b :: r) := by
  induction cs using text_induction q generalizing pos with
  | nil =>
    rw [tokensFrom_nil]
    rfl
  | blank c cs hc ih =>
    rw [ending, if_pos hc] at he
    have hcolon' := hcolon.imp_left fun h => getLast?_drop_ne h 0
    rw [List.cons_append, tokensFrom_blank q pos hc, tokensFrom_blank q pos hc, ih _ hcolon' he,
      byteLength_cons, Nat.add_assoc]
  | comment c cs n hc hn ih =>
    rw [ending, if_neg (by simp [hc]), hn] at he
    rw [tokensFrom_comment q pos hc hn, List.cons_append]
    have hcolon' := hcolon.imp_left fun h => getLast?_drop_ne h n
    cases hend : commentEnding c cs with
    | plain =>
      have hlen := comment?_le hn
      simp only [hend, ↓reduceIte] at he
      rw [tokensFrom_comment q pos hc (comment?_append_plain hb hn hend),
        List.take_append_of_le_length hlen, List.drop_append_of_le_length hlen, ih _ hcolon' he,
        Nat.add_assoc, byteLength_cons, byteLength_cons, Nat.add_assoc, ← byteLength_append,
        List.take_append_drop]
    | blockComment | openToken =>
      simp [hend, Ending.isClosedBefore] at he
    | lineComment =>
      obtain rfl : b = '\n' := by simpa [hend, Ending.isClosedBefore] using he
      obtain ⟨rfl, hn'⟩ := comment?_append_line (r := r) hn hend
      rw [List.drop_length, tokensFrom_nil, tokensFrom_comment q pos hc hn', List.take_left,
        List.drop_left, List.take_length]
      rfl
  | token c cs hc hn ih =>
    rw [ending, if_neg (by simp [hc]), hn] at he
    have hcolon' := hcolon.imp_left fun h => getLast?_drop_ne h (scan q c cs).2
    cases hopen : isOpen (scan q c cs).1 with
    | true => simp [hopen, Ending.isClosedBefore] at he
    | false =>
    have hstart : c = ':' → cs = [] → b ≠ ':' := by
      rintro rfl rfl
      exact hcolon.resolve_left (by simp)
    have hscan : scan q c (cs ++ b :: r) = scan q c cs :=
      scan_append_stop hb q c cs hopen hclosing hstart
    have hlen := scan_le q c cs
    simp only [hopen, Bool.false_eq_true, ↓reduceIte] at he
    rw [tokensFrom_token q pos hc hn, List.cons_append,
      tokensFrom_token q pos hc (comment?_append_none hb hn), hscan,
      List.take_append_of_le_length hlen, List.drop_append_of_le_length hlen, ih _ hcolon' he,
      List.dropLast_cons_of_ne_nil (tokensFrom_ne_nil q _ _), List.cons_append, Nat.add_assoc,
      byteLength_cons, byteLength_cons, Nat.add_assoc, ← byteLength_append, List.take_append_drop]

theorem tokensFrom_append (q : Quoting) {b : Char} (hb : endsToken b = true) (r : List Char)
    (pos : Nat) (cs : List Char) (he : (ending q cs).isClosedBefore b = true) :
    tokensFrom q pos (cs ++ b :: r) =
      (tokensFrom q pos cs).dropLast ++ tokensFrom q (pos + byteLength cs) (b :: r) :=
  tokensFrom_append_stop q (stopsToken_of_endsToken hb) (fun _ => endsToken_ne hb (by decide))
    r pos cs
    (.inr (endsToken_ne hb (by decide))) he

/-- A token of one character. -/
theorem tokensFrom_symbol (q : Quoting) (pos : Nat) {c : Char} {r : List Char} {mark : Symbol}
    (hc : isBlank c = false) (hn : comment? c r = none) (hscan : scan q c r = (.symbol mark, 0)) :
    tokensFrom q pos (c :: r) =
      ⟨.symbol mark, ⟨pos, pos + c.utf8Size⟩⟩ :: tokensFrom q (pos + c.utf8Size) r := by
  rw [tokensFrom_token q pos hc hn, hscan]
  rfl

/-- A keyword with a blank after it. -/
theorem tokensFrom_word (q : Quoting) (pos : Nat) {c : Char} {cs : List Char} {word : Keyword}
    (hc : isBlank c = false) (hn : comment? c cs = none)
    (hscan : scan q c cs = (.keyword word, cs.length)) (r : List Char) :
    tokensFrom q pos (c :: cs ++ ' ' :: r) =
      ⟨.keyword word, ⟨pos, pos + byteLength (c :: cs)⟩⟩ ::
        tokensFrom q (pos + byteLength (c :: cs) + 1) r := by
  have hboundary : endsToken ' ' = true := rfl
  have happ : scan q c (cs ++ ' ' :: r) = (.keyword word, cs.length) := by
    rw [scan_append hboundary q c cs (by rw [hscan]; rfl), hscan]
  rw [List.cons_append, tokensFrom_token q pos hc
    (comment?_append_none (stopsToken_of_endsToken hboundary) hn), happ]
  simp only [List.take_left, List.drop_left]
  rw [tokensFrom_blank q _ (by decide)]
  rfl

/-! ## Positions -/

/-- The same token so many bytes further on. -/
def shift (n : Nat) (t : Token) : Token := ⟨t.kind, ⟨t.span.start + n, t.span.stop + n⟩⟩

theorem map_shift_zero (ts : List Token) : ts.map (shift 0) = ts := List.map_id ts

theorem tokensFrom_shift (q : Quoting) (n pos : Nat) (cs : List Char) :
    tokensFrom q (pos + n) cs = (tokensFrom q pos cs).map (shift n) := by
  induction cs using text_induction q generalizing pos with
  | nil =>
    rw [tokensFrom_nil, tokensFrom_nil]
    rfl
  | blank c cs hc ih =>
    rw [tokensFrom_blank q _ hc, tokensFrom_blank q _ hc, Nat.add_right_comm, ih]
  | comment c cs m hc hm ih =>
    rw [tokensFrom_comment q _ hc hm, tokensFrom_comment q _ hc hm, Nat.add_right_comm, ih]
  | token c cs hc hm ih =>
    rw [tokensFrom_token q _ hc hm, tokensFrom_token q _ hc hm, Nat.add_right_comm, ih]
    rfl

/-- The end of input comes last and only last, and no token goes past the end of the text. -/
theorem tokensFrom_split (q : Quoting) (pos : Nat) (cs : List Char) :
    ∃ ts, tokensFrom q pos cs = ts ++ [⟨.eof, ⟨pos + byteLength cs, pos + byteLength cs⟩⟩] ∧
      ∀ t ∈ ts, t.kind ≠ .eof ∧ t.span.stop ≤ pos + byteLength cs := by
  induction cs using text_induction q generalizing pos with
  | nil => exact ⟨[], tokensFrom_nil q pos, fun t ht => absurd ht List.not_mem_nil⟩
  | blank c cs hc ih =>
    obtain ⟨ts, hts, hin⟩ := ih (pos + c.utf8Size)
    rw [Nat.add_assoc, ← byteLength_cons] at hts hin
    exact ⟨ts, by rw [tokensFrom_blank q pos hc, hts], hin⟩
  | comment c cs n hc hn ih =>
    have hbytes : byteLength (c :: cs.take n) + byteLength (cs.drop n) = byteLength (c :: cs) := by
      rw [← byteLength_append, List.cons_append, List.take_append_drop]
    obtain ⟨ts, hts, hin⟩ := ih (pos + byteLength (c :: cs.take n))
    rw [Nat.add_assoc, hbytes] at hts hin
    exact ⟨ts, by rw [tokensFrom_comment q pos hc hn, hts], hin⟩
  | token c cs hc hn ih =>
    have hbytes : byteLength (c :: cs.take (scan q c cs).2) + byteLength (cs.drop (scan q c cs).2) =
        byteLength (c :: cs) := by
      rw [← byteLength_append, List.cons_append, List.take_append_drop]
    obtain ⟨ts, hts, hin⟩ := ih (pos + byteLength (c :: cs.take (scan q c cs).2))
    rw [Nat.add_assoc, hbytes] at hts hin
    refine ⟨_ :: ts, by rw [tokensFrom_token q pos hc hn, hts, List.cons_append], ?_⟩
    intro t ht
    rcases List.mem_cons.mp ht with rfl | ht
    · exact ⟨scan_ne_eof q c cs, by simp only; omega⟩
    · exact hin t ht

theorem slice_go_stop (span : Span) {pos : Nat} (h : span.stop ≤ pos) (cs : List Char) :
    slice.go span pos cs = [] := by
  cases cs with
  | nil => rfl
  | cons c cs => rw [slice.go, if_pos h]

theorem slice_go_shift (start stop n pos : Nat) (cs : List Char) :
    slice.go ⟨start + n, stop + n⟩ (pos + n) cs = slice.go ⟨start, stop⟩ pos cs := by
  induction cs generalizing pos with
  | nil => rfl
  | cons c cs ih => simp only [slice.go, Nat.add_le_add_iff_right, Nat.add_right_comm pos n, ih]

/-- Text before the span does not count. -/
theorem slice_go_before (span : Span) (pos : Nat) (cs ds : List Char)
    (h : pos + byteLength cs ≤ span.start) :
    slice.go span pos (cs ++ ds) = slice.go span (pos + byteLength cs) ds := by
  induction cs generalizing pos with
  | nil => rfl
  | cons c cs ih =>
    have hc := Char.utf8Size_pos c
    rw [byteLength_cons] at h ⊢
    rw [List.cons_append, slice.go]
    split
    · rw [slice_go_stop span (by omega)]
    · rw [if_neg (by omega), ih _ (by omega), Nat.add_assoc]

/-- Nor does text after it. -/
theorem slice_go_after (span : Span) (pos : Nat) (cs ds : List Char)
    (h : span.stop ≤ pos + byteLength cs) :
    slice.go span pos (cs ++ ds) = slice.go span pos cs := by
  induction cs generalizing pos with
  | nil =>
    have hstop : span.stop ≤ pos := h
    rw [slice_go_stop span hstop, slice_go_stop span hstop]
  | cons c cs ih =>
    rw [byteLength_cons, ← Nat.add_assoc] at h
    simp only [List.cons_append, slice.go, ih _ h]

theorem slice_inside (before text after : List Char) (start stop : Nat)
    (h : stop ≤ byteLength text) :
    slice (String.ofList (before ++ text ++ after))
        ⟨start + byteLength before, stop + byteLength before⟩ =
      slice (String.ofList text) ⟨start, stop⟩ := by
  unfold slice
  simp only [String.toList_ofList, List.append_assoc]
  rw [slice_go_before _ 0 before _ (by simp only; omega), slice_go_shift start stop _ 0,
    slice_go_after _ 0 text after (by simp only; omega)]

end SqlWeave.Token
