import SqlWeave.Proofs.Token.Pieces

/-! How a text is made up of its tokens. Each token covers at least one whole character, and its
payload is spelled by what it covers. Between the tokens there are blanks and comments and nothing
else. -/

namespace SqlWeave

/-- What a payload says about the text that its token covers. -/
def TokenKind.Spells : TokenKind → String → Prop
  | .identifier name, text | .number name, text | .variable name, text => text = name
  | .parameter name, text => text = ":" ++ name
  | .keyword word, text => Text.sameAscii text word.spelling = true
  | _, _ => True

namespace Token

open Text (isBlank sameAscii)

/-! ## What a token covers -/

theorem toLower_toUpper (c : Char) : c.toUpper.toLower = c.toLower := by
  by_cases h : 'a'.val ≤ c.val ∧ c.val ≤ 'z'.val
  · have hall : ∀ n < 123, 97 ≤ n →
        (Char.ofNat n).toUpper.toLower = (Char.ofNat n).toLower := by decide
    have hlow : 97 ≤ c.toNat := h.1
    have hhigh : c.toNat ≤ 122 := h.2
    have hc := hall c.toNat (by omega) hlow
    rwa [Char.ofNat_toNat] at hc
  · have hsame : c.toUpper = c := dif_neg h
    rw [hsame]

theorem sameAscii_of_lookup? {text : String} {word : Keyword}
    (h : Keyword.lookup? text = some word) :
    sameAscii text word.spelling = true := by
  have hspelling : word.spelling = Text.asciiUpper text := by simpa using List.find?_some h
  rw [sameAscii, hspelling, Text.asciiUpper, String.toList_ofList, List.map_map, beq_iff_eq]
  exact List.map_congr_left fun c _ => (toLower_toUpper c).symm

theorem wordKind_spells (text : String) : (wordKind text).Spells text := by
  unfold wordKind
  split
  · exact sameAscii_of_lookup? ‹_›
  · rfl

theorem scanColon_spells (cs : List Char) :
    (scanColon cs).1.Spells (String.ofList (':' :: cs.take (scanColon cs).2)) := by
  cases cs with
  | nil => trivial
  | cons d ds =>
    by_cases hcolon : d = ':'
    · simp only [scanColon, if_pos hcolon, TokenKind.Spells]
    · by_cases hname : isNameStart d = true
      · simp only [scanColon, if_neg hcolon, if_pos hname]
        exact String.ofList_cons
      · simp only [scanColon, if_neg hcolon, if_neg hname, TokenKind.Spells]

/-- The token that starts with `c` is spelled by the characters it takes. -/
theorem scan_spells (q : Quoting) (c : Char) (cs : List Char) :
    (scan q c cs).1.Spells (String.ofList (c :: cs.take (scan q c cs).2)) := by
  refine scan_elim (P := fun x => x.1.Spells (String.ofList (c :: cs.take x.2))) q c cs
    (fun _ _ _ => trivial)
    (fun _ _ _ _ _ => trivial) (@fun _ kind _ h => ?delimited) (fun _ => rfl) (fun hc => hc ▸ rfl)
      (fun hc => hc ▸ scanColon_spells cs)
    (fun _ => scanHex_fst (P := fun k => k.Spells _) (fun _ => trivial) (fun _ => trivial) cs)
      (fun _ _ => ?word)
    trivial
  case delimited =>
    have hkind (value text : String) : TokenKind.Spells (kind value) text := by cases h <;> trivial
    exact scanDelimited_fst (P := fun k => k.Spells _) (hkind · _) trivial cs
  case word =>
    rw [scanWord_eq, take_countWhile]
    dsimp only
    exact wordKind_spells _

/-! ## Between the tokens -/

/-- Blanks and comments. A comment up to the end of its line is ended by a line break, and a comment
between marks by the first `*/` in it; where `atEnd` says that nothing comes after, also by the
end. -/
inductive Trivia (atEnd : Prop) : List Char → Prop
  | nil : Trivia atEnd []
  | blank {c : Char} {cs : List Char} (hc : isBlank c = true) (hcs : Trivia atEnd cs) :
      Trivia atEnd (c :: cs)
  | line {opening body cs : List Char} (hopening : opening = ['#'] ∨ opening = ['-', '-'])
      (hbody : '\n' ∉ body) (hcs : Trivia atEnd ('\n' :: cs)) :
      Trivia atEnd (opening ++ body ++ '\n' :: cs)
  | lastLine {opening body : List Char} (hopening : opening = ['#'] ∨ opening = ['-', '-'])
      (hbody : '\n' ∉ body) (hend : atEnd) : Trivia atEnd (opening ++ body)
  | block {body cs : List Char} (hbody : ¬ ['*', '/'] <:+: body) (hcs : Trivia atEnd cs) :
      Trivia atEnd ('/' :: '*' :: body ++ '*' :: '/' :: cs)
  | lastBlock {body : List Char} (hbody : ¬ ['*', '/'] <:+: body) (hend : atEnd) :
      Trivia atEnd ('/' :: '*' :: body)

/-- A comment between marks goes to the first `*/`. -/
theorem blockCommentLength_split (cs : List Char) :
    (∃ body rest, cs = body ++ '*' :: '/' :: rest ∧ ¬ ['*', '/'] <:+: body ∧
      blockCommentLength cs = body.length + 2) ∨
    ¬ ['*', '/'] <:+: cs ∧ blockCommentLength cs = cs.length := by
  fun_induction blockCommentLength cs with
  | case1 rest => exact .inl ⟨[], rest, rfl, by simp, rfl⟩
  | case2 c cs hne ih =>
    have hprefix (ds : List Char) (hds : ds <+: cs) : ¬ ['*', '/'] <+: c :: ds := by
      rintro ⟨rest, hrest⟩
      obtain ⟨more, rfl⟩ := hds
      injection hrest with hc hrest
      exact hne (rest ++ more) hc.symm (by rw [← hrest]; rfl)
    rcases ih with ⟨body, rest, rfl, hbody, hlength⟩ | ⟨hcs, hlength⟩
    · refine .inl ⟨c :: body, rest, rfl, fun hinfix => ?_, by rw [hlength, List.length_cons]⟩
      rcases List.infix_cons_iff.mp hinfix with h | h
      · exact hprefix body (List.prefix_append _ _) h
      · exact hbody h
    · refine .inr ⟨fun hinfix => ?_, by rw [hlength, List.length_cons]⟩
      rcases List.infix_cons_iff.mp hinfix with h | h
      · exact hprefix cs (List.prefix_refl _) h
      · exact hcs h
  | case3 => exact .inr ⟨by simp, rfl⟩

/-- What a comment is made of. -/
theorem comment?_cases {c : Char} {cs : List Char} {n : Nat} (h : comment? c cs = some n) :
    (∃ opening body, (opening = ['#'] ∨ opening = ['-', '-']) ∧ '\n' ∉ body ∧
      c :: cs.take n = opening ++ body ∧
      ∀ d rest, cs.drop n = d :: rest → d = '\n') ∨
    (∃ body, ¬ ['*', '/'] <:+: body ∧ (c :: cs.take n = '/' :: '*' :: body ++ ['*', '/'] ∨
      c :: cs.take n = '/' :: '*' :: body ∧ cs.drop n = [])) := by
  have hline (ds : List Char) : '\n' ∉ ds.takeWhile (· != '\n') := fun hmem => by
    simpa using List.all_eq_true.mp List.all_takeWhile _ hmem
  unfold comment? at h
  split at h
  · rename_i hopening
    cases h
    have hdrop : ∀ d rest, cs.drop (countWhile (· != '\n') cs) = d :: rest → d = '\n' := by
      intro d rest hrest
      rw [drop_countWhile] at hrest
      have hhead := List.head_dropWhile_not (· != '\n') (l := cs)
        (by rw [hrest]; exact List.cons_ne_nil _ _)
      simpa [hrest] using hhead
    rw [take_countWhile]
    rcases Bool.or_eq_true_iff.mp hopening with hhash | hdash
    · exact .inl ⟨['#'], _, .inl rfl, hline cs, by rw [beq_iff_eq.mp hhash]; rfl, hdrop⟩
    · obtain ⟨hc, ds, hds⟩ : c = '-' ∧ ∃ ds, cs = '-' :: ds := by
        simpa [List.head?_eq_some_iff] using hdash
      subst hc hds
      exact .inl ⟨['-', '-'], ds.takeWhile (· != '\n'), .inr rfl, hline ds, rfl, hdrop⟩
  · split at h
    · rename_i hblock
      obtain ⟨hc, ds, hds⟩ : c = '/' ∧ ∃ ds, cs = '*' :: ds := by
        simpa [List.head?_eq_some_iff] using hblock
      subst hc hds
      cases h
      rcases blockCommentLength_split ds with ⟨body, rest, hds, hbody, hlength⟩ | ⟨hbody, hlength⟩
      · refine .inr ⟨body, hbody, .inl ?_⟩
        rw [List.drop_one, List.tail_cons, hlength, List.take_succ_cons, hds]
        have hsplit : body ++ '*' :: '/' :: rest = body ++ ['*', '/'] ++ rest := by simp
        rw [hsplit, List.take_append_of_le_length (by simp), List.take_of_length_le (by simp)]
        rfl
      · refine .inr ⟨ds, hbody, .inr ⟨?_, ?_⟩⟩
        · rw [List.drop_one, List.tail_cons, hlength, List.take_succ_cons, List.take_length]
        · rw [List.drop_one, List.tail_cons, hlength, List.drop_succ_cons, List.drop_length]
    · cases h

/-- What is skipped before a token, or before the end. -/
theorem trivia_skipped (cs : List Char) :
    Trivia (cs.drop (triviaLength cs) = []) (cs.take (triviaLength cs)) := by
  induction cs using text_induction ⟨true, true⟩ with
  | nil =>
    rw [List.take_nil]
    exact .nil
  | blank c cs hc ih =>
    rw [triviaLength_blank hc]
    exact .blank hc ih
  | token c cs hc hn ih =>
    rw [triviaLength_token hc hn]
    exact .nil
  | comment c cs n hc hn ih =>
    have hdrop : (c :: cs).drop (triviaLength (cs.drop n) + n + 1) =
        (cs.drop n).drop (triviaLength (cs.drop n)) := by
      rw [List.drop_succ_cons, List.drop_drop, Nat.add_comm]
    have htake : (c :: cs).take (triviaLength (cs.drop n) + n + 1) =
        (c :: cs.take n) ++ (cs.drop n).take (triviaLength (cs.drop n)) := by
      rw [List.take_succ_cons, Nat.add_comm, List.take_add, List.cons_append]
    rw [triviaLength_comment hc hn, hdrop, htake]
    rcases comment?_cases hn with ⟨opening, body, hopening, hbody, hcomment, hnext⟩ | ⟨body, hbody,
      hclosed | hopen⟩
    · rw [hcomment]
      cases hrest : cs.drop n with
      | nil => simpa using Trivia.lastLine hopening hbody (by simp)
      | cons d rest =>
        obtain rfl := hnext d rest hrest
        rw [hrest, triviaLength_blank (by decide), List.take_succ_cons] at ih
        rw [triviaLength_blank (by decide), List.take_succ_cons]
        exact .line hopening hbody ih
    · rw [hclosed, List.append_assoc]
      exact .block hbody ih
    · rw [hopen.1, hopen.2, List.take_nil, List.append_nil]
      exact .lastBlock hbody List.drop_nil

/-! ## Tilings -/

/-- The tokens make up the text from byte `pos` on, with blanks and comments between them. -/
inductive Tiled : Nat → List Char → List Token → Prop
  | finish {pos : Nat} {gap : List Char} (hgap : Trivia True gap) :
      Tiled pos gap [⟨.eof, ⟨pos + byteLength gap, pos + byteLength gap⟩⟩]
  | token {pos : Nat} {gap covered rest : List Char} {kind : TokenKind} {ts : List Token}
      (hgap : Trivia False gap) (hcovered : covered ≠ []) (hkind : kind ≠ .eof)
      (hspells : kind.Spells (String.ofList covered))
      (hrest : Tiled (pos + byteLength gap + byteLength covered) rest ts) :
      Tiled pos (gap ++ covered ++ rest)
        (⟨kind, ⟨pos + byteLength gap, pos + byteLength gap + byteLength covered⟩⟩ :: ts)

theorem Trivia.mono {p q : Prop} {cs : List Char} (h : Trivia p cs) (hpq : p → q) :
    Trivia q cs := by
  induction h with
  | nil => exact .nil
  | blank hc _ ih => exact .blank hc ih
  | line hopening hbody _ ih => exact .line hopening hbody ih
  | lastLine hopening hbody hend => exact .lastLine hopening hbody (hpq hend)
  | block hbody _ ih => exact .block hbody ih
  | lastBlock hbody hend => exact .lastBlock hbody (hpq hend)

theorem tokensFrom_tiled (q : Quoting) (pos : Nat) (cs : List Char) :
    Tiled pos cs (tokensFrom q pos cs) := by
  induction hlen : cs.length using Nat.strongRecOn generalizing pos cs with
  | _ k ih =>
    have hgap := trivia_skipped cs
    cases hrest : cs.drop (triviaLength cs) with
    | nil =>
      have hwhole : cs.take (triviaLength cs) = cs :=
        List.take_of_length_le (List.drop_eq_nil_iff.mp hrest)
      rw [tokensFrom_end hrest]
      rw [hwhole] at hgap ⊢
      exact .finish (hgap.mono fun _ => trivial)
    | cons c rest =>
      have hsplit : cs = cs.take (triviaLength cs) ++ (c :: rest.take (scan q c rest).2) ++
          rest.drop (scan q c rest).2 := by
        rw [List.append_assoc, List.cons_append, List.take_append_drop, ← hrest,
          List.take_append_drop]
      have hshorter : (rest.drop (scan q c rest).2).length < k := by
        have hlength := congrArg List.length hrest
        simp only [List.length_drop, List.length_cons] at hlength ⊢
        omega
      have htail := ih _ hshorter (pos + byteLength (cs.take (triviaLength cs)) +
        byteLength (c :: rest.take (scan q c rest).2)) _ rfl
      have htiled : Tiled pos _ _ := .token (hgap.mono fun h => by rw [hrest] at h; cases h)
        (List.cons_ne_nil c _) (scan_ne_eof q c rest) (scan_spells q c rest) htail
      rw [← hsplit] at htiled
      rwa [tokensFrom_start hrest]

theorem byteLength_eq_utf8ByteSize (cs : List Char) :
    byteLength cs = (String.ofList cs).utf8ByteSize := by
  induction cs with
  | nil => rfl
  | cons c cs ih =>
    rw [byteLength_cons, ih, String.ofList_cons, String.utf8ByteSize_append,
      String.utf8ByteSize_singleton]

theorem isValid_byteLength (before after : List Char) :
    String.Pos.Raw.IsValid (String.ofList (before ++ after)) ⟨byteLength before⟩ := by
  refine String.Pos.Raw.isValid_iff_exists_append.mpr ⟨String.ofList before,
    String.ofList after, ?_, ?_⟩
  · exact String.ofList_append
  · rw [byteLength_eq_utf8ByteSize]
    rfl

theorem slice_middle (before covered after : List Char) :
    slice (String.ofList (before ++ covered ++ after))
      ⟨byteLength before, byteLength before + byteLength covered⟩ = String.ofList covered := by
  have h := slice_inside before covered after 0 (byteLength covered) (Nat.le_refl _)
  have hstart := slice_start covered []
  rw [List.append_nil] at hstart
  rwa [Nat.zero_add, Nat.add_comm, hstart] at h

/-- A token of a text: it covers at least one character, none of them in part, and is spelled by
them. -/
structure Fits (t : Token) (text : String) : Prop where
  kind_ne_eof : t.kind ≠ .eof
  start_lt_stop : t.span.start < t.span.stop
  stop_le_size : t.span.stop ≤ text.utf8ByteSize
  isValid_start : String.Pos.Raw.IsValid text ⟨t.span.start⟩
  isValid_stop : String.Pos.Raw.IsValid text ⟨t.span.stop⟩
  spells : t.kind.Spells (slice text t.span)

theorem fits_middle (before : List Char) {covered : List Char} (after : List Char)
    {kind : TokenKind} (hkind : kind ≠ .eof) (hcovered : covered ≠ [])
    (hspells : kind.Spells (String.ofList covered)) :
    Fits ⟨kind, ⟨byteLength before, byteLength before + byteLength covered⟩⟩
      (String.ofList (before ++ covered ++ after)) where
  kind_ne_eof := hkind
  start_lt_stop := by
    obtain ⟨c, cs, rfl⟩ := List.exists_cons_of_ne_nil hcovered
    have hc := Char.utf8Size_pos c
    simp only [byteLength_cons]
    omega
  stop_le_size := by
    rw [← byteLength_eq_utf8ByteSize, byteLength_append, byteLength_append]
    exact Nat.le_add_right _ _
  isValid_start := by
    rw [List.append_assoc]
    exact isValid_byteLength _ _
  isValid_stop := by
    rw [← byteLength_append]
    exact isValid_byteLength _ _
  spells := by rwa [slice_middle]

/-- Where the tokens end that were read so far, beginning at byte `pos`. -/
def stopAfter (pos : Nat) (ts : List Token) : Nat := (ts.getLast?.map (·.span.stop)).getD pos

theorem stopAfter_cons (pos : Nat) (t : Token) (ts : List Token) :
    stopAfter pos (t :: ts) = stopAfter t.span.stop ts := by
  cases ts with
  | nil => rfl
  | cons u us =>
    rw [stopAfter, stopAfter, List.getLast?_cons_cons]
    cases h : (u :: us).getLast? with
    | none => simp at h
    | some v => rfl

namespace Tiled

variable {pos : Nat} {cs : List Char} {ts : List Token}

/-- The end of input is the last of the tokens. -/
theorem ends (h : Tiled pos cs ts) :
    ∃ us, ts = us ++ [⟨.eof, ⟨pos + byteLength cs, pos + byteLength cs⟩⟩] ∧ ∀ t ∈ us, t ∈ ts ∧
      t.kind ≠ .eof := by
  induction h with
  | finish hgap => exact ⟨[], rfl, fun t ht => by cases ht⟩
  | token hgap hcovered hkind hspells hrest ih =>
    obtain ⟨us, rfl, hus⟩ := ih
    refine ⟨_ :: us, by simp [byteLength_append, Nat.add_assoc],
      List.forall_mem_cons.mpr ⟨⟨List.mem_cons_self, hkind⟩, ?_⟩⟩
    exact fun t ht => ⟨List.mem_cons_of_mem _ (hus t ht).1, (hus t ht).2⟩

theorem starts (h : Tiled pos cs ts) : ∀ t ∈ ts, pos ≤ t.span.start := by
  induction h with
  | finish hgap => simp
  | token hgap hcovered hkind hspells hrest ih =>
    refine List.forall_mem_cons.mpr ⟨Nat.le_add_right _ _, fun t ht => ?_⟩
    have := ih t ht
    omega

/-- No token starts before the ones before it end. -/
theorem pairwise (h : Tiled pos cs ts) : ts.Pairwise fun t u => t.span.stop ≤ u.span.start := by
  induction h with
  | finish hgap => exact List.pairwise_singleton _ _
  | token hgap hcovered hkind hspells hrest ih => exact .cons hrest.starts ih

theorem fits (h : Tiled pos cs ts) (before : List Char) (hpos : byteLength before = pos) :
    ∀ t ∈ ts, t.kind ≠ .eof → t.Fits (String.ofList (before ++ cs)) := by
  induction h generalizing before with
  | finish hgap => simp
  | @token pos gap covered rest kind ts hgap hcovered hkind hspells hrest ih =>
    subst hpos
    refine List.forall_mem_cons.mpr ⟨fun _ => ?_, ?_⟩
    · have hfits := fits_middle (before ++ gap) rest hkind hcovered hspells
      rwa [byteLength_append, List.append_assoc, List.append_assoc,
        ← List.append_assoc gap] at hfits
    · have hrest := ih (before ++ gap ++ covered) (by simp [byteLength_append, Nat.add_assoc])
      rwa [List.append_assoc, List.append_assoc, ← List.append_assoc gap] at hrest

/-- Between a token and the one before it there are blanks and comments. -/
theorem gaps (h : Tiled pos cs ts) (before : List Char) (hpos : byteLength before = pos)
    {us vs : List Token} {t : Token} (hts : ts = us ++ t :: vs) :
    Trivia (t.kind = .eof) (slice (String.ofList (before ++ cs)) ⟨stopAfter pos us,
      t.span.start⟩).toList := by
  induction h generalizing before us with
  | @finish pos gap hgap =>
    subst hpos
    cases us with
    | nil =>
      injection hts with ht _
      have hslice := slice_middle before gap []
      rw [List.append_nil] at hslice
      rw [← ht, stopAfter, List.getLast?_nil, Option.map_none, Option.getD_none, hslice,
        String.toList_ofList]
      exact hgap.mono fun _ => rfl
    | cons u us =>
      injection hts with _ hnil
      simp at hnil
  | @token pos gap covered rest kind ts hgap hcovered hkind hspells hrest ih =>
    subst hpos
    cases us with
    | nil =>
      injection hts with ht _
      have hslice := slice_middle before gap (covered ++ rest)
      rw [List.append_assoc, ← List.append_assoc gap] at hslice
      rw [← ht, stopAfter, List.getLast?_nil, Option.map_none, Option.getD_none, hslice,
        String.toList_ofList]
      exact hgap.mono False.elim
    | cons u us =>
      injection hts with hu hts
      have hgaps := ih (before ++ gap ++ covered) (by simp [byteLength_append, Nat.add_assoc]) hts
      rw [List.append_assoc, List.append_assoc, ← List.append_assoc gap] at hgaps
      rwa [stopAfter_cons, ← hu]

end Tiled

/-- The tokens of a text tile it. -/
theorem tokenize_tiles (d : Dialect) (text : String) :
    (∃ ts, tokenize d text = ts ++ [⟨.eof, ⟨text.utf8ByteSize, text.utf8ByteSize⟩⟩] ∧
      ∀ t ∈ ts, t.Fits text) ∧
      (tokenize d text).Pairwise (fun t u => t.span.stop ≤ u.span.start) ∧
      ∀ us t vs, tokenize d text = us ++ t :: vs →
        Trivia (t.kind = .eof) (slice text ⟨stopAfter 0 us, t.span.start⟩).toList := by
  have htiled : Tiled 0 text.toList (tokenize d text) := tokensFrom_tiled d.quoting 0 text.toList
  have hfits := htiled.fits [] rfl
  rw [List.nil_append, String.ofList_toList] at hfits
  refine ⟨?_, htiled.pairwise, fun us t vs hts => ?_⟩
  · obtain ⟨ts, hts, hinner⟩ := htiled.ends
    rw [Nat.zero_add, byteLength_eq_utf8ByteSize, String.ofList_toList] at hts
    exact ⟨ts, hts, fun t ht => hfits t (hinner t ht).1 (hinner t ht).2⟩
  · have hgap := htiled.gaps [] rfl hts
    rwa [List.nil_append, String.ofList_toList] at hgap

end Token

end SqlWeave
