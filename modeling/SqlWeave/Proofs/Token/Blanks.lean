import SqlWeave.Proofs.Token.Append

/-! Blanks around a text. They are no tokens. At the end of a text that stops inside a comment they
belong to the comment; at the end of one that stops inside a quoted token there is a fault with them
or without. -/

namespace SqlWeave.Token

open Text (isBlank)

theorem delimited_eq_none {closing : Char} {cs : List Char} (h : closing ∉ cs) :
    delimited closing cs = none := by
  induction cs with
  | nil => rfl
  | cons c cs ih =>
    have hc : c ≠ closing := fun hc => h (by rw [hc]; exact List.mem_cons_self)
    rw [delimited_other hc, ih fun hcs => h (List.mem_cons_of_mem c hcs)]
    rfl

/-- A delimiter that is missing is missing still when more text comes without it. -/
theorem delimited_append_none {closing : Char} {cs bs : List Char} (hbs : closing ∉ bs)
    (h : delimited closing cs = none) : delimited closing (cs ++ bs) = none := by
  induction cs using delimited.induct closing with
  | case1 => exact delimited_eq_none hbs
  | case2 ds ih =>
    simp only [delimited, ↓reduceIte, Option.map_eq_none_iff, List.cons_append] at h ⊢
    exact ih h
  | case3 d ds hd => simp [delimited, hd] at h
  | case4 => simp [delimited] at h
  | case5 c cs hne ih =>
    rw [delimited_other hne, Option.map_eq_none_iff] at h
    rw [List.cons_append, delimited_other hne, ih h]
    rfl

theorem blockCommentLength_open {cs : List Char} (h : closesBlock cs = false) :
    blockCommentLength cs = cs.length := by
  fun_induction closesBlock cs with
  | case1 => cases h
  | case2 c cs hne ih => rw [blockCommentLength.eq_2 c cs hne, ih h, List.length_cons]
  | case3 => rfl

theorem closesBlock_append {cs bs : List Char} (hbs : '/' ∉ bs) (h : closesBlock cs = false) :
    closesBlock (cs ++ bs) = false := by
  have hcons (c : Char) {ds : List Char} (hds : ∀ tail, c = '*' → ds = '/' :: tail → False) :
      closesBlock (c :: ds) = closesBlock ds := closesBlock.eq_2 c ds hds
  induction cs with
  | nil =>
    rw [List.nil_append]
    clear h
    induction bs with
    | nil => rfl
    | cons b bs ih =>
      rw [hcons b fun tail _ hbs' => hbs (by simp [hbs'])]
      exact ih fun hmem => hbs (List.mem_cons_of_mem b hmem)
  | cons c cs ih =>
    have hne : ∀ tail, c = '*' → cs = '/' :: tail → False := by
      rintro tail rfl rfl
      cases h
    rw [hcons c hne] at h
    rw [List.cons_append, hcons c, ih h]
    intro tail hc htail
    cases cs with
    | nil => exact hbs (by rw [← List.nil_append bs, htail]; exact List.mem_cons_self)
    | cons d cs =>
      injection htail with hd _
      exact hne cs hc (by rw [hd])

/-- Without a second quote there is no hexadecimal number. -/
theorem scanHex_fault {cs : List Char} (h : '\'' ∉ cs.drop 1) : ∃ f, (scanHex cs).1 = .fault f := by
  simp only [scanHex]
  split
  · exact ⟨_, rfl⟩
  · rename_i c rest hrest
    have hc : c ∈ cs.drop 1 := by
      have hmem : c ∈ cs.drop (((cs.drop 1).takeWhile isHexDigit).length + 1) := by
        rw [hrest]
        exact List.mem_cons_self
      rw [Nat.add_comm, ← List.drop_drop] at hmem
      exact List.mem_of_mem_drop hmem
    have hne : c ≠ '\'' := fun hquote => h (by rwa [← hquote])
    exact ⟨.badHexDigit, if_neg hne⟩

theorem not_mem_of_scanHex_isOpen {cs : List Char} (h : isOpen (scanHex cs).1 = true) :
    '\'' ∉ cs.drop 1 := by
  simp only [scanHex] at h
  split at h
  · rename_i hrest
    have hnone : (cs.drop 1).dropWhile isHexDigit = [] := by
      rwa [← drop_countWhile, List.drop_drop, Nat.add_comm]
    have hdigits := List.takeWhile_append_dropWhile (p := isHexDigit) (l := cs.drop 1)
    rw [hnone, List.append_nil] at hdigits
    exact fun hmem => absurd (List.all_eq_true.mp List.all_takeWhile _ (hdigits ▸ hmem)) (by decide)
  · simp only at h
    split at h <;> cases h

theorem byteLength_cut (c : Char) (n : Nat) (cs bs : List Char) :
    byteLength (c :: cs.take n) + byteLength (cs.drop n ++ bs) = byteLength (c :: (cs ++ bs)) := by
  rw [← byteLength_append, List.cons_append, ← List.append_assoc, List.take_append_drop]

section Blanks

variable {bs : List Char} (hbs : ∀ b ∈ bs, isBlank b = true)
include hbs

theorem not_mem_blanks {c : Char} (hc : isBlank c = false) : c ∉ bs :=
  fun h => by simp [hbs c h] at hc

theorem tokensFrom_leading (q : Quoting) (pos : Nat) (cs : List Char) :
    tokensFrom q pos (bs ++ cs) = tokensFrom q (pos + byteLength bs) cs := by
  induction bs generalizing pos with
  | nil => rfl
  | cons b bs ih =>
    obtain ⟨hb, hbs⟩ := List.forall_mem_cons.mp hbs
    rw [List.cons_append, tokensFrom_blank q pos hb, ih hbs, byteLength_cons, Nat.add_assoc]

theorem tokensFrom_blanks (q : Quoting) (pos : Nat) :
    tokensFrom q pos bs = [⟨.eof, ⟨pos + byteLength bs, pos + byteLength bs⟩⟩] := by
  rw [← List.append_nil bs, tokensFrom_leading hbs, tokensFrom_nil, List.append_nil]

theorem scan_append_closed (q : Quoting) {c : Char} {cs : List Char}
    (h : isOpen (scan q c cs).1 = false) :
    scan q c (cs ++ bs) = scan q c cs := by
  cases bs with
  | nil => rw [List.append_nil]
  | cons b bs => exact scan_append (endsToken_of_isBlank (hbs b List.mem_cons_self)) q c cs h

theorem comment?_append_nothing {c : Char} {cs : List Char} (h : comment? c cs = none) :
    comment? c (cs ++ bs) = none := by
  cases bs with
  | nil => rwa [List.append_nil]
  | cons b bs =>
    exact comment?_append_none (stopsToken_of_endsToken
      (endsToken_of_isBlank (hbs b List.mem_cons_self))) h

theorem comment?_append_closed {c : Char} {cs : List Char} {n : Nat} (h : comment? c cs = some n)
    (hp : commentEnding c cs = .plain) : comment? c (cs ++ bs) = some n := by
  cases bs with
  | nil => rwa [List.append_nil]
  | cons b bs =>
    exact comment?_append_plain (stopsToken_of_endsToken
      (endsToken_of_isBlank (hbs b List.mem_cons_self))) h hp

/-- A comment that has no end takes the text to its end, and of the blanks what it can. -/
theorem comment?_append_open {c : Char} {cs : List Char} {n : Nat} (h : comment? c cs = some n)
    (hopen : commentEnding c cs ≠ .plain) :
    n = cs.length ∧ ∃ m, comment? c (cs ++ bs) = some m ∧ cs.length ≤ m := by
  have hhead {d : Char} (hd : isBlank d = false) :
      ((cs ++ bs).head? == some d) = (cs.head? == some d) := by
    cases bs with
    | nil => rw [List.append_nil]
    | cons b bs => exact head?_append (fun hb => by simp [← hb, hbs b List.mem_cons_self] at hd) cs
  unfold comment? at h ⊢
  unfold commentEnding at hopen
  rw [hhead (by decide), hhead (by decide)]
  split at h
  · rw [if_pos ‹_›] at hopen ⊢
    split at hopen
    · exact absurd rfl hopen
    · rename_i hline
      have hall : ∀ d ∈ cs, (d != '\n') = true := by
        intro d hd
        simp only [bne_iff_ne, ne_eq]
        rintro rfl
        exact hline (List.contains_iff_mem.mpr hd)
      cases h
      refine ⟨countWhile_all hall, _, rfl, ?_⟩
      rw [countWhile, List.takeWhile_append_of_pos hall, List.length_append]
      exact Nat.le_add_right _ _
  · rw [if_neg ‹_›] at hopen ⊢
    split at h
    · rename_i hblock
      rw [if_pos ‹_›]
      have hlen := head?_le (Bool.and_eq_true _ _ ▸ hblock).2
      cases hclosed : closesBlock (cs.drop 1) with
      | true => rw [hclosed, if_pos rfl] at hopen; exact absurd rfl hopen
      | false =>
        cases h
        refine ⟨?_, _, rfl, ?_⟩
        · rw [blockCommentLength_open hclosed, List.length_drop]
          omega
        · rw [List.drop_append_of_le_length hlen,
            blockCommentLength_open (closesBlock_append (not_mem_blanks hbs (by decide)) hclosed),
            List.length_append, List.length_drop]
          omega
    · cases h

/-- A token that has no end is a fault. -/
theorem scan_append_open (q : Quoting) {c : Char} {cs : List Char}
    (h : isOpen (scan q c cs).1 = true) :
    ∃ f, (scan q c (cs ++ bs)).1 = .fault f := by
  have hmissing {closing : Char} {kind : String → TokenKind} {missing : LexicalFault}
      (hclosing : isBlank closing = false)
      (hscan : ∀ ds, scan q c ds = scanDelimited closing kind missing ds)
      (hkind : ∀ value, isOpen (kind value) = false)
      (hopen : isOpen (scanDelimited closing kind missing cs).1 = true) :
      ∃ f, (scan q c (cs ++ bs)).1 = .fault f := by
    unfold scanDelimited at hopen
    cases hcs : delimited closing cs with
    | some token => simp [hcs, hkind] at hopen
    | none =>
      rw [hscan, scanDelimited, delimited_append_none (not_mem_blanks hbs hclosing) hcs]
      exact ⟨missing, rfl⟩
  revert h
  refine scan_elim (P := fun x => isOpen x.1 = true → _) q c cs (fun _ _ _ h => by cases h)
    (fun _ _ _ _ _ h => by cases h)
    (fun hd => ?_) (fun _ h => by cases h) (fun _ h => by cases h) (fun _ h => ?_)
      (fun hhex hopen => ?_) (fun _ _ h => ?_)
    (fun h => by cases h)
  · have hscan := hd.scan_eq
    cases hd <;> exact hmissing (by decide) hscan (fun _ => rfl)
  · refine absurd h ?_
    exact scanColon_fst (P := fun k => ¬ isOpen k = true) (fun _ h => by cases h)
      (fun _ h => by cases h) cs
  · obtain ⟨ds, rfl⟩ := List.head?_eq_some_iff.mp (beq_iff_eq.mp (Bool.and_eq_true_iff.mp hhex).2)
    rw [List.cons_append, scan_hex q (show startsHex c ('\'' :: (ds ++ bs)) = true from hhex)]
    refine scanHex_fault fun hmem => ?_
    rcases List.mem_append.mp hmem with hds | hbs'
    · exact not_mem_of_scanHex_isOpen hopen hds
    · exact not_mem_blanks hbs (by decide) hbs'
  · unfold scanWord at h
    simp only at h
    split at h <;> cases h

/-- Blanks at the end of a text without faults only put off the end of input. -/
theorem tokensFrom_trailing (q : Quoting) (pos : Nat) (cs : List Char)
    (hfault : ∀ t ∈ tokensFrom q pos (cs ++ bs), ∀ f, t.kind ≠ .fault f) :
    tokensFrom q pos (cs ++ bs) = (tokensFrom q pos cs).dropLast ++
      [⟨.eof, ⟨pos + byteLength (cs ++ bs), pos + byteLength (cs ++ bs)⟩⟩] := by
  induction cs using text_induction q generalizing pos with
  | nil =>
    rw [tokensFrom_nil]
    exact tokensFrom_blanks hbs q pos
  | blank c cs hc ih =>
    rw [List.cons_append, tokensFrom_blank q pos hc] at hfault ⊢
    rw [tokensFrom_blank q pos hc, ih _ hfault, byteLength_cons, Nat.add_assoc]
  | comment c cs n hc hn ih =>
    rw [tokensFrom_comment q pos hc hn]
    rw [List.cons_append] at hfault ⊢
    by_cases hend : commentEnding c cs = .plain
    · have hlen := comment?_le hn
      have hn' := comment?_append_closed hbs hn hend
      rw [tokensFrom_comment q pos hc hn', List.drop_append_of_le_length hlen] at hfault
      rw [tokensFrom_comment q pos hc hn', List.drop_append_of_le_length hlen, ih _ hfault,
        List.take_append_of_le_length hlen, Nat.add_assoc, byteLength_cut]
    · obtain ⟨rfl, m, hm, hlen⟩ := comment?_append_open hbs hn hend
      have hrest : ∀ b ∈ (cs ++ bs).drop m, isBlank b = true := by
        rw [List.drop_append, List.drop_of_length_le hlen, List.nil_append]
        exact fun b hb => hbs b (List.mem_of_mem_drop hb)
      have hcut := byteLength_cut c m (cs ++ bs) []
      rw [List.append_nil, List.append_nil] at hcut
      rw [List.drop_length, tokensFrom_nil, tokensFrom_comment q pos hc hm, tokensFrom_blanks hrest,
        Nat.add_assoc, hcut]
      rfl
  | token c cs hc hn ih =>
    rw [tokensFrom_token q pos hc hn]
    rw [List.cons_append] at hfault ⊢
    have hn' := comment?_append_nothing hbs hn
    rw [tokensFrom_token q pos hc hn'] at hfault ⊢
    cases hopen : isOpen (scan q c cs).1 with
    | true =>
      obtain ⟨f, hf⟩ := scan_append_open hbs q hopen
      exact absurd hf (hfault _ List.mem_cons_self f)
    | false =>
      have hlen := scan_le q c cs
      rw [scan_append_closed hbs q hopen, List.drop_append_of_le_length hlen] at hfault ⊢
      rw [ih _ fun t ht => hfault t (List.mem_cons_of_mem _ ht),
        List.dropLast_cons_of_ne_nil (tokensFrom_ne_nil q _ _), List.take_append_of_le_length hlen,
          Nat.add_assoc, byteLength_cut]
      rfl

end Blanks

end SqlWeave.Token
