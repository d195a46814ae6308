import SqlWeave.Token.Scan

/-! What the scanners do with a text that goes on. A token that ends before a blank, a parenthesis
or a comma is the same token whatever comes after. -/

namespace SqlWeave.Token

open Text (isBlank)

/-- The blank characters and the digits by number. -/
def blanksAndDigits : List Nat :=
  [9, 10, 11, 12, 13, 32, 0x85, 0xA0, 0x1680, 0x2028, 0x2029, 0x202F, 0x205F, 0x3000] ++
    List.range' 0x2000 11 ++
    List.range' 48 10

theorem mem_blanksAndDigits {c : Char} (h : isBlank c = true) : c.toNat ∈ blanksAndDigits := by
  simp only [isBlank, Text.covers, Text.blankRanges, Bool.if_false_left, Bool.and_eq_true,
    Bool.if_true_left, Bool.or_eq_true, decide_eq_true_eq, Bool.not_eq_true',
    decide_eq_false_iff_not, Bool.false_eq_true, or_false] at h
  simp only [blanksAndDigits, List.mem_append, List.mem_cons, List.mem_range'_1, List.not_mem_nil]
  omega

theorem blank_facts {c : Char} (h : isBlank c = true) :
    isNameChar c = false ∧ isNameStart c = false ∧ c.isDigit = false := by
  have hall : ∀ n ∈ blanksAndDigits, isBlank (Char.ofNat n) = true →
      isNameChar (Char.ofNat n) = false ∧ isNameStart (Char.ofNat n) = false ∧
        (Char.ofNat n).isDigit = false := by
    decide +kernel
  have hc := hall _ (mem_blanksAndDigits h)
  rw [Char.ofNat_toNat] at hc
  exact hc h

/-- Characters that no token goes on with. -/
def isBoundary (b : Char) : Bool := b == ' ' || b == '\n' || b == ')' || b == '(' || b == ','

/-- The same with every blank. -/
def endsToken (b : Char) : Bool := isBoundary b || isBlank b

theorem isBoundary_cases {b : Char} (h : isBoundary b = true) :
    b = ' ' ∨ b = '\n' ∨ b = ')' ∨ b = '(' ∨ b = ',' := by
  simpa [isBoundary, or_assoc] using h

theorem endsToken_of_isBlank {b : Char} (h : isBlank b = true) : endsToken b = true := by
  rw [endsToken, h, Bool.or_true]

/-- The same with the brackets and the colon. A name between brackets goes on with the one that
closes it, and a colon with another. -/
def stopsToken (b : Char) : Bool := endsToken b || b == '[' || b == ']' || b == '\x7d' || b == ':'

theorem stopsToken_of_endsToken {b : Char} (h : endsToken b = true) : stopsToken b = true := by
  rw [stopsToken, h, Bool.true_or, Bool.true_or, Bool.true_or, Bool.true_or]

theorem endsToken_ne {b c : Char} (hb : endsToken b = true) (hc : endsToken c = false) : b ≠ c := by
  rintro rfl
  rw [hb] at hc
  cases hc

variable {b : Char} (hb : stopsToken b = true) {r : List Char}

section Boundary

include hb

theorem boundary_facts : isNameChar b = false ∧ isNameStart b = false ∧ b.isDigit = false := by
  simp only [stopsToken, endsToken, Bool.or_eq_true, beq_iff_eq] at hb
  rcases hb with ((((hboundary | hblank) | rfl) | rfl) | rfl) | rfl
  · rcases isBoundary_cases hboundary with rfl | rfl | rfl | rfl | rfl <;> decide
  · exact blank_facts hblank
  all_goals decide

theorem isNameChar_boundary : isNameChar b = false := (boundary_facts hb).1

theorem isNameStart_boundary : isNameStart b = false := (boundary_facts hb).2.1

theorem isDigit_boundary : b.isDigit = false := (boundary_facts hb).2.2

theorem boundary_ne {c : Char} (hc : stopsToken c = false) : b ≠ c := by
  rintro rfl
  rw [hb] at hc
  cases hc

end Boundary

theorem countWhile_le (p : Char → Bool) (cs : List Char) : countWhile p cs ≤ cs.length :=
  (List.takeWhile_prefix p).length_le

theorem take_countWhile (p : Char → Bool) (cs : List Char) :
    cs.take (countWhile p cs) = cs.takeWhile p :=
  (List.prefix_iff_eq_take.mp (List.takeWhile_prefix p)).symm

theorem drop_countWhile (p : Char → Bool) (cs : List Char) :
    cs.drop (countWhile p cs) = cs.dropWhile p := by
  have hsplit := List.take_append_drop (countWhile p cs) cs
  rw [take_countWhile] at hsplit
  exact List.append_cancel_left (hsplit.trans List.takeWhile_append_dropWhile.symm)

theorem countWhile_append {p : Char → Bool} (hp : p b = false) (cs : List Char) :
    countWhile p (cs ++ b :: r) = countWhile p cs := by
  induction cs with
  | nil => simp [countWhile, hp]
  | cons c cs ih =>
    unfold countWhile at *
    by_cases hc : p c <;> simp [hc, ih]

theorem head?_append {c : Char} (hc : b ≠ c) (cs : List Char) :
    ((cs ++ b :: r).head? == some c) = (cs.head? == some c) := by
  cases cs <;> simp [hc]

/-! ## Delimited texts -/

theorem delimited_other {closing c : Char} (h : c ≠ closing) (cs : List Char) :
    delimited closing (c :: cs) = (delimited closing cs).map fun (value, n) =>
      (c :: value, n + 1) := by
  rw [delimited.eq_def]
  simp only [h, ↓reduceIte]

theorem delimited_append {closing : Char} (hc : b ≠ closing) (cs : List Char) {value : List Char}
    {n : Nat} (h : delimited closing cs = some (value, n)) :
    delimited closing (cs ++ b :: r) = some (value, n) := by
  induction cs using delimited.induct closing generalizing value n with
  | case1 => simp [delimited] at h
  | case2 ds ih =>
    simp only [delimited, ↓reduceIte, Option.map_eq_some_iff, List.cons_append] at h ⊢
    obtain ⟨⟨v, m⟩, hds, hv⟩ := h
    exact ⟨(v, m), ih hds, hv⟩
  | case3 d ds hd =>
    simp only [delimited, ↓reduceIte, hd, List.cons_append] at h ⊢
    exact h
  | case4 =>
    simp only [delimited, ↓reduceIte, hc, List.cons_append, List.nil_append] at h ⊢
    exact h
  | case5 c cs hne ih =>
    rw [List.cons_append, delimited_other hne]
    rw [delimited_other hne] at h
    rw [Option.map_eq_some_iff] at h ⊢
    obtain ⟨⟨v, m⟩, hcs, hv⟩ := h
    exact ⟨(v, m), ih hcs, hv⟩

theorem delimited_le {closing : Char} (cs : List Char) {value : List Char} {n : Nat}
    (h : delimited closing cs = some (value, n)) : n ≤ cs.length := by
  induction cs using delimited.induct closing generalizing value n with
  | case1 => simp [delimited] at h
  | case2 ds ih =>
    simp only [delimited, ↓reduceIte, Option.map_eq_some_iff] at h
    obtain ⟨⟨v, m⟩, hds, hv⟩ := h
    cases hv
    have := ih hds
    simp only [List.length_cons]
    omega
  | case3 d ds hd =>
    simp only [delimited, ↓reduceIte, hd] at h
    cases h
    simp
  | case4 =>
    simp only [delimited, ↓reduceIte] at h
    cases h
    simp
  | case5 c cs hne ih =>
    rw [delimited_other hne, Option.map_eq_some_iff] at h
    obtain ⟨⟨v, m⟩, hcs, hv⟩ := h
    cases hv
    have := ih hcs
    simp only [List.length_cons]
    omega

/-- Whether a token stops only because the text does: its closing delimiter is missing. -/
def isOpen : TokenKind → Bool
  | .fault .unterminatedIdentifier | .fault .unterminatedString | .fault .unterminatedHex => true
  | _ => false

theorem scanDelimited_append {closing : Char} (hc : b ≠ closing) {kind : String → TokenKind}
    {missing : LexicalFault} (hm : isOpen (.fault missing) = true) (cs : List Char)
    (h : isOpen (scanDelimited closing kind missing cs).1 = false) :
    scanDelimited closing kind missing (cs ++ b :: r) = scanDelimited closing kind missing cs := by
  unfold scanDelimited at *
  cases hd : delimited closing cs with
  | none =>
    rw [hd] at h
    exact absurd hm (by simpa using h)
  | some token => rw [delimited_append hc cs hd]

theorem scanDelimited_le (closing : Char) (kind : String → TokenKind) (missing : LexicalFault)
    (cs : List Char) : (scanDelimited closing kind missing cs).2 ≤ cs.length := by
  unfold scanDelimited
  cases hd : delimited closing cs with
  | none => exact Nat.le_refl _
  | some token => exact delimited_le cs hd

/-! ## Numbers, words and the rest -/

section Boundary

include hb

theorem fractionLength_append (cs : List Char) :
    fractionLength (cs ++ b :: r) = fractionLength cs := by
  have hdot : b ≠ '.' := boundary_ne hb (by decide)
  have hdigit := isDigit_boundary hb
  match cs with
  | [] => cases r <;> simp [fractionLength, hdot]
  | [c] =>
    by_cases hc : c = '.'
    · simp [fractionLength, hc, hdigit]
    · simp [fractionLength, hc]
  | c :: d :: cs =>
    by_cases hc : c = '.'
    · simp [fractionLength, hc, countWhile_append hdigit]
    · simp [fractionLength, hc]

theorem exponentLength_append (cs : List Char) :
    exponentLength (cs ++ b :: r) = exponentLength cs := by
  have hdigit := isDigit_boundary hb
  have hsign : b ≠ '+' ∧ b ≠ '-' := ⟨boundary_ne hb (by decide), boundary_ne hb (by decide)⟩
  have hletter : b ≠ 'e' ∧ b ≠ 'E' := ⟨boundary_ne hb (by decide), boundary_ne hb (by decide)⟩
  match cs with
  | [] => cases r <;> simp [exponentLength, hletter]
  | [c] => simp [exponentLength, hdigit, hsign]
  | c :: d :: cs => simp [exponentLength, countWhile_append hdigit]

end Boundary

theorem fractionLength_le (cs : List Char) : fractionLength cs ≤ cs.length := by
  match cs with
  | [] => simp [fractionLength]
  | [c] => simp [fractionLength]
  | c :: d :: cs =>
    have := countWhile_le Char.isDigit cs
    unfold fractionLength
    split <;> simp_all
    split <;> omega

theorem exponentLength_le (cs : List Char) : exponentLength cs ≤ cs.length := by
  match cs with
  | [] => simp [exponentLength]
  | [c] => simp [exponentLength]
  | c :: d :: cs =>
    have := countWhile_le Char.isDigit cs
    simp only [exponentLength, List.length_cons]
    split
    · split <;> omega
    · omega

theorem scanNumber_le (c : Char) (cs : List Char) : (scanNumber c cs).2 ≤ cs.length := by
  have hwhole := countWhile_le Char.isDigit cs
  have hfraction := fractionLength_le (cs.drop (countWhile Char.isDigit cs))
  have hexponent := exponentLength_le
    (cs.drop (countWhile Char.isDigit cs + fractionLength (cs.drop (countWhile Char.isDigit cs))))
  simp only [List.length_drop] at hfraction hexponent
  simp only [scanNumber]
  omega

include hb in
theorem scanNumber_append (c : Char) (cs : List Char) :
    scanNumber c (cs ++ b :: r) = scanNumber c cs := by
  have hle := scanNumber_le c cs
  have hwhole := countWhile_le Char.isDigit cs
  simp only [scanNumber] at hle
  simp only [scanNumber, countWhile_append (isDigit_boundary hb)]
  rw [List.drop_append_of_le_length hwhole, fractionLength_append hb,
    List.drop_append_of_le_length (by omega), exponentLength_append hb,
    List.take_append_of_le_length hle]

include hb in
theorem scanWord_append (c : Char) (cs : List Char) :
    scanWord c (cs ++ b :: r) = scanWord c cs := by
  simp only [scanWord, countWhile_append (isNameChar_boundary hb)]
  rw [List.take_append_of_le_length (countWhile_le _ cs)]

theorem scanHex_append (cs : List Char) (h : isOpen (scanHex cs).1 = false) :
    scanHex (cs ++ b :: r) = scanHex cs := by
  have hdigits : ((cs.drop 1).takeWhile isHexDigit).length + 1 < cs.length := by
    apply Nat.lt_of_not_le
    intro hlen
    have hnil : cs.drop (((cs.drop 1).takeWhile isHexDigit).length + 1) = [] :=
      List.drop_eq_nil_of_le (by omega)
    simp only [scanHex, hnil] at h
    exact absurd h (by decide)
  have hsame : ((cs ++ b :: r).drop 1).takeWhile isHexDigit = (cs.drop 1).takeWhile isHexDigit := by
    rw [List.drop_append_of_le_length (by omega), List.takeWhile_append]
    simp only [List.length_drop]
    rw [if_neg (by omega)]
  simp only [scanHex, hsame]
  rw [List.drop_append_of_le_length (by omega)]
  cases hrest : cs.drop (((cs.drop 1).takeWhile isHexDigit).length + 1) with
  | nil =>
    have := List.drop_eq_nil_iff.mp hrest
    omega
  | cons c rest => rfl

theorem scanHex_le (cs : List Char) (h : cs ≠ []) : (scanHex cs).2 ≤ cs.length := by
  have hpos := List.length_pos_iff.mpr h
  have hdigits := countWhile_le isHexDigit (cs.drop 1)
  simp only [countWhile, List.length_drop] at hdigits
  simp only [scanHex]
  split
  · simp only
    omega
  · rename_i c rest hrest
    have := congrArg List.length hrest
    simp only [List.length_drop, List.length_cons] at this
    simp only
    omega

include hb in
theorem scanVariable_append (cs : List Char) : scanVariable (cs ++ b :: r) = scanVariable cs := by
  have hat : b ≠ '@' := boundary_ne hb (by decide)
  have hpart : (isNameChar b || b == '.') = false := by
    rw [isNameChar_boundary hb]
    simpa using boundary_ne hb (c := '.') (by decide)
  have hsession : (if (cs.head? == some '@') = true then 1 else 0) ≤ cs.length := by
    cases cs with
    | nil => simp
    | cons c cs => split <;> simp
  have hcount := countWhile_le (fun c => isNameChar c || c == '.')
    (cs.drop (if (cs.head? == some '@') = true then 1 else 0))
  simp only [List.length_drop] at hcount
  simp only [scanVariable, head?_append hat]
  rw [List.drop_append_of_le_length hsession, countWhile_append hpart,
    List.take_append_of_le_length (by omega)]

theorem scanVariable_le (cs : List Char) : (scanVariable cs).2 ≤ cs.length := by
  have hcount := countWhile_le (fun c => isNameChar c || c == '.')
    (cs.drop (if (cs.head? == some '@') = true then 1 else 0))
  simp only [List.length_drop] at hcount
  simp only [scanVariable]
  cases cs with
  | nil => simp_all
  | cons c cs =>
    split <;> simp_all
    omega

include hb in
theorem scanColon_append (cs : List Char) (hcolon : cs = [] → b ≠ ':') :
    scanColon (cs ++ b :: r) = scanColon cs := by
  cases cs with
  | nil => simp [scanColon, hcolon rfl, isNameStart_boundary hb]
  | cons c cs =>
    have hle := countWhile_le isNameChar cs
    simp only [List.cons_append, scanColon, countWhile_append (isNameChar_boundary hb)]
    rw [← List.cons_append, List.take_append_of_le_length (by simp; omega)]

theorem scanColon_le (cs : List Char) : (scanColon cs).2 ≤ cs.length := by
  cases cs with
  | nil => simp [scanColon]
  | cons c cs =>
    have hle := countWhile_le isNameChar cs
    simp only [scanColon]
    split
    · simp
    · split <;> simp
      omega

theorem scanPair_append {second : Char} (hs : b ≠ second) (double single : Symbol)
    (cs : List Char) :
    scanPair second double single (cs ++ b :: r) = scanPair second double single cs := by
  simp only [scanPair, head?_append hs]

theorem head?_le {c : Char} {cs : List Char} (h : (cs.head? == some c) = true) : 1 ≤ cs.length := by
  cases cs with
  | nil => simp at h
  | cons => simp

/-! ## One token -/

theorem scan_bracket (q : Quoting) (cs : List Char) :
    scan q '[' cs = if q.bracketNames then
      scanDelimited ']' .quotedIdentifier .unterminatedIdentifier cs
        else (.symbol .leftBracket, 0) := rfl

theorem scan_doubleQuote (q : Quoting) (cs : List Char) :
    scan q '"' cs = if q.doubleQuoteNames then
      scanDelimited '"' .quotedIdentifier .unterminatedIdentifier cs
      else scanDelimited '"' .doubleQuoted .unterminatedString cs := rfl

/-- Whether a number in hexadecimal digits starts here. -/
def startsHex (c : Char) (cs : List Char) : Bool := (c == 'X' || c == 'x') && cs.head? == some '\''

theorem scan_hex (q : Quoting) {c : Char} {cs : List Char} (h : startsHex c cs = true) :
    scan q c cs = scanHex cs := by
  simp only [startsHex, Bool.and_eq_true, Bool.or_eq_true, beq_iff_eq, List.head?_eq_some_iff] at h
  obtain ⟨rfl | rfl, ds, rfl⟩ := h <;> rfl

include hb in
theorem scan_append_stop (q : Quoting) (c : Char) (cs : List Char)
    (h : isOpen (scan q c cs).1 = false) (hclosing : q.bracketNames = true → b ≠ ']')
    (hcolon : c = ':' → cs = [] → b ≠ ':') :
    scan q c (cs ++ b :: r) = scan q c cs := by
  have hne {x : Char} (hx : stopsToken x = false) := boundary_ne hb hx
  by_cases hbracket : c = '['
  · subst hbracket
    rw [scan_bracket] at h ⊢
    rw [scan_bracket]
    split at h
    · rw [if_pos ‹_›, if_pos ‹_›]
      exact scanDelimited_append (hclosing ‹_›) rfl cs h
    · rw [if_neg ‹_›, if_neg ‹_›]
  by_cases hquote : c = '\''
  · subst hquote
    exact scanDelimited_append (hne (by decide)) rfl cs h
  by_cases hdouble : c = '"'
  · subst hdouble
    rw [scan_doubleQuote] at h ⊢
    rw [scan_doubleQuote]
    split at h
    · rw [if_pos ‹_›, if_pos ‹_›]
      exact scanDelimited_append (hne (by decide)) rfl cs h
    · rw [if_neg ‹_›, if_neg ‹_›]
      exact scanDelimited_append (hne (by decide)) rfl cs h
  by_cases hbacktick : c = '\x60'
  · subst hbacktick
    exact scanDelimited_append (hne (by decide)) rfl cs h
  have hmark := head?_append (r := r) (hne (x := '\'') (by decide)) cs
  by_cases hhex : startsHex c cs = true
  · rw [scan_hex q hhex] at h ⊢
    rw [scan_hex q (by rwa [startsHex, hmark])]
    exact scanHex_append cs h
  rw [startsHex] at hhex
  -- the other tokens look at most at the character after them
  have hdigit : (cs ++ b :: r).head?.any Char.isDigit = cs.head?.any Char.isDigit := by
    cases cs <;> simp [isDigit_boundary hb]
  by_cases hstart : c = ':'
  · subst hstart
    exact scanColon_append hb cs (hcolon rfl)
  unfold scan at h ⊢
  simp only [if_neg hstart, if_neg hbracket, if_neg hquote, if_neg hdouble,
    if_neg hbacktick, hdigit, head?_append (hne (x := '=') (by decide)),
    head?_append (hne (x := '>') (by decide)), head?_append (hne (x := '<') (by decide)), hmark,
    hhex, Bool.false_eq_true, ↓reduceIte, scanPair_append (hne (x := '=') (by decide)),
    scanPair_append (hne (x := '|') (by decide)), scanNumber_append hb, scanWord_append hb,
    scanVariable_append hb]
theorem scan_append (hb : endsToken b = true) (q : Quoting) (c : Char) (cs : List Char)
    (h : isOpen (scan q c cs).1 = false) : scan q c (cs ++ b :: r) = scan q c cs :=
  scan_append_stop (stopsToken_of_endsToken hb) q c cs h (fun _ => endsToken_ne hb (by decide))
    fun _ _ => endsToken_ne hb (by decide)

/-- What opens a text up to a closing delimiter, and what kind of token that text is. -/
inductive Delimits (q : Quoting) : Char → Char → (String → TokenKind) → LexicalFault → Prop
  | bracket (h : q.bracketNames = true) :
      Delimits q '[' ']' .quotedIdentifier .unterminatedIdentifier
  | quote : Delimits q '\'' '\'' .string .unterminatedString
  | nameQuote (h : q.doubleQuoteNames = true) :
      Delimits q '"' '"' .quotedIdentifier .unterminatedIdentifier
  | doubleQuote (h : q.doubleQuoteNames = false) :
      Delimits q '"' '"' .doubleQuoted .unterminatedString
  | backtick : Delimits q '\x60' '\x60' .quotedIdentifier .unterminatedIdentifier

theorem Delimits.scan_eq {q : Quoting} {opening closing : Char} {kind : String → TokenKind}
    {missing : LexicalFault} (h : Delimits q opening closing kind missing) (cs : List Char) :
    scan q opening cs = scanDelimited closing kind missing cs := by
  cases h with
  | bracket h => rw [scan_bracket, if_pos h]
  | quote => rfl
  | nameQuote h => rw [scan_doubleQuote, if_pos h]
  | doubleQuote h => rw [scan_doubleQuote, h, if_neg Bool.false_ne_true]
  | backtick => rfl

theorem Delimits.starts {q : Quoting} {opening closing : Char} {kind : String → TokenKind}
    {missing : LexicalFault} (h : Delimits q opening closing kind missing) :
    isBlank opening = false ∧ (∀ cs, comment? opening cs = none) ∧
      ∀ value, isOpen (kind value) = false := by
  cases h <;> exact ⟨by decide, fun _ => rfl, fun _ => rfl⟩

theorem ite_elim {α : Type} {P : α → Prop} {c : Prop} [Decidable c] {x y : α} (hx : c → P x)
    (hy : ¬ c → P y) :
    P (if c then x else y) := by
  by_cases h : c
  · rw [if_pos h]
    exact hx h
  · rw [if_neg h]
    exact hy h

/-- `!=` and `<>` are one symbol. -/
def unequalSigns : List (Char × Char) := [('!', '='), ('<', '>')]

theorem single?_ne {c : Char} {mark : Symbol} (h : single? c = some mark) :
    mark ≠ .notEq ∧ mark ≠ .leftBracket := by
  unfold single? at h
  split at h <;> cases h <;> decide

/-- Every token comes from one of these scanners. -/
theorem scan_elim {P : TokenKind × Nat → Prop} (q : Quoting) (c : Char) (cs : List Char)
    (mark : ∀ s, s ≠ .notEq → (s = .leftBracket → q.bracketNames = false) → P (.symbol s, 0))
    (pair : ∀ s x, cs.head? = some x → (s = .notEq → (c, x) ∈ unequalSigns) → s ≠ .leftBracket →
      P (.symbol s, 1))
    (delimited : ∀ {closing kind missing}, Delimits q c closing kind missing →
      P (scanDelimited closing kind missing cs))
    (number : c.isDigit = true ∨ c = '.' ∧ cs.head?.any Char.isDigit = true → P (scanNumber c cs))
    (variable_ : c = '@' → P (scanVariable cs)) (colon : c = ':' → P (scanColon cs))
    (hex : startsHex c cs = true → P (scanHex cs))
    (word : isNameStart c = true → startsHex c cs = false → P (scanWord c cs))
    (other : P (.fault (.unexpectedChar c), 0)) : P (scan q c cs) := by
  have hnext {x : Char} {s : Symbol} (hs : (s = .notEq → (c, x) ∈ unequalSigns) ∧ s ≠ .leftBracket)
      (h : (cs.head? == some x) = true) : P (.symbol s, 1) := pair s x (beq_iff_eq.mp h) hs.1 hs.2
  have hmark {s : Symbol} (hs : s ≠ .notEq ∧ s ≠ .leftBracket) : P (.symbol s, 0) :=
    mark s hs.1 fun h => absurd h hs.2
  have hpair (second : Char) {double single : Symbol}
      (hd : (double = .notEq → (c, second) ∈ unequalSigns) ∧ double ≠ .leftBracket)
      (hs : single ≠ .notEq ∧ single ≠ .leftBracket) : P (scanPair second double single cs) :=
    ite_elim (hnext hd) fun _ => hmark hs
  have hother {s : Symbol} {x : Char} (hs : s ≠ .notEq ∧ s ≠ .leftBracket) :
      (s = .notEq → (c, x) ∈ unequalSigns) ∧ s ≠ .leftBracket := ⟨fun h => absurd h hs.1, hs.2⟩
  unfold scan
  cases hsingle : single? c with
  | some s => exact hmark (single?_ne hsingle)
  | none =>
    refine ite_elim (fun hc => ite_elim (fun h => ?_) fun h =>
      mark _ (by decide) fun _ => by simpa using h) fun _ => ?_
    · subst hc
      exact delimited (.bracket h)
    refine ite_elim (fun hc => ite_elim (fun h => number (.inr ⟨hc, h⟩)) fun _ => hmark (by decide))
      fun _ => ?_
    refine ite_elim variable_ fun _ => ite_elim colon fun _ => ite_elim (fun _ => ?_) fun _ => ?_
    · by_cases h : (cs.head? == some '=') = true
      · rw [if_pos h]
        exact hnext (hother (by decide)) h
      · rw [if_neg h]
        exact hmark (by decide)
    refine ite_elim (fun hc => ite_elim (hnext ⟨fun _ => by rw [hc]; decide, by decide⟩) fun _ =>
      ?_) fun _ => ?_
    · exact ite_elim (hnext (hother (by decide))) fun _ => hpair _ (hother (by decide)) (by decide)
    refine ite_elim (fun _ => ite_elim (hnext (hother (by decide))) fun _ => ?_) fun _ => ?_
    · exact hpair _ (hother (by decide)) (by decide)
    refine ite_elim (fun hc => hpair _ ⟨fun _ => by rw [hc]; decide, by decide⟩ (by decide))
      fun _ => ?_
    refine ite_elim (fun _ => hpair _ (hother (by decide)) (by decide)) fun _ => ?_
    refine ite_elim (fun hc => ?_) fun _ => ite_elim (fun hc => ?_) fun _ =>
      ite_elim (fun hc => ?_) fun _ => ?_
    · subst hc
      exact delimited .quote
    · subst hc
      exact ite_elim (fun h => delimited (.nameQuote h)) fun h =>
        delimited (.doubleQuote (Bool.eq_false_iff.mpr h))
    · subst hc
      exact delimited .backtick
    refine ite_elim hex fun hhex => ite_elim (fun h => number (.inl h)) fun _ => ?_
    exact ite_elim (fun hstart => word hstart (Bool.eq_false_iff.mpr hhex)) fun _ => other

theorem scanDelimited_fst {P : TokenKind → Prop} {closing : Char} {kind : String → TokenKind}
    {missing : LexicalFault} (hk : ∀ s, P (kind s)) (hfault : P (.fault missing)) (cs : List Char) :
    P (scanDelimited closing kind missing cs).1 := by
  unfold scanDelimited
  cases delimited closing cs with
  | none => exact hfault
  | some token => exact hk _

theorem scanHex_fst {P : TokenKind → Prop} (hhex : ∀ s, P (.hex s)) (hfault : ∀ f, P (.fault f))
    (cs : List Char) : P (scanHex cs).1 := by
  simp only [scanHex]
  split
  · exact hfault _
  · simp only
    split
    · exact hhex _
    · exact hfault _

theorem scanColon_fst {P : TokenKind → Prop} (hmark : ∀ s, P (.symbol s))
    (hname : ∀ s, P (.parameter s)) (cs : List Char) : P (scanColon cs).1 := by
  cases cs with
  | nil => exact hmark _
  | cons c cs =>
    refine ite_elim (P := fun x : TokenKind × Nat => P x.1) (fun _ => hmark _) fun _ => ?_
    exact ite_elim (P := fun x : TokenKind × Nat => P x.1) (fun _ => hname _) fun _ => hmark _

/-- A token is a word only if it is scanned as one. -/
theorem scan_fst {P : TokenKind → Prop} (q : Quoting) (c : Char) (cs : List Char)
    (word : isNameStart c = true → startsHex c cs = false → P (scanWord c cs).1)
    (other : ∀ k, (∀ name, k ≠ .identifier name) → (∀ w, k ≠ .keyword w) → k ≠ .eof → P k) :
    P (scan q c cs).1 := by
  have hsymbol (mark : Symbol) : P (.symbol mark) := other _ (by simp) (by simp) (by simp)
  have hfault (f : LexicalFault) : P (.fault f) := other _ (by simp) (by simp) (by simp)
  refine scan_elim (P := fun x => P x.1) q c cs (fun s _ _ => hsymbol s)
    (fun s _ _ _ _ => hsymbol s) (fun h => ?_)
    (fun _ => other _ (by simp [scanNumber]) (by simp [scanNumber]) (by simp [scanNumber]))
    (fun _ => other _ (by simp [scanVariable]) (by simp [scanVariable]) (by simp [scanVariable]))
    (fun _ => scanColon_fst hsymbol (fun _ => other _ (by simp) (by simp) (by simp)) cs)
    (fun _ => scanHex_fst (fun _ => other _ (by simp) (by simp) (by simp)) hfault cs) word
      (hfault _)
  cases h <;> exact scanDelimited_fst (fun _ => other _ (by simp) (by simp) (by simp)) (hfault _) cs

theorem scan_ne_eof (q : Quoting) (c : Char) (cs : List Char) : (scan q c cs).1 ≠ .eof := by
  refine scan_fst q c cs (fun _ _ => ?_) fun k _ _ hk => hk
  unfold scanWord
  simp only
  split <;> exact TokenKind.noConfusion

theorem scan_le (q : Quoting) (c : Char) (cs : List Char) : (scan q c cs).2 ≤ cs.length := by
  refine scan_elim (P := fun x => x.2 ≤ cs.length) q c cs (fun _ _ _ => Nat.zero_le _)
    (fun _ _ hhead _ _ => List.length_pos_iff.mpr fun hnil => by simp [hnil] at hhead)
    (fun _ => scanDelimited_le _ _ _ cs) (fun _ => scanNumber_le c cs)
    (fun _ => scanVariable_le cs) (fun _ => scanColon_le cs) (fun h => scanHex_le cs ?_)
    (fun _ _ => countWhile_le isNameChar cs) (Nat.zero_le _)
  rintro rfl
  simp [startsHex] at h

end SqlWeave.Token
