import SqlWeave.Proofs.Json.Numeral

/-! Indented text of a value is read as that value, if its numbers are read back from their texts
and it nests at most as deep as is read; of a value that nests deeper nothing is read. -/

namespace SqlWeave.Json

mutual
/-- The numbers that stand in a value. -/
def numbers : Json → List Number
  | .number n => [n]
  | .array items => numbersOfItems items
  | .object fields => numbersOfFields fields
  | _ => []
def numbersOfItems : List Json → List Number
  | [] => []
  | v :: vs => v.numbers ++ numbersOfItems vs
def numbersOfFields : List (String × Json) → List Number
  | [] => []
  | (_, v) :: rest => v.numbers ++ numbersOfFields rest
end

/-- Every number in the value is read back from its text. -/
def NumbersReadBack (v : Json) : Prop := ∀ n ∈ v.numbers, n.ReadsBack

/-! ## Strings -/

theorem hexValue?_hexDigit : ∀ n < 16, hexValue? (hexDigit n) = some n := by decide

theorem readCodePoint_control {n : Nat} (hn : n < 0x20) (rest : List Char) :
    readCodePoint ('0' :: '0' :: hexDigit (n / 16) :: hexDigit (n % 16) :: rest) =
      some (Char.ofNat n, rest) := by
  have hzero : hexValue? '0' = some 0 := rfl
  have hunit :
      readUnit ('0' :: '0' :: hexDigit (n / 16) :: hexDigit (n % 16) :: rest) = some (n, rest) := by
    have hdigits : n / 16 * 16 + n % 16 = n := by omega
    simp [readUnit, hzero, hexValue?_hexDigit (n / 16) (by omega),
      hexValue?_hexDigit (n % 16) (by omega), hdigits]
  simp only [readCodePoint, hunit, Option.bind_eq_bind, Option.bind_some]
  rw [if_neg (by simp; omega), if_neg (by simp; omega)]
  rfl

/-- A character is read back from its escape. -/
theorem readStringTail_escapeChar (c : Char) (fuel : Nat) (done rest : List Char) :
    readStringTail readCodePoint (fuel + 1) done (escapeChar c ++ rest) =
      readStringTail readCodePoint fuel (c :: done) rest := by
  unfold escapeChar
  split
  · subst_vars
    rfl
  split
  · subst_vars
    rfl
  split
  · subst_vars
    rfl
  split
  · subst_vars
    rfl
  split
  · subst_vars
    rfl
  split
  · subst_vars
    rfl
  split
  · subst_vars
    rfl
  split
  · rename_i hlow
    have hcode := readCodePoint_control hlow rest
    rw [Char.ofNat_toNat] at hcode
    simp only [List.cons_append, List.nil_append, readStringTail, hcode, Option.bind_some]
  · rename_i hquote hslash _ _ _ _ _ hlow
    rw [List.singleton_append, readStringTail, if_neg hlow]
    · exact hquote
    · exact fun _ h _ => hslash h
    · exact fun _ _ h _ => hslash h

theorem readStringTail_escaped (cs : List Char) (fuel : Nat) (done rest : List Char)
    (hfuel : cs.length < fuel) :
    readStringTail readCodePoint fuel done (cs.flatMap escapeChar ++ '"' :: rest) =
      some (String.ofList (done.reverse ++ cs), rest) := by
  induction cs generalizing fuel done with
  | nil =>
    obtain ⟨fuel, rfl⟩ := Nat.exists_eq_add_one_of_ne_zero (Nat.ne_of_gt hfuel)
    simp [readStringTail]
  | cons c cs ih =>
    obtain ⟨fuel, rfl⟩ := Nat.exists_eq_add_one_of_ne_zero (Nat.ne_zero_of_lt hfuel)
    rw [List.flatMap_cons, List.append_assoc, readStringTail_escapeChar,
      ih fuel _ (by simpa using hfuel)]
    simp

theorem length_le_escaped (cs : List Char) : cs.length ≤ (cs.flatMap escapeChar).length := by
  induction cs with
  | nil => exact Nat.le_refl _
  | cons c cs ih =>
    have hpos : 0 < (escapeChar c).length := by
      unfold escapeChar
      repeat' split
      all_goals exact Nat.succ_pos _
    rw [List.flatMap_cons, List.length_append, List.length_cons]
    omega

/-- A string is read back from behind its opening quote. -/
theorem string_quoted (s : String) (rest : List Char) :
    Scalars.kept.string (s.toList.flatMap escapeChar ++ '"' :: rest) = some (s, rest) := by
  have hlength := length_le_escaped s.toList
  refine (readStringTail_escaped s.toList _ [] rest ?_).trans ?_
  · rw [List.length_append]
    omega
  · rw [List.reverse_nil, List.nil_append, String.ofList_toList]

theorem toList_quote (s : String) :
    (quote s).toList = '"' :: (s.toList.flatMap escapeChar ++ ['"']) := by
  rw [quote, String.toList_ofList]

/-! ## Blanks -/

theorem skipBlanks_append {bs : List Char} (hbs : ∀ b ∈ bs, b = '\n' ∨ b = ' ') (cs : List Char) :
    skipBlanks (bs ++ cs) = skipBlanks cs := by
  refine List.dropWhile_append_of_pos fun b hb => ?_
  rcases hbs b hb with rfl | rfl <;> rfl

theorem skipBlanks_line (level : Nat) (cs : List Char) :
    skipBlanks ((line level).toList ++ cs) = skipBlanks cs := by
  refine skipBlanks_append (fun b hb => ?_) cs
  rw [line, String.toList_append] at hb
  rcases List.mem_append.mp hb with hb | hb
  · exact .inl (List.mem_singleton.mp hb)
  · exact .inr (List.eq_of_mem_replicate (String.toList_ofList ▸ hb))

theorem readValue_line (s : Scalars) (nesting level : Nat) (cs : List Char) :
    readValue s nesting ((line level).toList ++ cs) = readValue s nesting cs := by
  unfold readValue
  rw [skipBlanks_line]

theorem readValue_blank (s : Scalars) (nesting : Nat) (cs : List Char) :
    readValue s nesting (' ' :: cs) = readValue s nesting cs := by
  unfold readValue
  rfl

/-! ## The first character -/

theorem head_of_readNumeral {cs : List Char} {n : Numeral} {rest : List Char}
    (h : readNumeral cs = some (n, rest)) :
    ∃ c ∈ cs.head?, c = '-' ∨ c.isDigit = true := by
  by_cases hminus : cs.head? = some '-'
  · exact ⟨_, hminus, .inl rfl⟩
  · rw [readNumeral_of_ne hminus] at h
    simp only [readUnsigned] at h
    cases cs with
    | nil => cases h
    | cons c cs =>
      refine ⟨c, rfl, .inr ?_⟩
      by_contra hc
      have hwhole : wholeDigits (c :: cs) = [] := by
        unfold wholeDigits
        split
        · rename_i heq
          cases heq
          exact absurd rfl hc
        · exact List.takeWhile_cons_of_neg hc
      rw [hwhole] at h
      cases h

/-- What a value can start with. -/
def StartsValue (c : Char) : Prop := c ∈ ['"', '[', '\x7b', 't', 'f', 'n', '-'] ∨ c.isDigit = true

theorem StartsValue.ne {c d : Char} (h : StartsValue c)
    (hd : d ∉ ['"', '[', '\x7b', 't', 'f', 'n', '-']) (hdigit : d.isDigit = false) : c ≠ d := by
  rintro rfl
  rcases h with h | h
  · exact hd h
  · exact absurd h (ne_true_of_eq_false hdigit)

theorem StartsValue.skipBlanks {c : Char} (h : StartsValue c) (cs : List Char) :
    skipBlanks (c :: cs) = c :: cs := by
  have hblank := h.ne (d := ' ') (by decide) rfl
  have hline := h.ne (d := '\n') (by decide) rfl
  have htab := h.ne (d := '\t') (by decide) rfl
  have hreturn := h.ne (d := '\r') (by decide) rfl
  exact List.dropWhile_cons_of_neg (by simp [hblank, hline, htab, hreturn])

theorem readValue_number (s : Scalars) (nesting : Nat) {c : Char} {cs : List Char}
    (hc : c = '-' ∨ c.isDigit = true) :
    readValue s nesting (c :: cs) = s.number (c :: cs) := by
  have hstarts : StartsValue c := hc.imp (by rintro rfl; decide) id
  have hne {d : Char} (hd : d ≠ '-') (hdigit : d.isDigit = false) : c ≠ d := by
    rintro rfl
    rcases hc with rfl | hc
    · exact hd rfl
    · exact absurd hc (ne_true_of_eq_false hdigit)
  unfold readValue
  rw [hstarts.skipBlanks]
  split
  · exact absurd (List.cons.inj ‹_›).1 (hne (by decide) rfl)
  · exact absurd (List.cons.inj ‹_›).1 (hne (by decide) rfl)
  · exact absurd (List.cons.inj ‹_›).1 (hne (by decide) rfl)
  · exact absurd (List.cons.inj ‹_›).1 (hne (by decide) rfl)
  · exact absurd (List.cons.inj ‹_›).1 (hne (by decide) rfl)
  · exact absurd (List.cons.inj ‹_›).1 (hne (by decide) rfl)
  · rfl

/-! ## Scalars -/

theorem Number.ReadsBack.head {n : Number} (h : n.ReadsBack) :
    ∃ c cs, n.text.toList = c :: cs ∧ (c = '-' ∨ c.isDigit = true) := by
  obtain ⟨numeral, -, hnumeral, -⟩ := readNumber_eq_some.mp h
  obtain ⟨c, hc, hstarts⟩ := head_of_readNumeral hnumeral
  obtain ⟨cs, hcs⟩ := List.head?_eq_some_iff.mp hc
  exact ⟨c, cs, hcs, hstarts⟩

theorem Number.ReadsBack.readValue {n : Number} (h : n.ReadsBack) (nesting : Nat) {rest : List Char}
    (hrest : EndsNumber rest) : readValue .kept nesting (n.text.toList ++ rest) =
      some (.number n, rest) := by
  obtain ⟨c, cs, hcs, hc⟩ := h.head
  have hnumber := h.append hrest
  rw [hcs, List.cons_append] at hnumber ⊢
  rw [readValue_number _ _ hc]
  exact hnumber

theorem toList_null (level : Nat) : (indented level .null).toList = ['n', 'u', 'l', 'l'] := by
  simp [indented, scalarText]

theorem toList_true (level : Nat) :
    (indented level (.bool true)).toList = ['t', 'r', 'u', 'e'] := by
  simp [indented, scalarText]

theorem toList_false (level : Nat) :
    (indented level (.bool false)).toList = ['f', 'a', 'l', 's', 'e'] := by
  simp [indented, scalarText]

theorem readValue_null (nesting level : Nat) (rest : List Char) :
    readValue .kept nesting ((indented level .null).toList ++ rest) = some (.null, rest) := by
  rw [toList_null, readValue.eq_def]
  rfl

theorem readValue_bool (b : Bool) (nesting level : Nat) (rest : List Char) :
    readValue .kept nesting ((indented level (.bool b)).toList ++ rest) = some (.bool b, rest) := by
  cases b with
  | true =>
    rw [toList_true, readValue.eq_def]
    rfl
  | false =>
    rw [toList_false, readValue.eq_def]
    rfl

theorem readValue_quote (nesting : Nat) (s : String) (rest : List Char) :
    readValue .kept nesting ((quote s).toList ++ rest) = some (.string s, rest) := by
  rw [toList_quote, List.cons_append, List.append_assoc, List.singleton_append, readValue.eq_def]
  have hskip (cs : List Char) : skipBlanks ('"' :: cs) = '"' :: cs := rfl
  simp only [hskip, string_quoted, Option.map_some]

/-! ## Blocks -/

theorem toList_block {opening closing : String} {level : Nat} {entries : List String}
    (h : entries ≠ []) :
    (block opening closing level entries).toList = opening.toList ++ ((line (level + 1)).toList ++
      ((("," ++ line (level + 1)).intercalate entries).toList ++
        ((line level).toList ++ closing.toList))) := by
  rw [block, if_neg (by simpa using h)]
  simp only [String.toList_append, List.append_assoc]

theorem endsNumber_line (level : Nat) (rest : List Char) :
    EndsNumber ((line level).toList ++ rest) := by
  intro c hc
  rw [line, String.toList_append] at hc
  cases hc
  decide

theorem endsNumber_comma (rest : List Char) : EndsNumber (',' :: rest) := by
  intro c hc
  cases hc
  decide

theorem starts_indented {v : Json} (hv : v.NumbersReadBack) (level : Nat) :
    ∃ c cs, (v.indented level).toList = c :: cs ∧ StartsValue c := by
  have hblock {opening closing : String} {entries : List String} {c : Char}
      (hopening : opening.toList = [c]) (hc : StartsValue c) :
      ∃ d ds, (block opening closing level entries).toList = d :: ds ∧ StartsValue d := by
    by_cases h : entries = []
    · exact ⟨c, closing.toList, by simp [block, h, hopening], hc⟩
    · exact ⟨c, _, by rw [toList_block h, hopening]; rfl, hc⟩
  cases v with
  | null => exact ⟨'n', _, toList_null level, .inl (by decide)⟩
  | bool b => cases b with
    | true => exact ⟨'t', _, toList_true level, .inl (by decide)⟩
    | false => exact ⟨'f', _, toList_false level, .inl (by decide)⟩
  | number n =>
    obtain ⟨c, cs, hcs, hc⟩ := (hv n (List.mem_singleton.mpr rfl)).head
    exact ⟨c, cs, hcs, hc.imp (by rintro rfl; decide) id⟩
  | string s => exact ⟨'"', _, toList_quote s, .inl (by decide)⟩
  | array items => exact hblock rfl (.inl (by decide))
  | object fields => exact hblock rfl (.inl (by decide))

theorem length_le_intercalate {separator : String} (h : separator ≠ "") (entries : List String) :
    entries.length ≤ (separator.intercalate entries).toList.length + 1 := by
  induction entries with
  | nil => exact Nat.zero_le _
  | cons e es ih =>
    cases es with
    | nil => simp
    | cons e' es =>
      have hpos : 0 < separator.toList.length :=
        List.length_pos_iff.mpr fun hnil => h (String.toList_eq_nil_iff.mp hnil)
      rw [String.intercalate_cons_cons, String.toList_append, String.toList_append,
        List.length_append, List.length_append, List.length_cons]
      omega

theorem toList_intercalate_line (level : Nat) (e e' : String) (es : List String)
    (tail : List Char) :
    (("," ++ line level).intercalate (e :: e' :: es)).toList ++ tail =
      e.toList ++ ',' :: ((line level).toList ++
        ((("," ++ line level).intercalate (e' :: es)).toList ++ tail)) := by
  rw [String.intercalate_cons_cons]
  simp only [String.toList_append, List.append_assoc]
  rfl

theorem readItems_line (nesting fuel level : Nat) (cs : List Char) :
    readItems (readValue .kept nesting) fuel ((line level).toList ++ cs) =
      readItems (readValue .kept nesting) fuel cs := by
  cases fuel with
  | zero => rfl
  | succ fuel => rw [readItems, readItems, readValue_line]

theorem readFields_line (s : Scalars) (value : String → Reader Json) (fuel level : Nat)
    (cs : List Char) :
    readFields s value fuel ((line level).toList ++ cs) = readFields s value fuel cs := by
  cases fuel with
  | zero => rfl
  | succ fuel => rw [readFields, readFields, skipBlanks_line]

theorem head?_intercalate {e : String} {c : Char} (h : e.toList.head? = some c) (separator : String)
    (es : List String) (tail : List Char) :
    ((separator.intercalate (e :: es)).toList ++ tail).head? = some c := by
  obtain ⟨cs, hcs⟩ := List.head?_eq_some_iff.mp h
  cases es with
  | nil =>
    rw [String.intercalate_singleton, hcs]
    rfl
  | cons e' es =>
    rw [String.intercalate_cons_cons, String.append_assoc, String.toList_append, hcs]
    rfl

theorem readValue_array (s : Scalars) (nesting : Nat) (cs : List Char) :
    readValue s nesting ('[' :: cs) =
    match nesting with
    | 0 => none
    | nesting + 1 =>
      match skipBlanks cs with
      | ']' :: rest => some (.array [], rest)
      | rest =>
        (readItems (readValue s nesting) (rest.length + 1) rest).map fun (vs, rest) =>
          (.array vs, rest) := by
  rw [readValue.eq_def]
  rfl

theorem readValue_object (s : Scalars) (nesting : Nat) (cs : List Char) :
    readValue s nesting ('\x7b' :: cs) =
    match nesting with
    | 0 => none
    | nesting + 1 => readObjectTail s (fun _ => readValue s nesting) cs := by
  rw [readValue.eq_def]
  rfl

theorem readValue_array_line (s : Scalars) (nesting level : Nat) {c : Char} (hc : StartsValue c)
    {text : List Char} (h : text.head? = some c) :
    readValue s (nesting + 1) ('[' :: ((line level).toList ++ text)) =
      (readItems (readValue s nesting) (text.length + 1) text).map fun (vs, rest) =>
        (.array vs, rest) := by
  obtain ⟨cs, rfl⟩ := List.head?_eq_some_iff.mp h
  rw [readValue_array, skipBlanks_line, hc.skipBlanks]
  simp only
  split
  · exact absurd (List.cons.inj ‹_›).1 (hc.ne (by decide) rfl)
  · rfl

theorem readValue_object_line (s : Scalars) (nesting level : Nat) {text : List Char}
    (h : text.head? = some '"') :
    readValue s (nesting + 1) ('\x7b' :: ((line level).toList ++ text)) =
      (readFields s (fun _ => readValue s nesting) (text.length + 1) text).map fun (fields, rest) =>
        (.object fields, rest) := by
  obtain ⟨cs, rfl⟩ := List.head?_eq_some_iff.mp h
  rw [readValue_object]
  simp only [readObjectTail, skipBlanks_line]
  rfl

theorem length_indentedItems (level : Nat) (items : List Json) :
    (indentedItems level items).length = items.length := by
  induction items with
  | nil => rfl
  | cons v vs ih => rw [indentedItems, List.length_cons, List.length_cons, ih]

theorem length_indentedFields (level : Nat) (fields : Fields) :
    (indentedFields level fields).length = fields.length := by
  induction fields with
  | nil => rfl
  | cons field fields ih => rw [indentedFields, List.length_cons, List.length_cons, ih]

theorem length_le_fuel (level : Nat) (entries : List String) (tail : List Char) :
    entries.length ≤ ((("," ++ line level).intercalate entries).toList ++ tail).length + 1 := by
  have hseparator : "," ++ line level ≠ "" := fun h => by simpa using congrArg String.toList h
  have hlength := length_le_intercalate hseparator entries
  rw [List.length_append]
  omega

theorem readField (value : String → Reader Json) (fuel : Nat) (key text : String)
    (rest : List Char) :
    readFields .kept value (fuel + 1) ((quote key ++ ": " ++ text).toList ++ rest) =
      (value key (' ' :: (text.toList ++ rest))).bind fun (v, rest) =>
        match skipBlanks rest with
        | ',' :: rest =>
          (readFields .kept value fuel rest).map fun (fields, rest) => ((key, v) :: fields, rest)
        | '\x7d' :: rest => some ([(key, v)], rest)
        | _ => none := by
  have htext : (quote key ++ ": " ++ text).toList ++ rest =
      '"' :: (key.toList.flatMap escapeChar ++ '"' :: ':' :: ' ' :: (text.toList ++ rest)) := by
    rw [String.toList_append, String.toList_append, toList_quote]
    simp
  rw [htext, readFields]
  change (Scalars.kept.string _).bind _ = _
  rw [string_quoted, Option.bind_some]
  rfl

/-! ## Values -/

-- The induction is that of the printer. Each lemma says what the reader makes of its part of the
-- text whatever follows, and a part that nests too deep fails the whole, so that both outcomes are
-- carried at once.
mutual
theorem readValue_indented : (v : Json) → v.NumbersReadBack → (level nesting : Nat) →
    {rest : List Char} →
    EndsNumber rest → readValue .kept nesting ((v.indented level).toList ++ rest) =
      if v.depth ≤ nesting then some (v, rest) else none
  | .null, _, level, nesting, rest, _ =>
    (readValue_null nesting level rest).trans (if_pos (Nat.zero_le _)).symm
  | .bool b, _, level, nesting, rest, _ =>
    (readValue_bool b nesting level rest).trans (if_pos (Nat.zero_le _)).symm
  | .number n, hv, _, nesting, rest, hrest =>
    ((hv n (List.mem_singleton.mpr rfl)).readValue nesting hrest).trans
      (if_pos (Nat.zero_le _)).symm
  | .string s, _, _, nesting, rest, _ =>
    (readValue_quote nesting s rest).trans (if_pos (Nat.zero_le _)).symm
  | .array [], _, level, nesting, rest, _ => by
    have htext : (indented level (.array [])).toList ++ rest = '[' :: ']' :: rest := by
      simp [indented, indentedItems, block]
    rw [htext, readValue_array]
    cases nesting with
    | zero => rfl
    | succ nesting => exact (if_pos (Nat.le_add_left _ _)).symm
  | .array (v :: vs), hv, level, nesting, rest, hrest => by
    have htext : (indented level (.array (v :: vs))).toList ++ rest =
        '[' :: ((line (level + 1)).toList ++
        ((("," ++ line (level + 1)).intercalate (indentedItems (level + 1) (v :: vs))).toList ++
          ((line level).toList ++ ']' :: rest))) := by
      rw [indented, toList_block (by simp [indentedItems])]
      simp only [List.append_assoc]
      rfl
    rw [htext, depth]
    cases nesting with
    | zero => exact readValue_array _ _ _
    | succ nesting =>
      obtain ⟨c, cs, hcs, hc⟩ :=
        starts_indented (v := v) (fun n hn => hv n (List.mem_append_left _ hn)) (level + 1)
      have hfuel := length_le_fuel (level + 1) (indentedItems (level + 1) (v :: vs))
        ((line level).toList ++ ']' :: rest)
      rw [length_indentedItems] at hfuel
      rw [readValue_array_line .kept nesting (level + 1) hc,
        readItems_indented _ (List.cons_ne_nil _ _) hv _ _ _ _ hfuel]
      · simp only [Nat.add_le_add_iff_right]
        split <;> rfl
      · rw [indentedItems]
        exact head?_intercalate (by rw [hcs]; rfl) _ _ _
  | .object [], _, level, nesting, rest, _ => by
    have htext : (indented level (.object [])).toList ++ rest = '\x7b' :: '\x7d' :: rest := by
      simp [indented, indentedFields, block]
    rw [htext, readValue_object]
    cases nesting with
    | zero => rfl
    | succ nesting => exact (if_pos (Nat.le_add_left _ _)).symm
  | .object ((key, v) :: fields), hv, level, nesting, rest, hrest => by
    have htext : (indented level (.object ((key, v) :: fields))).toList ++ rest =
        '\x7b' :: ((line (level + 1)).toList ++
          ((("," ++ line (level + 1)).intercalate
            (indentedFields (level + 1) ((key, v) :: fields))).toList ++
            ((line level).toList ++ '\x7d' :: rest))) := by
      rw [indented, toList_block (by simp [indentedFields])]
      simp only [List.append_assoc]
      rfl
    rw [htext, depth]
    cases nesting with
    | zero => exact readValue_object _ _ _
    | succ nesting =>
      have hfuel := length_le_fuel (level + 1) (indentedFields (level + 1) ((key, v) :: fields))
        ((line level).toList ++ '\x7d' :: rest)
      rw [length_indentedFields] at hfuel
      rw [readValue_object_line .kept nesting (level + 1),
        readFields_indented ((key, v) :: fields) (List.cons_ne_nil _ _) hv _ _ _ _ hfuel]
      · simp only [Nat.add_le_add_iff_right]
        split <;> rfl
      · rw [indentedFields]
        exact head?_intercalate
          (by rw [String.append_assoc, String.toList_append, toList_quote]; rfl) _ _ _
theorem readItems_indented : (items : List Json) → items ≠ [] →
    (∀ n ∈ numbersOfItems items, n.ReadsBack) →
    (level nesting fuel last : Nat) → items.length ≤ fuel → (rest : List Char) →
    readItems (readValue .kept nesting) fuel
      ((("," ++ line level).intercalate (indentedItems level items)).toList ++
      ((line last).toList ++ ']' :: rest)) =
      if depthItems items ≤ nesting then some (items, rest) else none
  | [], hne, _, _, _, _, _, _, _ => absurd rfl hne
  | [v], _, hv, level, nesting, fuel, last, hfuel, rest => by
    obtain ⟨fuel, rfl⟩ := Nat.exists_eq_add_one_of_ne_zero (Nat.ne_of_gt hfuel)
    have hvalue := readValue_indented v (fun n hn => hv n (List.mem_append_left _ hn)) level nesting
      (endsNumber_line last (']' :: rest))
    have hbracket : skipBlanks (']' :: rest) = ']' :: rest := rfl
    simp only [indentedItems, String.intercalate_singleton, readItems, hvalue, depthItems,
      Nat.max_zero]
    by_cases hdepth : v.depth ≤ nesting
    · simp only [hdepth, ↓reduceIte, Option.bind_some, skipBlanks_line, hbracket]
    · simp only [hdepth, ↓reduceIte, Option.bind_none]
  | v :: w :: vs, _, hv, level, nesting, fuel, last, hfuel, rest => by
    obtain ⟨fuel, rfl⟩ := Nat.exists_eq_add_one_of_ne_zero (Nat.ne_zero_of_lt hfuel)
    have hmore := readItems_indented (w :: vs) (List.cons_ne_nil _ _)
      (fun n hn => hv n (List.mem_append_right _ hn))
      level nesting fuel last (Nat.le_of_succ_le_succ hfuel) rest
    have hvalue := fun tail => readValue_indented v (fun n hn => hv n (List.mem_append_left _ hn))
      level nesting
      (endsNumber_comma tail)
    have hcomma (cs : List Char) : skipBlanks (',' :: cs) = ',' :: cs := rfl
    rw [indentedItems] at hmore
    rw [indentedItems, indentedItems, toList_intercalate_line, readItems, hvalue, depthItems]
    by_cases hdepth : v.depth ≤ nesting
    · simp only [hdepth, ↓reduceIte, Option.bind_some, hcomma, readItems_line, hmore, Nat.max_le,
        true_and]
      split <;> rfl
    · simp only [hdepth, ↓reduceIte, Option.bind_none, Nat.max_le, false_and]
theorem readFields_indented : (fields : Fields) → fields ≠ [] →
    (∀ n ∈ numbersOfFields fields, n.ReadsBack) →
    (level nesting fuel last : Nat) → fields.length ≤ fuel → (rest : List Char) →
    readFields .kept (fun _ => readValue .kept nesting) fuel
      ((("," ++ line level).intercalate (indentedFields level fields)).toList ++
        ((line last).toList ++ '\x7d' :: rest)) =
      if depthFields fields ≤ nesting then some (fields, rest) else none
  | [], hne, _, _, _, _, _, _, _ => absurd rfl hne
  | [(key, v)], _, hv, level, nesting, fuel, last, hfuel, rest => by
    obtain ⟨fuel, rfl⟩ := Nat.exists_eq_add_one_of_ne_zero (Nat.ne_of_gt hfuel)
    have hvalue := readValue_indented v (fun n hn => hv n (List.mem_append_left _ hn)) level nesting
      (endsNumber_line last ('\x7d' :: rest))
    have hbrace : skipBlanks ('\x7d' :: rest) = '\x7d' :: rest := rfl
    rw [indentedFields, indentedFields, String.intercalate_singleton, readField, readValue_blank,
      hvalue, depthFields, depthFields, Nat.max_zero]
    by_cases hdepth : v.depth ≤ nesting
    · simp only [hdepth, ↓reduceIte, Option.bind_some, skipBlanks_line, hbrace]
    · simp only [hdepth, ↓reduceIte, Option.bind_none]
  | (key, v) :: (k, w) :: fields, _, hv, level, nesting, fuel, last, hfuel, rest => by
    obtain ⟨fuel, rfl⟩ := Nat.exists_eq_add_one_of_ne_zero (Nat.ne_zero_of_lt hfuel)
    have hmore := readFields_indented ((k, w) :: fields) (List.cons_ne_nil _ _)
      (fun n hn => hv n (List.mem_append_right _ hn)) level nesting fuel last
        (Nat.le_of_succ_le_succ hfuel) rest
    have hvalue := fun tail => readValue_indented v (fun n hn => hv n (List.mem_append_left _ hn))
      level nesting
      (endsNumber_comma tail)
    have hcomma (cs : List Char) : skipBlanks (',' :: cs) = ',' :: cs := rfl
    rw [indentedFields] at hmore
    rw [indentedFields, indentedFields, toList_intercalate_line, readField, readValue_blank, hvalue,
      depthFields]
    by_cases hdepth : v.depth ≤ nesting
    · simp only [hdepth, ↓reduceIte, Option.bind_some, hcomma, readFields_line, hmore, Nat.max_le,
        true_and]
      split <;> rfl
    · simp only [hdepth, ↓reduceIte, Option.bind_none, Nat.max_le, false_and]
end

/-- Indented text is read as the value it was written for, if that nests at most as deep as is read;
else nothing is read. -/
theorem readVerbatim?_pretty {v : Json} (hv : v.NumbersReadBack) :
    readVerbatim? v.pretty = if v.depth ≤ maxNesting then some v else none := by
  have hends : EndsNumber [] := nofun
  have hvalue := readValue_indented v hv 0 maxNesting hends
  rw [List.append_nil] at hvalue
  rw [readVerbatim?, whole?, pretty, hvalue]
  by_cases hdepth : v.depth ≤ maxNesting
  · rw [if_pos hdepth, if_pos hdepth]
    rfl
  · rw [if_neg hdepth, if_neg hdepth]

theorem read?_pretty {v : Json} (hv : v.NumbersReadBack) :
    read? v.pretty = if v.depth ≤ maxNesting then some v.canonical else none := by
  rw [read?, readVerbatim?_pretty hv]
  split <;> rfl

end SqlWeave.Json
