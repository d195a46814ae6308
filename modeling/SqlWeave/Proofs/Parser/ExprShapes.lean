import SqlWeave.Proofs.DecimalLiterals
import SqlWeave.Proofs.Parser.Precedence
import SqlWeave.Proofs.Parser.TypeTokens
import SqlWeave.Proofs.Tree.Layout

/-! What literals, operands and types are read as. A literal is written as one token, and every node
that is made of tokens of a text has the shape that its own text keeps. -/

namespace SqlWeave

open Decimal (Binary64 DecimalText ExponentText isDigits isDigits_iff word64?)
open Token (IsExponent IsFraction IsNumeral Kept Plain Quoting isWording scanNumber_all)
open SqlWeave.Parser (numberLiteral variableOf)

variable {q : Quoting} {text word : String} {c : Char}

/-! ## Words -/

namespace Text

theorem isWording_toUpper (c : Char) : isWording c.toUpper = isWording c := by
  by_cases h : 'a'.val ≤ c.val ∧ c.val ≤ 'z'.val
  · have hall : ∀ n < 123, 97 ≤ n →
        isWording (Char.ofNat n).toUpper = isWording (Char.ofNat n) := by decide
    have hlow : 97 ≤ c.toNat := h.1
    have hhigh : c.toNat ≤ 122 := h.2
    have hc := hall c.toNat (by omega) hlow
    rwa [Char.ofNat_toNat] at hc
  · have hsame : c.toUpper = c := dif_neg h
    rw [hsame]

theorem isWording_toLower (c : Char) : isWording c.toLower = isWording c := by
  rw [← isWording_toUpper c.toLower, toUpper_toLower, isWording_toUpper]

theorem ascii_of_isWording (h : isWording c = true) : c.toNat < 0x80 := by
  have hcases : c.isAlpha = true ∨ c = '_' ∨ c = ' ' := by simpa [isWording, or_assoc] using h
  rcases hcases with halpha | rfl | rfl
  · exact toNat_of_isAlpha halpha
  · decide
  · decide

theorem upper_wording (h : text.toList.all isWording = true) :
    (upper text).toList.all isWording = true := by
  have hall := List.all_eq_true.mp h
  rw [upper, String.toList_ofList, List.all_eq_true]
  intro d hd
  obtain ⟨c, hc, hd⟩ := List.mem_flatMap.mp hd
  rw [upperChar, if_pos (ascii_of_isWording (hall c hc)), List.mem_singleton] at hd
  rw [hd, isWording_toUpper]
  exact hall c hc

theorem wording_of_asciiUpper (h : (asciiUpper text).toList.all isWording = true) :
    text.toList.all isWording = true := by
  have hsame : isWording ∘ Char.toUpper = isWording := funext isWording_toUpper
  rwa [asciiUpper, String.toList_ofList, List.all_map, hsame] at h

theorem wording_of_sameAscii (h : sameAscii text word = true)
    (hword : word.toList.all isWording = true) :
    text.toList.all isWording = true := by
  have hsame : isWording ∘ Char.toLower = isWording := funext isWording_toLower
  have hlower (s : String) :
      (s.toList.map Char.toLower).all isWording = s.toList.all isWording := by
    rw [List.all_map, hsame]
  rw [← hlower text, beq_iff_eq.mp h, hlower word, hword]

end Text

namespace Token.Plain

theorem upper (h : text.toList.all isWording = true) : Plain q (Text.upper text) :=
  .wording (Text.upper_wording h)

/-- A word that is one of these in whatever case. -/
theorem upperOf {words : List String} (hwords : words.all (·.toList.all isWording) = true)
    (h : words.contains (Text.asciiUpper text) = true) : Plain q (Text.upper text) :=
  .upper (Text.wording_of_asciiUpper (List.all_eq_true.mp hwords _ (List.contains_iff_mem.mp h)))

end Token.Plain

/-! ## Numbers -/

theorem Decimal.ExponentText.isExponent {cs : List Char} {e : ℤ} (h : ExponentText cs e) :
    IsExponent cs := by
  cases h with
  | missing => exact .inl rfl
  | @unsigned mark ds hmark hds =>
    obtain ⟨hsome, hall⟩ := isDigits_iff.mp hds
    cases ds with
    | nil => exact absurd rfl hsome
    | cons d ds =>
      obtain ⟨hd, hds⟩ := List.forall_mem_cons.mp hall
      exact .inr ⟨mark, d, ds, hmark, .inl hd, hds, rfl⟩
  | positive hmark hds =>
    exact .inr ⟨_, '+', _, hmark, .inr (.inl rfl), (isDigits_iff.mp hds).2, rfl⟩
  | negative hmark hds =>
    exact .inr ⟨_, '-', _, hmark, .inr (.inr rfl), (isDigits_iff.mp hds).2, rfl⟩

theorem Decimal.DecimalText.plain {v : ℚ} (h : DecimalText text.toList v) : Plain q text := by
  generalize hcs : text.toList = cs at h
  cases h with
  | @whole ds exponent e hds hexponent =>
    obtain ⟨hsome, hall⟩ := isDigits_iff.mp hds
    cases ds with
    | nil => exact absurd rfl hsome
    | cons c ds =>
      obtain ⟨hc, hds⟩ := List.forall_mem_cons.mp hall
      have hnumeral : IsNumeral c (ds ++ exponent) :=
        ⟨.inl hc, scanNumber_all hds (.inl rfl) hexponent.isExponent c⟩
      exact hnumeral.plain hcs
  | @point ds fraction exponent e hds hfraction hexponent =>
    obtain ⟨hsome, hall⟩ := isDigits_iff.mp hfraction
    cases fraction with
    | nil => exact absurd rfl hsome
    | cons d fraction =>
      cases ds with
      | nil =>
        have hnumeral : IsNumeral '.' (d :: fraction ++ exponent) :=
          ⟨.inr ⟨rfl, (List.forall_mem_cons.mp hall).1⟩,
            scanNumber_all hall (.inl rfl) hexponent.isExponent '.'⟩
        exact hnumeral.plain hcs
      | cons c ds =>
        obtain ⟨hc, hds⟩ := List.forall_mem_cons.mp hds
        have hnumeral : IsNumeral c (ds ++ ('.' :: d :: fraction ++ exponent)) :=
          ⟨.inl hc, scanNumber_all hds (.inr ⟨d, fraction, hall, rfl⟩) hexponent.isExponent c⟩
        exact hnumeral.plain hcs

theorem Decimal.Binary64.finite_of_ofDecimal {n : ℕ} {e : ℤ} {x : Binary64}
    (h : Binary64.ofDecimal false n e = some x) :
    x.Finite := by
  rcases Nat.eq_zero_or_pos n with rfl | hn
  · cases (ofDecimal_zero false e).symm.trans h
    exact ⟨rfl, canonical_zero false, by decide⟩
  · obtain ⟨y, hsign, hy, -, -, hdecimal⟩ := exists_ofDecimal false hn e
    rw [h] at hdecimal
    split at hdecimal
    · cases hdecimal
    · cases hdecimal
      exact ⟨hsign, hy, not_lt.mp ‹_›⟩

/-- The literal that is made of a number's text. -/
theorem numberLiteral_shaped (h : Kept q (.number text)) : (numberLiteral text).node.Shaped q := by
  unfold numberLiteral
  split
  · rename_i n hn
    exact Plain.digits (Decimal.isDigits_toString n)
  · split
    · exact h
    · split
      · rename_i x hx
        obtain ⟨⟨n, e⟩, -, hx⟩ := Option.bind_eq_some_iff.mp hx
        obtain ⟨v, htext, -⟩ := (Binary64.finite_of_ofDecimal hx).text_denotes
        exact htext.plain
      · exact h

/-! ## Variables -/

theorem splitAt_ne_nil (mark : Char) (cs : List Char) : Text.splitAt mark cs ≠ [] := by
  cases cs with
  | nil => simp [Text.splitAt]
  | cons c cs =>
    unfold Text.splitAt
    split
    · simp
    · split <;> simp

theorem intercalate_splitAt (mark : Char) (cs : List Char) :
    [mark].intercalate (Text.splitAt mark cs) = cs := by
  induction cs with
  | nil => rfl
  | cons c cs ih =>
    obtain ⟨piece, pieces, hsplit⟩ := List.exists_cons_of_ne_nil (splitAt_ne_nil mark cs)
    rw [hsplit] at ih
    unfold Text.splitAt
    rw [hsplit]
    split
    · rename_i hmark
      rw [hmark, ← ih]
      rfl
    · cases pieces with
      | nil => exact congrArg (c :: ·) ih
      | cons next pieces => exact congrArg (c :: ·) ih

/-- A variable is written as the token that it is read from. -/
theorem sessionVariable_variableOf (text : String) :
    Render.sessionVariable (variableOf text) = text := by
  let parts := (Text.splitAt '.' (text.toList.dropWhile (· == '@'))).map String.ofList
  have hparts : parts.headD "" :: parts.drop 1 = parts := by
    obtain ⟨piece, pieces, hsplit⟩ :=
      List.exists_cons_of_ne_nil (splitAt_ne_nil '.' (text.toList.dropWhile (· == '@')))
    simp only [parts, hsplit, List.map_cons]
    rfl
  have hjoined : (".".intercalate parts).toList = text.toList.dropWhile (· == '@') := by
    rw [String.toList_intercalate, List.map_map]
    have hlists : (String.toList ∘ String.ofList) = id := funext fun cs => String.toList_ofList ..
    rw [hlists, List.map_id]
    exact intercalate_splitAt '.' _
  have hwritten : Render.sessionVariable (variableOf text) =
      String.ofList (text.toList.takeWhile (· == '@')) ++
        ".".intercalate (parts.headD "" :: parts.drop 1) ++ "" := rfl
  rw [hwritten, hparts, ← String.toList_inj, String.toList_append, String.toList_append, hjoined,
    String.toList_ofList, List.takeWhile_append_dropWhile]
  exact List.append_nil _

theorem variable_shaped (h : Kept q (.variable text)) :
    (Node.variable (variableOf text)).Shaped q := by
  show Plain q (Render.sessionVariable (variableOf text))
  rwa [sessionVariable_variableOf]

/-! ## Texts between quotes -/

theorem string_shaped (value : String) : (Expr.string value).node.Shaped q :=
  (Token.Stands.delimited .quote value).plain rfl

theorem doubleQuoted_shaped (value : String) : (Expr.text .doubleQuoted value).node.Shaped q := by
  by_cases hnames : q.doubleQuoteNames = true
  · exact (Token.Stands.delimited (.nameQuote hnames) value).plain rfl
  · exact (Token.Stands.delimited (.doubleQuote (by simpa using hnames)) value).plain rfl

end SqlWeave

namespace SqlWeave.Parser

open Token (Kept Plain Quoting)
open Render (upper?)

variable {q : Quoting} {K : TokenKind → Prop} {i : Nested} {mark : Symbol}

/-! ## Marks and words -/

theorem Makes.branch {α : Type} {post : α → Prop} {c : Prop} [Decidable c] {p r : Parser α}
    (hp : c → Makes K post p) (hr : ¬c → Makes K post r) : Makes K post (if c then p else r) := by
  split
  · exact hp ‹_›
  · exact hr ‹_›

theorem isAt_makes : Makes K (fun b => b = true → K (.symbol mark)) (isAt mark) :=
  .andThen .kind fun _ hk => .pure fun hb => beq_iff_eq.mp hb ▸ hk

theorem eat_makes : Makes K (fun b => b = true → K (.symbol mark)) (eat mark) :=
  .andThen isAt_makes fun _ hb => .branch (fun h => .bind fun _ => .pure fun _ => hb h) fun _ =>
    .pure fun h => nomatch h

theorem expect_makes : Makes K (fun _ => K (.symbol mark)) (expect mark) :=
  .andThen eat_makes fun _ hb => .branch (fun h => .pure (hb h)) fun _ => .unexpected

/-- What every start shows is shown if there is any item. -/
theorem Makes.started {α : Type} {P : Prop} {start : Parser Bool} {item : Parser α} [Control item]
    [Control start] (hstart : Makes K (fun b => b = true → P) start) :
    Makes K (fun xs => xs ≠ [] → P) (Parser.many start item) := by
  refine .bind fun n => ?_
  cases n with
  | zero => exact .outOfRounds
  | succ n =>
    refine .andThen hstart fun b hb => .branch (fun h => .bind fun _ => ?_) fun _ => .pure fun h =>
      absurd rfl h
    exact .andThen (.manyWithin (Control.makes K) n) fun _ _ => .pure fun _ => hb h

/-- One of the words is ahead, in whatever case. -/
theorem OnText.word {src : Source} {s : ParserState} (hs : OnText K src s) {words : List String}
    (h : words.any s.current.kind.isWord = true) :
    ∃ word ∈ words, Text.sameAscii (Token.slice src.text s.current.span) word = true := by
  obtain ⟨word, hword, hsame⟩ := List.any_eq_true.mp h
  obtain ⟨name, hname, hsame⟩ := TokenKind.isWord_eq_true.mp hsame
  have hspells : s.current.kind.Spells (Token.slice src.text s.current.span) :=
    Token.forall_tokenize (P := fun k => k.kind.Spells k.text) trivial (Token.scan_spells _)
      hs.current
  rw [hname] at hspells
  exact ⟨word, hword, by rwa [show Token.slice _ _ = name from hspells]⟩

/-! ## Clauses -/

theorem direction?_shaped : Makes (Kept q) (fun x => Plain q (upper? x)) Nested.direction? := by
  have hasc : "ASC".toList.all Token.isWording = true := by decide
  have hdesc : "DESC".toList.all Token.isWording = true := by decide
  exact .bind fun _ => .ite (.pure (.upper hasc))
    (.bind fun _ => .ite (.pure (.upper hdesc)) (.pure .empty))

theorem nulls?_shaped : Makes (Kept q) (fun x => Plain q (upper? x)) Nested.nulls? := by
  refine .shows (Control.makes (Kept q)) fun src s x t hs hr _ => ?_
  obtain ⟨taken, u, htaken, hr⟩ := Returns.bind hr
  have hu := (Makes.returns (Control.makes (Kept q)) hs htaken).2
  split at hr
  · obtain ⟨ahead, v, hahead, hr⟩ := Returns.bind hr
    cases hahead
    split at hr
    · obtain ⟨position, w, hposition, hr⟩ := Returns.bind hr
      obtain ⟨rfl, rfl⟩ := currentText_returns hposition
      obtain ⟨_, w, -, hr⟩ := Returns.bind hr
      obtain ⟨rfl, -⟩ := Returns.pure hr
      obtain ⟨word, hword, hsame⟩ := hu.word ‹_›
      have hwords : ∀ word ∈ ["first", "last"], word.toList.all Token.isWording = true := by decide
      have hposition := Text.upper_wording (Text.wording_of_sameAscii hsame (hwords word hword))
      refine Plain.upper ?_
      rw [String.toList_append, List.all_append, hposition]
      rfl
    · exact absurd hr not_returns_unexpected
  · obtain ⟨rfl, -⟩ := Returns.pure hr
    exact .empty

theorem suffixWord_known :
    Makes K (fun x => ∀ word, x = some word → word ∈ typeSuffixes) Nested.suffixWord := by
  refine .shows (Control.makes K) fun src s x t hs hr _ => ?_
  obtain ⟨ahead, v, hahead, hr⟩ := Returns.bind hr
  cases hahead
  split at hr
  · obtain ⟨text, w, htext, hr⟩ := Returns.bind hr
    obtain ⟨rfl, rfl⟩ := currentText_returns htext
    obtain ⟨_, w, -, hr⟩ := Returns.bind hr
    obtain ⟨rfl, -⟩ := Returns.pure hr
    obtain ⟨suffix, hsuffix, hsame⟩ := hs.word ‹_›
    have hsmall : ∀ word ∈ typeSuffixes, word.toList.all (·.toNat < 0x80) = true ∧
        word.toList.map Char.toLower = word.toList := by decide
    intro word hword
    obtain rfl := Option.some.inj hword
    rwa [Text.lower_of_sameAscii hsame (hsmall suffix hsuffix).1 (hsmall suffix hsuffix).2]
  · obtain ⟨rfl, -⟩ := Returns.pure hr
    exact fun word h => nomatch h

theorem suffixWords_known (n : Nat) :
    Makes K (fun words => ∀ word ∈ words, word ∈ typeSuffixes) (Nested.suffixWords n) := by
  induction n with
  | zero => exact .outOfRounds
  | succ n ih =>
    refine .andThen suffixWord_known fun word hword => ?_
    cases word with
    | none => exact .pure (List.forall_mem_nil _)
    | some word =>
      exact .andThen ih fun words hwords =>
        .pure (List.forall_mem_cons.mpr ⟨hword word rfl, hwords⟩)

theorem bracketPair_kept :
    Makes (Kept q) (fun b => b = true → q.bracketNames = false) Nested.bracketPair := by
  refine .andThen isAt_makes fun b hb => .bind fun _ => .branch (fun h => ?_) fun _ =>
    .pure fun h => nomatch h
  exact .bind fun _ => .pure fun _ => hb (Bool.and_eq_true_iff.mp h).1 rfl

/-! ## All that nests -/

/-- A part has its shape, and so have the expressions in it. -/
abbrev ShapedPart {α : Type} [SizeOf α] [HasSlots α] (q : Quoting) (P : α → Prop) (x : α) : Prop :=
  P x ∧ AllShaped q x

/-- All that nests has the shape of what is read. A query is in parentheses only where they are read
around it. -/
structure Nested.Shaped (q : Quoting) (i : Nested) : Prop where
  expr : ∀ least, Makes (Kept q) (Expr.Shaped q) (i.expr least)
  operand : Makes (Kept q) (Expr.Shaped q) i.operand
  primary : Makes (Kept q) (Expr.Shaped q) i.primary
  query : Makes (Kept q) (ShapedPart q fun x => x.Shaped q ∧ x.parens = false) i.query
  dataType : Makes (Kept q) (ShapedPart q (DataType.Shaped q)) i.dataType

namespace Nested.Shaped

/-! ## Clauses -/

section Clauses

variable (h : i.Shaped q)
include h

theorem parenthesizedQuery :
    Makes (Kept q) (ShapedPart q fun x => x.Shaped q ∧ x.parens = false) i.parenthesizedQuery :=
  .andThen h.query fun _ hq => .bind fun _ => .pure hq

theorem exprs : Makes (Kept q) (fun es => ∀ e ∈ es, e.Shaped q) i.exprs :=
  (Makes.commaSeparated (h.expr 0)).mono fun _ hes => hes.2

theorem exprsUpTo (closing : Symbol) :
    Makes (Kept q) (fun es => ∀ e ∈ es, e.Shaped q) (i.exprsUpTo closing) := by
  refine .bind fun _ => .ite (.pureBind ?_) (.andThen h.exprs fun _ hes => ?_)
  · exact .bind fun _ => .pure (List.forall_mem_nil _)
  · exact .bind fun _ => .pure hes

theorem orderItem : Makes (Kept q) (ShapedPart q (OrderItem.Shaped q)) i.orderItem := by
  refine .andThen (h.expr 0) fun e he => .andThen direction?_shaped fun direction hdirection => ?_
  exact .andThen nulls?_shaped fun nulls hnulls =>
    .pure ⟨⟨hdirection, hnulls⟩, allShaped_expr.mpr he⟩

theorem orderBy? :
    Makes (Kept q) (ShapedPart q fun items => ∀ i ∈ items.getD [], i.Shaped q) i.orderBy? := by
  refine .bind fun _ => .ite (.bind fun _ => ?_) (.pure ⟨List.forall_mem_nil _, Slot.all_nil⟩)
  refine .andThen (Makes.commaSeparated h.orderItem) fun items hitems =>
    .pure ⟨fun i hi => (hitems.2 i hi).1, ?_⟩
  rw [AllShaped, slots_some]
  exact allShaped_list.mpr fun i hi => (hitems.2 i hi).2

theorem partitionBy? : Makes (Kept q) (AllShaped q) i.partitionBy? := by
  refine .bind fun _ => .ite (.bind fun _ => ?_) (.pure Slot.all_nil)
  refine .andThen h.exprs fun es hes => .pure ?_
  rw [AllShaped, slots_some]
  refine allShaped_list.mpr fun i hi => ?_
  obtain ⟨e, he, rfl⟩ := List.mem_map.mp hi
  exact allShaped_expr.mpr (hes e he)

theorem windowSpec : Makes (Kept q) (ShapedPart q (WindowSpec.Shaped q)) i.windowSpec := by
  refine .bind fun k => ?_
  split
  · exact .bind fun _ => .pure ⟨⟨fun _ => ⟨rfl, rfl⟩, List.forall_mem_nil _⟩, Slot.all_nil⟩
  · refine .bind fun _ => .andThen h.partitionBy? fun _ hp => .andThen h.orderBy? fun _ ho => ?_
    exact .bind fun _ => .bind fun _ =>
      .pure ⟨⟨fun h => (nomatch h), ho.1⟩, Slot.all_append.mpr ⟨hp, ho.2⟩⟩

theorem over? : Makes (Kept q) (ShapedPart q fun w => ∀ v ∈ w, v.Shaped q) i.over? := by
  refine .bind fun _ => .ite (.andThen h.windowSpec fun w hw => .pure ⟨?_, ?_⟩)
    (.pure ⟨fun _ hv => (nomatch hv), Slot.all_nil⟩)
  · rintro v ⟨⟩
    exact hw.1
  · rw [AllShaped, slots_some]
    exact hw.2

/-! ## Types -/

omit h in
theorem string_made (value : String) : (Expr.string value).Shaped q :=
  Expr.shaped_mk.mpr ⟨string_shaped value, Slot.all_nil⟩

omit h in
theorem ofText_shaped (text : String) :
    Slot.All (Expr.Shaped q) (ColumnName.slots (.ofText text)) :=
  ColumnName.all_slots (ColumnName.ofText_ne_computed text)

theorem typeArgument : Makes (Kept q) (Expr.Shaped q) i.typeArgument := by
  refine .bind fun _ => .bind fun _ => .ite ?_ (.bind fun k => ?_)
  · refine .bind fun name => .andThen h.dataType fun t ht =>
      .pure (Expr.shaped_mk.mpr ⟨⟨name, t, rfl, ht.1⟩, ?_⟩)
    have hcolumn := Slot.all_append.mpr ⟨ofText_shaped name, ht.2⟩
    exact Slot.all_append.mpr ⟨Slot.all_append.mpr ⟨hcolumn, Slot.all_nil⟩, Slot.all_nil⟩
  · split
    · exact .bind fun _ => .pure (string_made _)
    · exact .andThen h.dataType fun t ht => .pure (Expr.shaped_mk.mpr ht)

theorem typeArguments (name : String) :
    Makes (Kept q) (ShapedPart q fun t => t.length.isSome = true → t.args = [])
      (i.typeArguments { name }) := by
  refine .bind fun _ => .ite ?_ (.pure ⟨fun _ => rfl, Slot.all_nil⟩)
  refine .bind fun k => ?_
  split
  · exact .bind fun _ => .pureBind (.bind fun _ => .pure ⟨fun _ => rfl, Slot.all_nil⟩)
  · refine .andThen (Makes.commaSeparated h.typeArgument) fun args hargs => ?_
    exact .pureBind (.bind fun _ =>
      .pure ⟨fun h => absurd h Bool.false_ne_true, allShaped_exprs.mpr hargs.2⟩)

theorem readDataType : Makes (Kept q) (ShapedPart q (DataType.Shaped q)) i.readDataType := by
  refine .bind fun _ => .bind fun _ => .andThen (h.typeArguments _) fun t ht => ?_
  refine .andThen (.started bracketPair_kept) fun brackets hbrackets => .bind fun n => ?_
  have hwords : ∀ word ∈ typeSuffixes, word.toList.all Token.isWording = true := by decide
  refine .andThen (suffixWords_known n) fun suffix hsuffix =>
    .pure ⟨⟨ht.1, fun harray => hbrackets ?_, ?_⟩, ht.2⟩
  · simpa using harray
  · exact fun word hword => .upper (hwords word (hsuffix word hword))

end Clauses

/-! ## Operands -/

section Operands

variable (h : i.Shaped q)
include h

omit h in
theorem columnOf_shaped (qualifiers : List String) (column : Option String) :
    Makes (Kept q) (Expr.Shaped q) (columnOf qualifiers column) := by
  exact .bind fun _ => .pure (Expr.shaped_mk.mpr ⟨⟨ColumnName.ofText_ne_computed _, rfl⟩,
    ofText_shaped _⟩)

omit h in
theorem list_shaped {es : List Expr} (hes : ∀ e ∈ es, e.Shaped q) {parens : Bool} :
    (Expr.mk (.list es none parens)).Shaped q :=
  Expr.shaped_mk.mpr ⟨rfl, allShaped_exprs.mpr hes⟩

omit h in
theorem call_shaped (name : String) {es : List Expr} (hes : ∀ e ∈ es, e.Shaped q)
    {w : Option (WindowSpec Expr)} (hw : ShapedPart q (fun w => ∀ v ∈ w, v.Shaped q) w) :
    (Expr.mk (.call name (some (.list es)) w none false)).Shaped q := by
  refine Expr.shaped_mk.mpr ⟨⟨?_, hw.1, rfl⟩,
    Slot.all_append.mpr ⟨Slot.all_optionals.mpr (allShaped_option.mpr ?_), hw.2⟩⟩
  · rintro e ⟨⟩
    exact ⟨es, rfl⟩
  · rintro e ⟨⟩
    exact list_shaped hes

theorem aggregateCall {name : String} (hname : Plain q (Text.upper name)) :
    Makes (Kept q) (Expr.Shaped q) (i.aggregateCall name) := by
  refine .bind fun _ => .andThen h.exprs fun args hargs =>
    .andThen h.orderBy? fun order horder => ?_
  have hseparator : Makes (Kept q) (fun x => ∀ e ∈ x, e.Shaped q) i.separator? :=
    .bind fun _ => .ite (.andThen h.primary fun e he => .pure (by rintro _ ⟨⟩; exact he))
      (.pure fun _ he => nomatch he)
  refine .andThen hseparator fun separator hs => .bind fun _ => .andThen h.over? fun w hw =>
    .pure ?_
  refine Expr.shaped_mk.mpr ⟨⟨hname, horder.1, hw.1⟩, Slot.all_cons.mpr ⟨?_, Slot.all_append.mpr
    ⟨Slot.all_append.mpr ⟨horder.2, Slot.all_optionals.mpr (allShaped_option.mpr hs)⟩, hw.2⟩⟩⟩
  rintro e ⟨⟩
  split
  · exact hargs _ List.mem_cons_self
  · exact list_shaped hargs

theorem plainCall (name : String) : Makes (Kept q) (Expr.Shaped q) (i.plainCall name) := by
  refine .andThen (h.exprsUpTo _) fun args hargs => .andThen h.over? fun w hw => ?_
  have hnone : ShapedPart q (fun w => ∀ v ∈ w, v.Shaped q) (none : Option (WindowSpec Expr)) :=
    ⟨fun _ hv => (nomatch hv), Slot.all_nil⟩
  split
  · refine .ite (.pure (Expr.shaped_mk.mpr ⟨trivial, Slot.all_cons.mpr ⟨?_, Slot.all_nil⟩⟩))
      (.pure (call_shaped name hargs hnone))
    rintro e ⟨⟩
    exact hargs _ List.mem_cons_self
  · rename_i w
    refine .branch (fun hname => .pure
      (Expr.shaped_mk.mpr ⟨⟨.upperOf (by decide) hname, ?_, hw.1 w rfl⟩, ?_⟩))
      fun _ => .pure (call_shaped name hargs hw)
    · intro e he
      split at he
      · cases he
      · cases he
        exact ⟨args, rfl⟩
    · refine Slot.all_append.mpr ⟨Slot.all_optionals.mpr (allShaped_option.mpr fun e he => ?_),
        slots_some w ▸ hw.2⟩
      split at he
      · cases he
      · cases he
        exact list_shaped hargs
  · exact .pure (call_shaped name hargs hnone)

theorem callOf (name : String) : Makes (Kept q) (Expr.Shaped q) (i.callOf name) := by
  refine .bind fun _ => .bind fun _ => .branch (fun hname => ?_) fun _ => h.plainCall name
  exact h.aggregateCall (.upperOf (by decide) (Bool.and_eq_true_iff.mp hname).1)

omit h in
theorem pairUp_shaped (es : List Expr) (hes : ∀ e ∈ es, e.Shaped q) : AllShaped q (pairUp es) := by
  match es with
  | [] => exact Slot.all_nil
  | [e] => exact Slot.all_nil
  | key :: value :: more =>
    have hmore := pairUp_shaped more fun e he => hes e (by simp [he])
    have hkey : AllShaped q key := allShaped_expr.mpr (hes key (by simp))
    have hvalue : AllShaped q value := allShaped_expr.mpr (hes value (by simp))
    exact Slot.all_append.mpr ⟨Slot.all_append.mpr ⟨hkey, hvalue⟩, hmore⟩

theorem mapLiteral {keyword : String} (hkeyword : Plain q (Text.upper keyword)) :
    Makes (Kept q) (Expr.Shaped q) (i.mapLiteral keyword) := by
  rw [Built.mapLiteral_eq]
  have hitems : Makes (Kept q) (fun es => q.bracketNames = false ∧ ∀ e ∈ es, e.Shaped q)
      (do expect .leftBracket; i.exprsUpTo .rightBracket) :=
    .andThen expect_makes fun _ hbracket => (h.exprsUpTo _).mono fun es hes => ⟨hbracket rfl, hes⟩
  refine .blaming hitems fun items e hitems he => ?_
  split at he
  · cases he
    exact Expr.shaped_mk.mpr ⟨⟨hkeyword, hitems.1⟩, pairUp_shaped items hitems.2⟩
  · cases he

theorem path (first : String) : Makes (Kept q) (Expr.Shaped q) (i.path first) := by
  refine .bind fun _ => .bind fun tail => ?_
  split
  exact .ite (columnOf_shaped _ _) (.bind fun _ => .ite (h.callOf _) (columnOf_shaped _ _))

theorem nameExpr : Makes (Kept q) (Expr.Shaped q) i.nameExpr := by
  refine .bind fun k => .bind fun name =>
    .ite (h.path name) (.bind fun _ => .ite (h.callOf name) ?_)
  have hcall : (Node.call name none none none false).Shaped q :=
    ⟨fun _ he => (nomatch he), fun _ hv => (nomatch hv), rfl⟩
  have hniladic : (Expr.mk (.call name none none none false)).Shaped q :=
    Expr.shaped_mk.mpr ⟨hcall, Slot.all_nil⟩
  refine .ite (.pure hniladic) ?_
  refine .andThen isAt_makes fun _ hbracket => .branch (fun hb => ?_) fun _ => h.path name
  have hwords : ∀ word ∈ ["ARRAY", "MAP"], word.toList.all Token.isWording = true := by decide
  have hname {word : String} (hword : word ∈ ["ARRAY", "MAP"])
      (hsame : (Text.asciiUpper name == word) = true) :
      Plain q (Text.upper name) :=
    .upper (Text.wording_of_asciiUpper (by rw [beq_iff_eq.mp hsame]; exact hwords word hword))
  refine .branch (fun harray => ?_) fun _ =>
    .branch (fun hmap => h.mapLiteral (hname (by simp) hmap)) fun _ => h.path name
  exact .bind fun _ => .andThen (h.exprsUpTo _) fun es hes =>
    .pure (Expr.shaped_mk.mpr ⟨⟨hname (by simp) harray, rfl, hbracket hb rfl⟩,
      allShaped_exprs.mpr hes⟩)

theorem parenthesizedExpr : Makes (Kept q) (Expr.Shaped q) i.parenthesizedExpr := by
  refine .bind fun _ => .ite (.andThen h.parenthesizedQuery fun x hx =>
    .pure (Expr.shaped_mk.mpr ⟨hx.1.1.parenthesized, hx.2⟩)) ?_
  refine .andThen (h.expr 0) fun first hfirst => .andThen (Makes.many (h.expr 0)) fun more hmore =>
    .bind fun _ => ?_
  exact .ite (.pure hfirst.parenthesized)
    (.pure (list_shaped (List.forall_mem_cons.mpr ⟨hfirst, hmore⟩)))

theorem caseArm : Makes (Kept q) (AllShaped q) i.caseArm := by
  refine .andThen (h.expr 0) fun c hc => .bind fun _ => .andThen (h.expr 0) fun r hr => .pure ?_
  exact Slot.all_cons.mpr ⟨by rintro _ ⟨⟩; exact hc, allShaped_expr.mpr hr⟩

theorem caseExpr : Makes (Kept q) (Expr.Shaped q) i.caseExpr := by
  refine .bind fun _ => .ite (.andThen .pureNone ?arms)
    (.andThen (h.expr 0) fun _ he => .andThen (.pureSome he) ?arms)
  intro subject hsubject
  refine .andThen (Makes.many h.caseArm) fun arms harms => .ite .unexpected (.bind fun _ => ?_)
  have hcase {otherwise : List (CaseArm Expr)} (hotherwise : AllShaped q otherwise) :
      (Expr.mk (.case subject (arms ++ otherwise) false)).Shaped q := by
    refine Expr.shaped_mk.mpr ⟨trivial,
      Slot.all_append.mpr ⟨Slot.all_optionals.mpr (allShaped_option.mpr hsubject), ?_⟩⟩
    exact allShaped_list.mpr (List.forall_mem_append.mpr ⟨harms, allShaped_list.mp hotherwise⟩)
  refine .ite (.andThen (h.expr 0) fun e he => .pureBind (.bind fun _ => .pure (hcase ?_)))
    (.pureBind (.bind fun _ => .pure (hcase Slot.all_nil)))
  exact allShaped_list.mpr (List.forall_mem_singleton.mpr (allShaped_expr.mpr he))

theorem castExpr : Makes (Kept q) (Expr.Shaped q) i.castExpr := by
  refine .bind fun _ => .andThen (h.expr 0) fun e he => .bind fun _ =>
    .andThen h.dataType fun t ht => .bind fun _ => .pure ?_
  exact Expr.shaped_mk.mpr ⟨⟨.upper (by decide), ht.1⟩,
    Slot.all_cons.mpr ⟨by rintro _ ⟨⟩; exact he, ht.2⟩⟩

theorem existsExpr : Makes (Kept q) (Expr.Shaped q) i.existsExpr := by
  refine .bind fun _ => .andThen h.parenthesizedQuery fun x hx => .pure ?_
  have hquery : (Expr.query x.parenthesized).Shaped q :=
    Expr.shaped_mk.mpr ⟨hx.1.1.parenthesized, hx.2⟩
  have hfront : "EXISTS" ∈ frontOperators := by decide
  exact Expr.shaped_mk.mpr ⟨hfront, allShaped_expr.mpr hquery⟩

theorem intervalExpr : Makes (Kept q) (Expr.Shaped q) i.intervalExpr := by
  refine .andThen h.operand fun e he => .bind fun k => ?_
  split
  · exact .bind fun _ => .pure (Expr.shaped_mk.mpr ⟨trivial, allShaped_expr.mpr he⟩)
  · exact .pure (Expr.shaped_mk.mpr ⟨trivial, allShaped_expr.mpr he⟩)

theorem extractExpr : Makes (Kept q) (Expr.Shaped q) i.extractExpr := by
  refine .bind fun _ => .bind fun _ => .bind fun _ => .andThen (h.expr 0) fun e he => ?_
  exact .bind fun _ => .pure (Expr.shaped_mk.mpr ⟨trivial, allShaped_expr.mpr he⟩)

theorem matchColumn : Makes (Kept q) (ShapedPart q ColumnRef.Shaped) i.matchColumn := by
  refine .andThen h.nameExpr fun e he => ?_
  obtain ⟨n⟩ := e
  cases n
  case column c => exact .pure (Expr.shaped_mk.mp he)
  all_goals exact .unexpected

theorem fullTextSearch : Makes (Kept q) (Expr.Shaped q) i.fullTextSearch := by
  refine .bind fun _ => .andThen (Makes.commaSeparated h.matchColumn) fun cs hcs =>
    .bind fun _ => ?_
  refine .bind fun _ => .bind fun _ => .andThen h.operand fun e he => .bind fun _ => .bind fun _ =>
    .pure ?_
  refine Expr.shaped_mk.mpr ⟨⟨.upper (by decide), .upper (by decide), fun c hc => (hcs.2 c hc).1⟩,
    ?_⟩
  exact Slot.all_append.mpr ⟨allShaped_list.mpr fun c hc => (hcs.2 c hc).2, allShaped_expr.mpr he⟩

theorem structField : Makes (Kept q) (Expr.Shaped q) i.structField :=
  .andThen h.primary fun _ hkey => .bind fun _ => .andThen (h.expr 0) fun _ hvalue =>
    .pure (Expr.shaped_mk.mpr ⟨rfl,
      Slot.all_cons.mpr ⟨by rintro _ ⟨⟩; exact hkey, allShaped_expr.mpr hvalue⟩⟩)

theorem structFields (n : Nat) :
    Makes (Kept q) (fun es => ∀ e ∈ es, e.Shaped q) (i.structFields n) := by
  induction n with
  | zero => exact .outOfRounds
  | succ n ih =>
    refine .bind fun _ => .ite (.pure (List.forall_mem_nil _))
      (.andThen h.structField fun e he => .bind fun _ => ?_)
    refine .ite (.andThen ih fun es hes => .pure ?_) (.pure (List.forall_mem_singleton.mpr he))
    exact List.forall_mem_cons.mpr ⟨he, hes⟩

theorem structLiteral : Makes (Kept q) (Expr.Shaped q) i.structLiteral :=
  .bind fun n => .andThen (h.structFields n) fun _ hes => .bind fun _ =>
    .pure (Expr.shaped_mk.mpr ⟨rfl, allShaped_exprs.mpr hes⟩)

theorem wordExpr (word : Keyword) : Makes (Kept q) (Expr.Shaped q) (i.wordExpr word) := by
  refine .bind fun _ => .ite ?_ (.ite h.nameExpr .unexpected)
  exact .bind fun _ => .bind fun _ => h.callOf _

omit h in
theorem leaf_shaped {e : Expr} (he : e.node.Shaped q) (hslots : e.node.slots = []) :
    e.Shaped q := by
  obtain ⟨n⟩ := e
  exact Expr.shaped_mk.mpr ⟨he, hslots ▸ Slot.all_nil⟩

theorem keywordExpr (word : Keyword) : Makes (Kept q) (Expr.Shaped q) (i.keywordExpr word) := by
  have hdefault : Plain q "DEFAULT" := .wording (by decide)
  unfold Nested.keywordExpr
  split
  case h_4 => exact .bind fun _ => .pure (leaf_shaped hdefault rfl)
  case h_5 => exact .bind fun _ => h.caseExpr
  case h_6 => exact .bind fun _ => h.castExpr
  case h_7 => exact .bind fun _ => h.existsExpr
  case h_8 => exact .bind fun _ => h.intervalExpr
  case h_9 => exact .bind fun _ => h.extractExpr
  case h_10 => exact .bind fun _ => h.fullTextSearch
  case h_11 => exact h.wordExpr _
  all_goals exact .bind fun _ => .pure (leaf_shaped trivial rfl)

omit h in
theorem number_shaped {text : String} (htext : Kept q (.number text)) :
    (numberLiteral text).Shaped q := by
  refine leaf_shaped (numberLiteral_shaped htext) ?_
  unfold numberLiteral
  split
  · rfl
  · split
    · rfl
    · split <;> rfl

omit h in
theorem star_shaped : Expr.star.Shaped q :=
  Expr.shaped_mk.mpr ⟨⟨ColumnName.ofText_ne_computed "*", rfl⟩, ofText_shaped "*"⟩

theorem readPrimary : Makes (Kept q) (Expr.Shaped q) i.readPrimary := by
  have hplaceholder : Plain q "?" :=
    (Token.Stands.token rfl (by decide) rfl rfl rfl fun h => absurd h (by decide)).plain rfl
  refine .andThen .kind fun k hk => ?_
  split
  case h_1 => exact .bind fun _ => .pure (number_shaped hk)
  case h_2 => exact .bind fun _ => .pure (string_made _)
  case h_3 => exact .bind fun _ => .pure (leaf_shaped (doubleQuoted_shaped _) rfl)
  case h_4 => exact .bind fun _ => .pure (leaf_shaped hk rfl)
  case h_5 => exact .bind fun _ => .pure (leaf_shaped (variable_shaped hk) rfl)
  case h_6 => exact .bind fun _ => .pure (leaf_shaped hk rfl)
  case h_7 => exact .bind fun _ => .pure (leaf_shaped hplaceholder rfl)
  case h_8 => exact .bind fun _ => .pure star_shaped
  case h_9 => exact .bind fun _ => h.parenthesizedExpr
  case h_10 =>
    exact .bind fun _ => .andThen (h.exprsUpTo _) fun es hes =>
      .pure (Expr.shaped_mk.mpr ⟨⟨.empty, rfl, hk rfl⟩, allShaped_exprs.mpr hes⟩)
  case h_11 => exact .bind fun _ => h.structLiteral
  case h_12 word => exact h.keywordExpr word
  case h_13 => exact h.nameExpr
  case h_14 => exact h.nameExpr
  case h_15 => exact .unexpected

end Operands

/-! ## Operators -/

section Operators

variable (h : i.Shaped q)
include h

omit h in
theorem leading_front {k : TokenKind} {front : String × Nat}
    (hk : Operator.leading? k = some front) :
    front.1 ∈ frontOperators := by
  unfold Operator.leading? at hk
  split at hk <;> cases hk <;> decide

theorem readOperand : Makes (Kept q) (Expr.Shaped q) i.readOperand := by
  refine .bind fun k => ?_
  split
  · rename_i front power hfront
    exact .bind fun _ => .andThen (h.expr power) fun e he =>
      .pure (Expr.shaped_mk.mpr ⟨leading_front hfront, allShaped_expr.mpr he⟩)
  · exact h.readPrimary

theorem subscript : Makes (Kept q) (Expr.Shaped q) i.subscript :=
  .andThen (h.expr 0) fun _ he => .bind fun _ => .pure he

theorem postfixForm {left : Expr} (hleft : left.Shaped q) :
    Makes (Kept q) (Expr.Shaped q) (i.postfixForm left) := by
  refine .bind fun _ => .ite ?_ (.andThen isAt_makes fun b hb =>
    .branch (fun htrue => ?_) fun _ => ?_)
  · refine .andThen h.dataType fun t ht => .pure ?_
    exact Expr.shaped_mk.mpr ⟨⟨.upper (by decide), ht.1⟩,
      Slot.all_cons.mpr ⟨by rintro _ ⟨⟩; exact hleft, ht.2⟩⟩
  · refine .andThen (Makes.many h.subscript) fun es hes => .pure ?_
    exact Expr.shaped_mk.mpr ⟨hb htrue rfl,
      Slot.all_cons.mpr ⟨by rintro _ ⟨⟩; exact hleft, allShaped_exprs.mpr hes⟩⟩
  · refine .bind fun _ => .bind fun _ =>
      .pure (Expr.shaped_mk.mpr ⟨rfl, Slot.all_optionals.mpr (allShaped_option.mpr ?_)⟩)
    rintro _ ⟨⟩
    exact hleft

theorem membership : Makes (Kept q) (Expr.Shaped q) i.membership := by
  refine .bind fun _ => .bind fun _ => .ite ?_ ?_
  · refine .andThen h.query fun x hx => .pureBind (.bind fun _ => .pure ?_)
    exact Expr.shaped_mk.mpr ⟨hx.1.1.parenthesized, hx.2⟩
  · exact .andThen h.exprs fun es hes => .pureBind (.bind fun _ => .pure (list_shaped hes))

theorem range (power : Nat) : Makes (Kept q) (Expr.Shaped q) (i.range power) :=
  .andThen (h.expr power) fun _ hlow => .bind fun _ => .andThen (h.expr power) fun _ hhigh =>
    .pure (list_shaped (List.forall_mem_cons.mpr ⟨hlow, List.forall_mem_singleton.mpr hhigh⟩))

omit h in
theorem binary_shaped {left right : Expr} (hleft : left.Shaped q) (hright : right.Shaped q)
    (operator : String) :
    (left.binary operator right).Shaped q :=
  Expr.shaped_mk.mpr ⟨trivial, Slot.all_cons.mpr ⟨by rintro _ ⟨⟩; exact hleft,
    allShaped_expr.mpr hright⟩⟩

section Left

variable {left : Expr} (hleft : left.Shaped q)
include hleft

theorem predicate (negation : String) (power : Nat) :
    Makes (Kept q) (Expr.Shaped q) (i.predicate left negation power) := by
  refine .bind fun _ => .ite (.andThen h.membership fun e he => .pure (binary_shaped hleft he _))
    (.bind fun _ => ?_)
  refine .ite (.andThen (h.range _) fun e he => .pure (binary_shaped hleft he _))
    (.bind fun k => ?_)
  split
  · exact .bind fun _ => .andThen (h.expr _) fun e he => .pure (binary_shaped hleft he _)
  · exact .unexpected

theorem operatorForm (power : Nat) :
    Makes (Kept q) (fun x => ∀ e ∈ x, e.Shaped q) (i.operatorForm left power) := by
  refine .bind fun operator => ?_
  cases operator with
  | none => exact .pureNone
  | some operator =>
    exact .bind fun _ => .andThen (h.expr _) fun e he => .pureSome (binary_shaped hleft he _)

theorem infixForm (power : Nat) :
    Makes (Kept q) (fun x => ∀ e ∈ x, e.Shaped q) (i.infixForm left power) := by
  refine .bind fun k => ?_
  split
  · exact .bind fun _ => .bind fun _ => .andThen (h.expr _) fun e he =>
      .pureSome (binary_shaped hleft he _)
  · refine .bind fun _ => .ite (.bind fun _ => ?_) .pureNone
    exact .andThen (h.predicate hleft _ _) fun e he => .pureSome he
  · exact .andThen (h.predicate hleft _ _) fun e he => .pureSome he
  · exact .andThen (h.predicate hleft _ _) fun e he => .pureSome he
  · exact h.operatorForm hleft power

theorem operators (least n : Nat) : Makes (Kept q) (Expr.Shaped q) (i.operators least n left) := by
  induction n generalizing left with
  | zero => exact .outOfRounds
  | succ n ih =>
    refine .bind fun k =>
      .ite (.ite (.pure hleft) (.andThen (h.postfixForm hleft) fun e he => ih he)) ?_
    split
    · exact .pure hleft
    · refine .ite (.pure hleft) (.andThen (h.infixForm hleft _) fun form hform => ?_)
      cases form with
      | none => exact .pure hleft
      | some e => exact ih (hform e rfl)

end Left

theorem readExpr (least : Nat) : Makes (Kept q) (Expr.Shaped q) (i.readExpr least) :=
  .andThen h.readOperand fun _ hleft => .bind fun n => h.operators hleft least n

end Operators

end Nested.Shaped

end SqlWeave.Parser
