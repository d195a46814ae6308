import SqlWeave.Proofs.DataTypes
import SqlWeave.Proofs.Spelling.SelectList

/-! Column definitions that are read back. The constraints are written in one order, each is read
from its own pieces, and what may stand behind it in that order cannot belong to it. -/

namespace SqlWeave

open SqlWeave.Parser (Nested Reads nested next)
open Render (Item fragments)
open Text (enclose)
open Token (Lexes Piece Quoting)

variable {r : Renderer} {q : Quoting} {opening closing : Char} {d d' d'' x : ColumnDefinition Expr}
  {text : String}
  {ks rest final : List Piece}

/-! ## One constraint -/

/-- What stands behind a definition. -/
def endsDefinition (k : TokenKind) : Bool :=
  k == .eof || k == .symbol .comma || k == .symbol .rightParen

/-- A constraint, if it is given, is written as the text, starts with the token and takes `d` to
`d'`. -/
structure ConstraintSpelled (q : Quoting) (d d' : ColumnDefinition Expr) (given : Bool)
    (first : TokenKind) (ends : TokenKind → Bool) (text : String) (ks : List Piece) : Prop where
  lexes : Lexes q text ks
  absent : given = false → ks = [] ∧ d' = d
  opens : given = true → ∃ k js, ks = k :: js ∧ k.kind = first
  reads : given = true → ∀ n, ks.length < n → ∀ rest, ends (next rest) = true →
    Reads ((nested n).columnConstraint d) (ks ++ rest) (some d') rest

namespace ConstraintSpelled

variable {given : Bool} {first : TokenKind} {ends : TokenKind → Bool}

theorem none (h : d' = d) : ConstraintSpelled q d d' false first ends "" [] where
  lexes := .empty
  absent := fun _ => ⟨rfl, h⟩
  opens := fun h => Bool.noConfusion h
  reads := fun h => Bool.noConfusion h

theorem some {k : Piece} {js : List Piece} (hk : k.kind = first) (hlexes : Lexes q text (k :: js))
    (hreads : ∀ n, (k :: js).length < n → ∀ rest, ends (next rest) = true →
      Reads ((nested n).columnConstraint d) (k :: js ++ rest) (some d') rest) :
    ConstraintSpelled q d d' true first ends text (k :: js) where
  lexes := hlexes
  absent := fun h => Bool.noConfusion h
  opens := fun _ => ⟨k, js, rfl, hk⟩
  reads := fun _ => hreads

/-- The token that comes next is that of the constraint or of what stands behind it. -/
theorem next_of {b : TokenKind → Bool} (h : ConstraintSpelled q d d' given first ends text ks)
    (hfirst : given = true → b first = true) (hrest : given = false → b (next rest) = true) :
    b (next (ks ++ rest)) = true := by
  cases given with
  | true =>
    obtain ⟨k, js, rfl, hk⟩ := h.opens rfl
    rw [List.cons_append, Parser.next_cons, hk]
    exact hfirst rfl
  | false =>
    obtain ⟨rfl, -⟩ := h.absent rfl
    exact hrest rfl

/-- The constraint before those that are read behind it. -/
theorem before (h : ConstraintSpelled q d d' given first ends text ks) {n : Nat}
    (hn : ks.length < n) (hends : given = true → ends (next rest) = true)
    (hrest : ∀ m, rest.length < m → Reads ((nested n).columnConstraints m d') rest x final) :
    ∀ m, (ks ++ rest).length < m →
      Reads ((nested n).columnConstraints m d) (ks ++ rest) x final := by
  intro m hm
  cases given with
  | true =>
    obtain ⟨k, js, rfl, -⟩ := h.opens rfl
    rw [List.length_append, List.length_cons] at hm
    obtain ⟨m, rfl⟩ : ∃ l, m = l + 1 := ⟨m - 1, by omega⟩
    exact (h.reads rfl n hn rest (hends rfl)).bind (hrest m (by omega))
  | false =>
    obtain ⟨rfl, rfl⟩ := h.absent rfl
    exact hrest m hm

end ConstraintSpelled

/-- Behind the last constraint the definition ends. -/
theorem columnConstraints_stop (h : endsDefinition (next rest) = true) (n : Nat) :
    ∀ m, rest.length < m → Reads ((nested n).columnConstraints m d) rest d rest := by
  intro m hm
  obtain ⟨m, rfl⟩ : ∃ l, m = l + 1 := ⟨m - 1, by omega⟩
  have hnone : Reads ((nested n).columnConstraint d) rest none rest := by
    refine .look ?_
    rcases Bool.or_eq_true_iff.mp h with h | h
    · rcases Bool.or_eq_true_iff.mp h with h | h <;> rw [beq_iff_eq.mp h] <;> exact .pure _
    · rw [beq_iff_eq.mp h]
      exact .pure _
  exact hnone.bind (.pure _)

/-! ## Each constraint -/

/-- The expression is written as a text that it is read from again before everything that it leaves
alone. -/
def Expr.ReadsBack (r : Renderer) (e : Expr) : Prop :=
  ∃ text ks, r.expr e = .ok text ∧ Lexes r.config.dialect.quoting text ks ∧ Continues e ks

/-- Whether a comment ends before a token. -/
def endsComment (k : TokenKind) : Bool := k == .keyword .COLLATE || endsDefinition k

/-- The expression is written as a text that it is read from again as an operand of its own. -/
def Expr.ReadsBackAlone (r : Renderer) (e : Expr) : Prop :=
  ∃ text ks, r.expr e = .ok text ∧
    Legible r.config.dialect.quoting (fun i => i.primary) endsComment e text ks

/-- What the reader makes of the parts of a definition. A type that it read is spelled again, if it
is readable. -/
structure ColumnDefinition.Formed (r : Renderer) (d : ColumnDefinition Expr) : Prop where
  column : ∃ name, d.column = .ofText name
  type : d.type.Readable → ∃ text ks, TypeSpelled r d.type text ks
  nullable : ∀ words ∈ d.nullable, words = "not null" ∨ words = "null"
  default : ∀ e ∈ d.defaultValue, e.leads 7 = true
  autoIncrement : ∀ word ∈ d.autoIncrement, word = "auto_increment" ∨ word = "autoincrement"
  unique : ∀ word ∈ d.unique, word = "unique"
  primaryKey : ∀ words ∈ d.primaryKey, words = "primary key"

/-- Any token may stand behind. -/
abbrev endsAnywhere : TokenKind → Bool := fun _ => true

section Constraints

theorem nullable_spelled {value : Option String}
    (h : ∀ words ∈ value, words = "not null" ∨ words = "null") (hd : d.nullable = none) :
    ∃ first ks, (first = .keyword .NOT ∨ first = .keyword .NULL) ∧
      ConstraintSpelled q d { d with nullable := value } value.isSome first endsAnywhere
        (Render.upper? value) ks := by
  cases value with
  | none =>
    exact ⟨.keyword .NULL, [], .inr rfl, .none (by rw [← hd])⟩
  | some words =>
    rcases h words rfl with rfl | rfl
    · refine ⟨_, [.word .NOT, .word .NULL], .inl rfl,
        .some rfl ((Lexes.keyword .NOT).spaced (.keyword .NULL))
        fun n _ rest _ => ?_⟩
      exact .look (.step ((Parser.expectKeyword_reads .NULL).bind (.pure _)))
    · exact ⟨_, [.word .NULL], .inr rfl, .some rfl (.keyword .NULL) fun n _ rest _ =>
        .look (.step (.pure _))⟩

theorem default_spelled {value : Option Expr} (h : ∀ e ∈ value, e.leads 7 = true)
    (hback : ∀ e ∈ value, e.ReadsBack r) (hd : d.defaultValue = none) :
    ∃ text ks, Render.optional "DEFAULT" (value.map r.item) = .ok text ∧
      ConstraintSpelled r.config.dialect.quoting d { d with defaultValue := value } value.isSome
        (.keyword .DEFAULT) endsExpr
        text ks := by
  cases value with
  | none =>
    exact ⟨"", [], rfl, .none (by rw [← hd])⟩
  | some e =>
    obtain ⟨text, ks, hrendered, hlexes, hcontinues⟩ := hback e rfl
    refine ⟨"DEFAULT " ++ text, .word .DEFAULT :: ks, ?_, .some rfl ?_ fun n hn rest hrest => ?_⟩
    · show (do return "DEFAULT" ++ " " ++ (← r.expr e)) = _
      rw [hrendered]
      rfl
    · exact (Lexes.keyword .DEFAULT).spaced hlexes
    · rw [List.length_cons] at hn
      have hleaves := e.leaves_of_endsExpr hrest
      have hweak : (Operator.power? (next rest)).all (· < 7) = true := by
        simp only [endsExpr, Bool.and_eq_true, Option.isNone_iff_eq_none] at hrest
        rw [hrest.2]
        rfl
      exact .look (.step ((hcontinues.reads (by omega) (h e rfl) hleaves hweak).bind (.pure _)))

theorem autoIncrement_spelled {value : Option String}
    (h : ∀ word ∈ value, word = "auto_increment" ∨ word = "autoincrement")
    (hd : d.autoIncrement = none) :
    ∃ first ks, (first = .identifier "AUTO_INCREMENT" ∨ first = .identifier "AUTOINCREMENT") ∧
      ConstraintSpelled q d { d with autoIncrement := value } value.isSome first endsAnywhere
        (Render.upper? value) ks := by
  cases value with
  | none =>
    exact ⟨.identifier "AUTO_INCREMENT", [], .inl rfl, .none (by rw [← hd])⟩
  | some word =>
    have hwords : ∀ word ∈ ["auto_increment", "autoincrement"],
        Token.isWord (Text.upper word) = true ∧
        Token.wordKind (Text.upper word) = .identifier (Text.upper word) ∧
          Text.lower (Text.upper word) = word ∧
        (Text.sameAscii (Text.upper word) "auto_increment" ||
          Text.sameAscii (Text.upper word) "autoincrement") = true := by
      decide +kernel
    obtain ⟨hword, hkind, hlower, hsame⟩ := hwords word (by simpa using h word rfl)
    refine ⟨.identifier (Text.upper word), [.plain (Text.upper word)], ?_,
      .some rfl (.plain hword hkind) fun n _ rest _ => ?_⟩
    · rcases h word rfl with rfl | rfl
      · exact .inl (by decide +kernel)
      · exact .inr (by decide +kernel)
    · refine .look ?_
      show Reads (if (Text.sameAscii (Text.upper word) "auto_increment" ||
          Text.sameAscii (Text.upper word) "autoincrement") = true
        then _ else _) _ _ _
      rw [hsame, if_pos rfl]
      refine .step ?_
      show Reads (pure (some { d with autoIncrement := some (Text.lower (Text.upper word)) })) _ _ _
      rw [hlower]
      exact .pure _

theorem unique_spelled {value : Option String} (h : ∀ word ∈ value, word = "unique")
    (hd : d.unique = none) :
    ∃ ks, ConstraintSpelled q d { d with unique := value } value.isSome (.keyword .UNIQUE)
      (· != .keyword .KEY)
      (Render.upper? value) ks := by
  cases value with
  | none =>
    exact ⟨[], .none (by rw [← hd])⟩
  | some word =>
    obtain rfl := h word rfl
    refine ⟨[.word .UNIQUE], .some rfl (.keyword .UNIQUE) fun n _ rest hrest => .look (.step ?_)⟩
    have hkey : (next rest == .keyword .KEY) = false :=
      beq_eq_false_iff_ne.mpr (bne_iff_ne.mp hrest)
    exact (Reads.stops (Parser.isAtKeyword_asks .KEY) hkey).bind (.pure _)

theorem primaryKey_spelled {value : Option String} (h : ∀ words ∈ value, words = "primary key")
    (hd : d.primaryKey = none) :
    ∃ ks, ConstraintSpelled q d { d with primaryKey := value } value.isSome (.keyword .PRIMARY)
      endsAnywhere (Render.upper? value) ks := by
  cases value with
  | none =>
    exact ⟨[], .none (by rw [← hd])⟩
  | some words =>
    obtain rfl := h words rfl
    refine ⟨[.word .PRIMARY, .word .KEY],
      .some rfl ((Lexes.keyword .PRIMARY).spaced (.keyword .KEY))
      fun n _ rest _ => ?_⟩
    exact .look (.step ((Parser.expectKeyword_reads .KEY).bind (.pure _)))

theorem comment_spelled {value : Option Expr} (hback : ∀ e ∈ value, e.ReadsBackAlone r)
    (hd : d.comment = none) :
    ∃ text ks, Render.optional "COMMENT" (value.map r.item) = .ok text ∧
      ConstraintSpelled r.config.dialect.quoting d { d with comment := value } value.isSome
        (.identifier "COMMENT") endsComment
        text ks := by
  cases value with
  | none =>
    exact ⟨"", [], rfl, .none (by rw [← hd])⟩
  | some e =>
    obtain ⟨text, ks, hrendered, hlegible⟩ := hback e rfl
    refine ⟨"COMMENT " ++ text, .plain "COMMENT" :: ks, ?_, .some rfl ?_ fun n hn rest hrest => ?_⟩
    · show (do return "COMMENT" ++ " " ++ (← r.expr e)) = _
      rw [hrendered]
      rfl
    · exact (Lexes.plain (show Token.isWord "COMMENT" = true by decide) (by decide)).spaced
        hlegible.lexes
    · rw [List.length_cons] at hn
      exact .look (.step ((hlegible.reads n (by omega) rest hrest).bind (.pure _)))

theorem collate_spelled {value : Option String}
    (h : ∀ name ∈ value, Token.isWord name = true ∧
      ∀ word ∈ Keyword.lookup? name, word.isUnreserved)
    (hd : d.collate = none) :
    ∃ ks, ConstraintSpelled q d { d with collate := value } value.isSome (.keyword .COLLATE)
      endsAnywhere
      ((value.map ("COLLATE " ++ ·)).getD "") ks := by
  cases value with
  | none =>
    exact ⟨[], .none (by rw [← hd])⟩
  | some name =>
    obtain ⟨hword, hfree⟩ := h name rfl
    have hname : isName name = true := bne_iff_ne.mpr fun hstar => by
      rw [hstar] at hword
      exact absurd hword (by decide)
    refine ⟨[.word .COLLATE, .ofWord name], .some rfl ?_ fun n _ rest _ => ?_⟩
    · exact (Lexes.keyword .COLLATE).spaced (.word hword)
    · exact .look (.step ((Parser.identifier_reads (name?_ofWord ⟨hname, hfree⟩)).bind (.pure _)))

end Constraints

/-! ## Definitions -/

/-- A definition that is read as what it is written as: its parts are, its name is not the star, its
collation needs no quotes, and where it has a default something stands between that and the
collation. -/
structure ColumnDefinition.Readable (r : Renderer) (d : ColumnDefinition Expr) : Prop where
  named : d.column.column ≠ .star
  type : d.type.Readable
  default : ∀ e ∈ d.defaultValue, e.ReadsBack r
  comment : ∀ e ∈ d.comment, e.ReadsBackAlone r
  collate : ∀ name ∈ d.collate, Token.isWord name = true ∧
    ∀ word ∈ Keyword.lookup? name, word.isUnreserved
  apart : d.defaultValue.isSome → d.collate.isSome → d.autoIncrement.isSome ∨ d.unique.isSome ∨
    d.primaryKey.isSome ∨
    d.comment.isSome

theorem endsDefinition_elim {b : TokenKind → Bool} (heof : b .eof = true)
    (hcomma : b (.symbol .comma) = true) (hparen : b (.symbol .rightParen) = true) {k : TokenKind}
    (h : endsDefinition k = true) : b k = true := by
  rcases Bool.or_eq_true_iff.mp h with h | h
  · rcases Bool.or_eq_true_iff.mp h with h | h
    · exact beq_iff_eq.mp h ▸ heof
    · exact beq_iff_eq.mp h ▸ hcomma
  · exact beq_iff_eq.mp h ▸ hparen

theorem columnDefinition_spelled (hr : r.Standard opening closing) (hd : d.Formed r)
    (hread : d.Readable r) : ∃ text ks,
    r.expr (.mk (.columnDefinition d)) = .ok text ∧
      Legible r.config.dialect.quoting (fun i => i.columnDefinition) endsDefinition d text ks := by
  obtain ⟨column, type, nullable, default, autoIncrement, unique, primaryKey, comment, collate⟩ := d
  obtain ⟨⟨name, rfl⟩, htype, hnullable, hdefault, hauto, hunique, hprimary⟩ := hd
  obtain ⟨hstar, hreadable, hdefaultBack, hcommentBack, hcollate, hapart⟩ := hread
  obtain ⟨typeText, typeKs, htype⟩ := htype hreadable
  have hname : name ≠ "*" := by
    rintro rfl
    exact hstar rfl
  -- Each constraint takes the definition one field further, in the order in which they are written.
  obtain ⟨nullFirst, nullKs, hnullFirst, hnull⟩ := nullable_spelled (q := r.config.dialect.quoting)
    (d := .ofName name type) hnullable rfl
  obtain ⟨defaultText, defaultKs, hdefaultText, hdefault⟩ := default_spelled (r := r)
    (d := { ColumnDefinition.ofName name type with nullable }) hdefault hdefaultBack rfl
  obtain ⟨autoFirst, autoKs, hautoFirst, hauto⟩ :=
    autoIncrement_spelled (q := r.config.dialect.quoting)
    (d := { ColumnDefinition.ofName name type with nullable, defaultValue := default }) hauto rfl
  obtain ⟨uniqueKs, hunique⟩ := unique_spelled (q := r.config.dialect.quoting)
    (d := { ColumnDefinition.ofName name type with
      nullable, defaultValue := default, autoIncrement }) hunique rfl
  obtain ⟨primaryKs, hprimary⟩ := primaryKey_spelled (q := r.config.dialect.quoting)
    (d := { ColumnDefinition.ofName name type with
      nullable, defaultValue := default, autoIncrement, unique }) hprimary rfl
  obtain ⟨commentText, commentKs, hcommentText, hcomment⟩ := comment_spelled (r := r)
    (d := { ColumnDefinition.ofName name type with
      nullable, defaultValue := default, autoIncrement, unique, primaryKey }) hcommentBack rfl
  obtain ⟨collateKs, hcollate⟩ := collate_spelled (q := r.config.dialect.quoting)
    (d := { ColumnDefinition.ofName name type with
      nullable, defaultValue := default, autoIncrement, unique, primaryKey, comment }) hcollate rfl
  have hcolumn : Render.columnName r.config.dialect
      ((ColumnName.ofText name : ColumnName Expr).map r.item) =
      .ok (enclose opening closing name) := by
    rw [ColumnName.ofText, if_neg hname, ← Renderer.ident_eq hr.delimiters hname]
    rfl
  have hrendered :
      r.expr (.mk (.columnDefinition ⟨.ofText name, type, nullable, default, autoIncrement, unique,
          primaryKey, comment, collate⟩)) =
        .ok (fragments [enclose opening closing name, typeText, Render.upper? nullable,
          defaultText, Render.upper? autoIncrement, Render.upper? unique,
          Render.upper? primaryKey, commentText, (collate.map ("COLLATE " ++ ·)).getD ""]) := by
    rw [r.expr_mk]
    refine (Renderer.node_columnDefinition hr.registry _).trans ?_
    show (do
      let default ← Render.optional "DEFAULT" (default.map r.item)
      let comment ← Render.optional "COMMENT" (comment.map r.item)
      let name ← Render.columnName r.config.dialect
          ((ColumnName.ofText name : ColumnName Expr).map r.item)
      let type ← Render.dataType (type.map r.item)
      return fragments [name, type, Render.upper? nullable, default, Render.upper? autoIncrement,
        Render.upper? unique, Render.upper? primaryKey, comment,
          (collate.map ("COLLATE " ++ ·)).getD ""]) = _
    rw [hdefaultText, hcommentText, hcolumn, htype.rendered]
    rfl
  have hlexes := Lexes.fragment (.enclosed hr.delimiters name) <| .fragment htype.legible.lexes <|
    .fragment hnull.lexes <| .fragment hdefault.lexes <| .fragment hauto.lexes <|
      .fragment hunique.lexes <|
    .fragment hprimary.lexes <| .fragment hcomment.lexes <| .fragment hcollate.lexes .noFragments
  refine ⟨_, _, hrendered, hlexes, fun n hn rest hrest => ?_⟩
  simp only [List.append_assoc, List.append_nil, List.length_append] at hn ⊢
  -- What comes next behind a constraint is the first token of a later one, or ends the definition.
  have hbehindComment {b : TokenKind → Bool}
      (hcollation : collate.isSome → b (.keyword .COLLATE) = true)
      (hend : ∀ k, endsDefinition k = true → b k = true) : b (next (collateKs ++ rest)) = true :=
    hcollate.next_of hcollation fun _ => hend _ hrest
  have hbehindUnique {b : TokenKind → Bool} (hkey : b (.keyword .PRIMARY) = true)
      (hremark : b (.identifier "COMMENT") = true)
      (hcollation : primaryKey.isSome = false → comment.isSome = false → collate.isSome →
        b (.keyword .COLLATE) = true) (hend : ∀ k, endsDefinition k = true → b k = true) :
      b (next (primaryKs ++ (commentKs ++ (collateKs ++ rest)))) = true :=
    hprimary.next_of (fun _ => hkey) fun hkeyless =>
      hcomment.next_of (fun _ => hremark) fun hsilent =>
      hbehindComment (hcollation hkeyless hsilent) hend
  have hbehindDefault (hgiven : default.isSome = true) :
      endsExpr (next (autoKs ++ (uniqueKs ++ (primaryKs ++ (commentKs ++ (collateKs ++ rest)))))) =
        true := by
    refine hauto.next_of (fun _ => by rcases hautoFirst with rfl | rfl <;> decide) fun hauto => ?_
    refine hunique.next_of (fun _ => rfl) fun hunique => ?_
    refine hbehindUnique rfl rfl (fun hprimary hcomment hcollate => ?_) fun _ =>
      endsDefinition_elim rfl rfl rfl
    simpa [hauto, hunique, hprimary, hcomment] using hapart hgiven hcollate
  have htypeEnds :
      endsType (next (nullKs ++ (defaultKs ++ (autoKs ++ (uniqueKs ++ (primaryKs ++ (commentKs ++
      (collateKs ++ rest)))))))) = true := by
    refine hnull.next_of (fun _ => by rcases hnullFirst with rfl | rfl <;> decide) fun _ => ?_
    refine hdefault.next_of (fun _ => by decide) fun _ => ?_
    refine hauto.next_of (fun _ => by rcases hautoFirst with rfl | rfl <;> decide) fun _ => ?_
    refine hunique.next_of (fun _ => by decide) fun _ => ?_
    exact hbehindUnique (by decide) (by decide) (fun _ _ _ => by decide) fun _ =>
      endsDefinition_elim (by decide) (by decide) (by decide)
  have hbehindKey :
      (next (primaryKs ++ (commentKs ++ (collateKs ++ rest))) != .keyword .KEY) = true :=
    hbehindUnique (b := (· != .keyword .KEY)) rfl rfl (fun _ _ _ => rfl) fun _ =>
      endsDefinition_elim (b := (· != .keyword .KEY)) rfl rfl rfl
  have hcommentEnds : endsComment (next (collateKs ++ rest)) = true :=
    hbehindComment (fun _ => rfl) fun _ => endsDefinition_elim rfl rfl rfl
  have hconstraints := hnull.before (n := n) (by omega) (fun _ => rfl) <|
    hdefault.before (n := n) (by omega) hbehindDefault <|
    hauto.before (n := n) (by omega) (fun _ => rfl) <|
    hunique.before (n := n) (by omega) (fun _ => hbehindKey) <|
    hprimary.before (n := n) (by omega) (fun _ => rfl) <|
    hcomment.before (n := n) (by omega) (fun _ => hcommentEnds) <|
    hcollate.before (n := n) (by omega) (fun _ => rfl) (columnConstraints_stop hrest n)
  refine (Parser.identifier_reads rfl).bind ((Parser.addColumn_reads none name).bind ?_)
  exact (htype.legible.reads n (by omega) _ htypeEnds).bind
    (.rounds (hconstraints _ (Nat.lt_succ_self _)))

end SqlWeave
