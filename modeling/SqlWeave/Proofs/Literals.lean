import SqlWeave.Proofs.Parser.StatementMakes
import SqlWeave.Proofs.Spelling.Operand
import SqlWeave.Proofs.TableList

/-! Literals between quotes, read under one dialect and written under another. A literal keeps the
quotes it had: single quotes are quotes of strings everywhere, double quotes only where names stand
between backticks. -/

namespace SqlWeave

open SqlWeave.Parser (parseExpr)
open Token (Delimits Lexes Quoting scan tokenize)

namespace Token

theorem scan_doubleQuoted {q : Quoting} {c : Char} {cs : List Char} {value : String}
    (h : (scan q c cs).1 = .doubleQuoted value) : q.doubleQuoteNames = false := by
  revert h
  refine scan_elim (P := fun x => x.1 = .doubleQuoted value → q.doubleQuoteNames = false) q c cs
    (fun _ _ _ h => by cases h) (fun _ _ _ _ _ h => by cases h) (fun hd => ?_)
      (fun _ h => by cases h) (fun _ h => by cases h)
    (fun _ => ?_) (fun _ => ?_) (fun _ _ => ?_) (fun h => by cases h)
  · cases hd with
    | doubleQuote h => exact fun _ => h
    | bracket | quote | nameQuote | backtick =>
      exact scanDelimited_fst (P := fun k => k = .doubleQuoted value → q.doubleQuoteNames = false)
        (fun _ h => by cases h) (fun h => by cases h) cs
  · exact scanColon_fst (P := fun k => k = .doubleQuoted value → q.doubleQuoteNames = false)
      (fun _ h => by cases h) (fun _ h => by cases h) cs
  · exact scanHex_fst (P := fun k => k = .doubleQuoted value → q.doubleQuoteNames = false)
      (fun _ h => by cases h) (fun _ h => by cases h) cs
  · unfold scanWord
    simp only
    split <;> exact fun h => by cases h

/-- There are strings between double quotes only where names stand between backticks. -/
theorem doubleQuoted_mem {d : Dialect} {text value : String} {a : Token} (ha : a ∈ tokenize d text)
    (hkind : a.kind = .doubleQuoted value) : d.identifierQuote = .backtick := by
  have hquoting : d.quoting.doubleQuoteNames = false :=
    forall_tokenize (P := fun k => k.kind = .doubleQuoted value →
      d.quoting.doubleQuoteNames = false)
      (fun h => by cases h) (fun _ _ => scan_doubleQuoted) ha hkind
  simpa [Dialect.quoting] using hquoting

/-- The kinds of the tokens of a text with known pieces. -/
theorem Lexes.kinds {d : Dialect} {text : String} {ks : List Piece} (h : Lexes d.quoting text ks) :
    (tokenize d text).map Token.kind = ks.map Piece.kind ++ [.eof] := by
  have hpieces := congrArg (List.map Piece.kind) h.finished
  rwa [pieces, List.map_map, List.map_append] at hpieces

end Token

/-- The kind, the value and the parentheses of a literal that is kept as text. -/
def Expr.text? (e : Expr) : Option (TextKind × String × Bool) :=
  match e.node with
  | .text kind value parens => some (kind, value, parens)
  | _ => none

theorem Expr.text?_eq_some {e : Expr} {kind : TextKind} {value : String} {parens : Bool}
    (h : e.text? = some (kind, value, parens)) : e.node = .text kind value parens := by
  unfold text? at h
  split at h
  · cases h
    assumption
  · cases h

/-- The kinds of the tokens that a node is written as. -/
def Renderer.tokenKinds (r : Renderer) (n : Node Expr) : Render.Result (List TokenKind) :=
  (r.expr (.mk n)).map fun sql => (tokenize r.config.dialect sql).map Token.kind

/-- A token by itself or between parentheses. -/
def literalKinds (parens : Bool) (kind : TokenKind) : List TokenKind :=
  if parens then [.symbol .leftParen, kind, .symbol .rightParen, .eof] else [kind, .eof]

theorem Renderer.tokenKinds_text {r : Renderer} {kind : TextKind} {value : String} {k : Token.Piece}
    (h : Lexes r.config.dialect.quoting (Render.textLiteral kind value) [k]) (parens : Bool) :
    r.tokenKinds (.text kind value parens) = .ok (literalKinds parens k.kind) := by
  have hrendered : r.expr (.mk (.text kind value parens)) =
      .ok (Text.parenthesize parens (Render.textLiteral kind value)) := by
    rw [r.expr_mk]
    rfl
  have hkinds :
      (tokenize r.config.dialect (Text.parenthesize parens (Render.textLiteral kind value))).map
        Token.kind = literalKinds parens k.kind := by
    cases parens with
    | true => exact h.inParens.kinds
    | false => exact h.kinds
  rw [tokenKinds, hrendered, ← hkinds]
  rfl

/-- A string between single quotes stays one under every dialect. One between double quotes comes
only from a dialect with backticks, and is a name under every dialect without. -/
theorem literal_tokens {d : Dialect} {text : String} {least : Nat} {e : Expr} {refs : References}
    (h : parseExpr d text least = .ok (e, refs)) (r : Renderer) (value : String) (parens : Bool) :
    (e.HasNode (.text .string value parens) →
      r.tokenKinds (.text .string value parens) = .ok (literalKinds parens (.string value))) ∧
    (e.HasNode (.text .doubleQuoted value parens) → d.identifierQuote = .backtick ∧
      r.tokenKinds (.text .doubleQuoted value parens) = .ok (literalKinds parens
        (if r.config.dialect.identifierQuote = .backtick then .doubleQuoted value
          else .quotedIdentifier value))) := by
  refine ⟨fun _ => ?_, fun hnode => ⟨?_, ?_⟩⟩
  · have hlexes : Lexes r.config.dialect.quoting (Render.textLiteral .string value) [_] :=
      .string value
    exact Renderer.tokenKinds_text hlexes parens
  · have hbuilt := Parser.parseExpr_built h
      (K := fun k => ∀ value, k = .doubleQuoted value → d.identifierQuote = .backtick)
      fun a ha _ hkind => Token.doubleQuoted_mem ha hkind
    exact hbuilt.hasNode hnode _ rfl value rfl
  · split
    · rename_i hquote
      have hlexes : Lexes r.config.dialect.quoting (Render.textLiteral .doubleQuoted value) [_] :=
        .delimited (.doubleQuote (by simp [Dialect.quoting, hquote])) value
      exact Renderer.tokenKinds_text hlexes parens
    · rename_i hquote
      have hlexes : Lexes r.config.dialect.quoting (Render.textLiteral .doubleQuoted value) [_] :=
        .delimited (.nameQuote (by simp [Dialect.quoting, hquote])) value
      exact Renderer.tokenKinds_text hlexes parens

/-- The texts on the two sides of an operator. -/
def Expr.sideTexts (e : Expr) :
    Option (TextKind × String × Bool) × Option (TextKind × String × Bool) :=
  match e.node with
  | .binary _ left right _ => (left.text?, right.text?)
  | _ => (none, none)

/-- Strings on both sides of a comparison. -/
def comparedText : String := "'it''s' = (\"b\")"

theorem literal_tokens_compared :
    ∃ e refs, parseExpr .mySql comparedText 0 = .ok (e, refs) ∧
      e.HasNode (.text .string "it's" false) ∧ e.HasNode (.text .doubleQuoted "b" true) ∧
      ({ config := ⟨.transactSql, .strict⟩ } : Renderer).tokenKinds (.text .string "it's" false) =
        .ok [.string "it's", .eof] ∧
      ({ config := ⟨.hive, .strict⟩ } : Renderer).tokenKinds (.text .doubleQuoted "b" true) =
        .ok [.symbol .leftParen, .doubleQuoted "b", .symbol .rightParen, .eof] := by
  obtain ⟨⟨e, refs⟩, h, hsides⟩ :=
    ok_of_toOption (x := parseExpr .mySql comparedText 0) (fun x => x.1.sideTexts)
    (v := (some (.string, "it's", false), some (.doubleQuoted, "b", true))) (by decide +kernel)
  obtain ⟨n⟩ := e
  simp only [Expr.sideTexts, Expr.node] at hsides
  split at hsides
  · rename_i operator left right parens
    obtain ⟨hleft, hright⟩ := Prod.mk.inj hsides
    have hstring :
        (Expr.mk (.binary operator left right parens)).HasNode (.text .string "it's" false) :=
      .inr ⟨.expr left, left, .here (by simp [Node.slots]), rfl, Expr.text?_eq_some hleft⟩
    have hdouble :
        (Expr.mk (.binary operator left right parens)).HasNode (.text .doubleQuoted "b" true) :=
      .inr ⟨.expr right, right, .here (by simp [Node.slots]), rfl, Expr.text?_eq_some hright⟩
    exact ⟨_, refs, h, hstring, hdouble,
      (literal_tokens h { config := ⟨.transactSql, .strict⟩ } "it's" false).1 hstring,
        ((literal_tokens h { config := ⟨.hive, .strict⟩ } "b" true).2 hdouble).2⟩
  · cases hsides

/-- A string between double quotes that is a name where it is written. -/
theorem doubleQuoted_becomes_name :
    ∃ e refs, parseExpr .mySql "\"a\"" 0 = .ok (e, refs) ∧
      e.HasNode (.text .doubleQuoted "a" false) ∧
      ({ config := ⟨.postgreSql, .strict⟩ } : Renderer).tokenKinds (.text .doubleQuoted "a" false) =
        .ok [.quotedIdentifier "a", .eof] := by
  obtain ⟨⟨e, refs⟩, h, htext⟩ :=
    ok_of_toOption (x := parseExpr .mySql "\"a\"" 0) (fun x => x.1.text?)
    (v := some (.doubleQuoted, "a", false)) (by decide +kernel)
  have hlexes : Lexes Dialect.postgreSql.quoting (Render.textLiteral .doubleQuoted "a") [_] :=
    .delimited (.nameQuote rfl) "a"
  exact ⟨e, refs, h, .inl (Expr.text?_eq_some htext),
    Renderer.tokenKinds_text (r := { config := ⟨.postgreSql, .strict⟩ }) hlexes false⟩

end SqlWeave
