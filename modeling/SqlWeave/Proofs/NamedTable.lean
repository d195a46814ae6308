import SqlWeave.Proofs.Parser.Returns
import SqlWeave.Proofs.Token.Printed
import SqlWeave.Render.Clause

/-! Tables under their names: how a dotted name is read, and how it is printed. -/

namespace SqlWeave

open Text (enclose)

namespace Parser

variable {src : Source} {s : ParserState}

/-- The table under a dotted name. -/
def namedTable (parts : List String) : Table Expr where
  db := (qualify parts.reverse.tail).1
  schema := (qualify parts.reverse.tail).2
  table := some (parts.reverse.headD "")

theorem returns_tableOf (parts : List String) :
    Returns (tableOf parts) src s (namedTable parts)
      { s with
        references := s.references.addTable s.verb (namedTable parts).db
          (parts.reverse.headD "") } := by
  unfold tableOf namedTable
  cases parts.reverse <;> rfl

end Parser

namespace Renderer

variable {r : Renderer} {opening closing : Char}

theorem ident_eq (hd : r.config.dialect.identifierQuote.delimiters = some (opening, closing))
    {name : String} (hname : name ≠ "*") : r.ident name = enclose opening closing name := by
  simp [ident, Dialect.quoteIdentifier, hname, hd]

theorem idents_eq (hd : r.config.dialect.identifierQuote.delimiters = some (opening, closing))
    {names : List String} (hnames : ∀ name ∈ names, name ≠ "*") :
    r.idents names = names.map (enclose opening closing) :=
  List.map_congr_left fun name hname => ident_eq hd (hnames name hname)

/-- What comes after the name of a table. -/
def aliasSuffix (r : Renderer) : Option String → String
  | none => ""
  | some name => (if r.config.dialect.tableAliasKeyword then " AS " else " ") ++ r.ident name

theorem table_named {t : Table Render.Item} (hkind : t.kind = none) (hexpr : t.expr = none) :
    r.table t = .ok (r.dottedName t.nameParts ++ r.aliasSuffix t.aliasName) := by
  obtain ⟨db, schema, table, expr, aliasName, join, condition, usingColumns, addition, kind⟩ := t
  simp only at hkind hexpr
  subst hkind hexpr
  cases aliasName with
  | none =>
    show Except.ok (r.dottedName _) = Except.ok (r.dottedName _ ++ "")
    rw [String.append_empty]
  | some name =>
    show Except.ok (r.dottedName _ ++ _ ++ _) = Except.ok (r.dottedName _ ++ (_ ++ _))
    rw [String.append_assoc]

theorem table_derived {t : Table Render.Item} {i : Render.Item} {q : Query Expr}
    (hkind : t.kind = none) (hexpr : t.expr = some i) (hq : i.1 = .query q) :
    r.table t = (do return (← Render.subquery i) ++ r.aliasSuffix t.aliasName) := by
  obtain ⟨db, schema, table, expr, aliasName, join, condition, usingColumns, addition, kind⟩ := t
  obtain ⟨e, rendered⟩ := i
  simp only at hkind hexpr hq
  subst hkind hexpr hq
  cases hsql : Render.subquery (.query q, rendered) with
  | error err =>
    show (Render.subquery (.query q, rendered) >>= _) = _
    rw [hsql]
    rfl
  | ok sql =>
    show (Render.subquery (.query q, rendered) >>= _) = _
    rw [hsql]
    cases aliasName with
    | none =>
      show Except.ok sql = Except.ok (sql ++ "")
      rw [String.append_empty]
    | some name =>
      show Except.ok (sql ++ _ ++ _) = Except.ok (sql ++ (_ ++ _))
      rw [String.append_assoc]

end Renderer

end SqlWeave
