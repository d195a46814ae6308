import SqlWeave.Proofs.Parser.StatementMakes
import SqlWeave.Proofs.TableList

/-! What is parsed survives being written as a value and read back. -/

namespace SqlWeave

open SqlWeave.Parser (parseScript)

/-- The tree of an accepted text is read back from what is written of it, with the fields in the
order in which they are written and with those of every object put in order by their keys. -/
theorem Script.ofJson_toJson_of_accepted {d : Dialect} {text : String} {script : Script Expr}
    {refs : References} (h : parseScript d text = .ok (script, refs)) :
    Script.ofJson script.toJson = .ok script ∧ Script.ofJson script.toJson.canonical = .ok script :=
  ⟨Script.ofJson_toJson_of_plain Json.arranges_id (Parser.parseScript_plain h),
    Script.ofJson_toJson_of_plain Json.arranges_canonical (Parser.parseScript_plain h)⟩

/-- A default and a comment, a quoted star, rows from a query, and limits of two forms. -/
def variedText : String :=
  "CREATE TABLE t (a INT DEFAULT - 1 COMMENT 'n'); INSERT INTO t (a) SELECT `*` FROM u LIMIT 2, 3; " ++
    "DELETE FROM t ORDER BY a OFFSET 1 FETCH NEXT 2 PERCENT ROWS WITH TIES"

theorem Script.ofJson_toJson_of_accepted_varied :
    ∃ script refs, parseScript .mySql variedText = .ok (script, refs) ∧
      script.statements.length = 3 ∧
      Script.ofJson script.toJson = .ok script ∧
      Script.ofJson script.toJson.canonical = .ok script := by
  obtain ⟨script, refs, h, hlength⟩ := parseScript_of_toOption .mySql variedText
    (fun script _ => script.statements.length) (v := 3) (by decide +kernel)
  exact ⟨script, refs, h, hlength, Script.ofJson_toJson_of_accepted h⟩

end SqlWeave
