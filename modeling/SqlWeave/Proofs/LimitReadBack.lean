import SqlWeave.Proofs.RoundTrip
import SqlWeave.Proofs.Spelling.Limit

/-! Row limits read back. Each dialect has its own form for a limit, and the reader finds the same
rows in all of them: count and offset are not confused, whichever of the two comes first. -/

namespace SqlWeave

open Decimal (isDigits)
open SqlWeave.Parser (Returns nested readersFor startState)
open Token (Piece Lexes)

/-! ## Amounts -/

/-- What counts rows: digits, a placeholder or a named parameter. -/
inductive Expr.IsAmount : Expr → Prop
  | digits (text : String) (h : isDigits text.toList = true) : IsAmount (Parser.numberLiteral text)
  | placeholder : IsAmount (.verbatim "?")
  | parameter (name : String) (h : Token.isWord name = true) : IsAmount (.param name)

namespace Spelled

variable {r : Renderer}

/-- Digits that fit 64 bits are spelled as a number without leading zeros, and all others as they
are. -/
theorem integer {digits : String} (h : isDigits digits.toList = true) :
    ∃ text ks, Spelled r (Parser.numberLiteral digits) text ks := by
  cases hword : Decimal.word64? digits with
  | some n =>
    have hliteral : Parser.numberLiteral digits = .number (.int n) := by
      unfold Parser.numberLiteral
      rw [hword]
    rw [hliteral]
    exact ⟨_, _, number (Decimal.word64?_lt hword)⟩
  | none =>
    have hliteral : Parser.numberLiteral digits = .text .bigint digits := by
      unfold Parser.numberLiteral
      rw [hword, if_pos h]
    rw [hliteral]
    exact ⟨_, _, Spelled.digits h hliteral (r.expr_mk _)⟩

theorem placeholder : Spelled r (.verbatim "?") "?" [⟨.symbol .question, "?"⟩] :=
  .literal (r.expr_mk _) .placeholder rfl rfl ⟨'?', [], rfl, by decide, by decide⟩ fun _ _ =>
    .look (.step (.pure _))

theorem parameter {name : String} (h : Token.isWord name = true) :
    Spelled r (.param name) (":" ++ name) [⟨.parameter name, ":" ++ name⟩] := by
  refine .literal (r.expr_mk _) (.parameter h) rfl rfl ⟨':', name.toList,
    ?_, by decide, by decide⟩ ?_
  · rw [String.toList_append]
    rfl
  · exact fun _ _ => .look (.step (.pure _))

theorem amount {e : Expr} (h : e.IsAmount) : ∃ text ks, Spelled r e text ks := by
  cases h with
  | digits text h => exact integer h
  | placeholder => exact ⟨_, _, placeholder⟩
  | parameter name h => exact ⟨_, _, parameter h⟩

end Spelled

/-! ## Limits in a dialect -/

/-- A limit of amounts that has a spelling: only a count has words after it, and only with both of
them there is a comma. -/
structure Limit.OfAmounts (l : Limit Expr) : Prop where
  given : l.count.isSome ∨ l.offset.isSome
  amounts : ∀ e ∈ l.count.toList ++ l.offset.toList, e.IsAmount
  comma : l.comma = true → l.count.isSome ∧ l.offset.isSome
  suffix : l.fetchSuffix = [] ∨ l.fetchSuffix ∈ fetchSuffixes ∧ l.count.isSome ∧ l.comma = false

namespace Limit

/-- The limit that a dialect has in place of this one: without the comma where there is none, and
with an offset where FETCH needs it. -/
def inDialect (d : Dialect) (l : Limit Expr) : Limit Expr :=
  { l with
    offset :=
      if d.requiresOffsetBeforeFetch && l.count.isSome then some (l.offset.getD (.number (.int 0)))
        else l.offset
    comma := l.comma && d.supportsLimitComma }

variable {d : Dialect} {l : Limit Expr}

theorem inDialect_offset (d : Dialect) (l : Limit Expr) :
    (l.inDialect d).offset = l.offset ∨ l.offset = none ∧
      (l.inDialect d).offset = some (.number (.int 0)) := by
  unfold inDialect
  split
  · cases l.offset with
    | none => exact .inr ⟨rfl, rfl⟩
    | some offset => exact .inl rfl
  · exact .inl rfl

theorem OfAmounts.plain (hl : l.OfAmounts) : (l.inDialect d).Plain d where
  given := by
    refine hl.given.imp_right fun hoffset => ?_
    unfold inDialect
    split
    · rfl
    · exact hoffset
  suffix := hl.suffix.imp_right fun hsuffix => ⟨hsuffix.1, hsuffix.2.1⟩
  comma := by
    intro hcomma
    obtain ⟨hcomma, hsupports⟩ : l.comma = true ∧ d.supportsLimitComma = true :=
      Bool.and_eq_true_iff.mp hcomma
    obtain ⟨hcount, hoffset⟩ := hl.comma hcomma
    refine ⟨hcount, ?_, ?_, hsupports⟩
    · unfold inDialect
      split
      · rfl
      · exact hoffset
    · cases hl.suffix with
      | inl hsuffix => exact hsuffix
      | inr hsuffix =>
        rw [hsuffix.2.2] at hcomma
        cases hcomma
  offset := by
    intro hrequires hcount
    have hcount : l.count.isSome = true := hcount
    unfold inDialect
    rw [hrequires, hcount]
    rfl

theorem OfAmounts.inDialect (hl : l.OfAmounts) :
    ∀ e ∈ (l.inDialect d).count.toList ++ (l.inDialect d).offset.toList, e.IsAmount := by
  obtain ⟨hcount, hoffset⟩ := List.forall_mem_append.mp hl.amounts
  refine List.forall_mem_append.mpr ⟨hcount, ?_⟩
  obtain hsame | ⟨-, hzero⟩ := l.inDialect_offset d
  · rw [hsame]
    exact hoffset
  · rw [hzero]
    exact List.forall_mem_singleton.mpr (.digits "0" (by decide))

end Limit

/-! ## What the renderer writes -/

namespace Renderer

variable {r : Renderer}

/-- A dialect that has FETCH only behind an offset gets the offset zero. -/
theorem fetch_zero (h : r.config.dialect.requiresOffsetBeforeFetch = true) (count words : String) :
    r.fetch count none words = r.fetch count (some "0") words := by
  have hzero : "OFFSET 0 ROWS FETCH NEXT " = "OFFSET " ++ "0" ++ " ROWS FETCH NEXT " := rfl
  simp only [fetch, h, if_true, hzero]

theorem limitText_zero (h : r.config.dialect.requiresOffsetBeforeFetch = true)
    (l : Limit Render.Item) (count : String) :
    r.limitText l (some count) none = r.limitText l (some count) (some "0") := by
  have hstyle : r.config.dialect.limitStyle = .fetchOffset := by
    cases hd : r.config.dialect <;> rw [hd] at h <;> first | rfl | cases h
  unfold limitText
  simp only [hstyle]
  split <;> exact fetch_zero h _ _

/-- The comma does not matter where there is none. -/
theorem limitText_comma (l : Limit Render.Item) (count offset : Option String) :
    r.limitText { l with comma := l.comma && r.config.dialect.supportsLimitComma } count offset =
      r.limitText l count offset := by
  cases hsupports : r.config.dialect.supportsLimitComma with
  | true => simp only [Bool.and_true]
  | false => simp only [limitText, hsupports, Bool.and_false]

/-- In place of a limit the renderer writes the limit that the dialect has. -/
theorem limit_inDialect (r : Renderer) (l : Limit Expr) :
    r.limit (some ((l.inDialect r.config.dialect).map r.item)) = r.limit (some (l.map r.item)) := by
  have hcomma (offset : Option Expr) :
      r.limit (some (Limit.map r.item
        { l with offset, comma := l.comma && r.config.dialect.supportsLimitComma })) =
        r.limit (some (Limit.map r.item { l with offset })) := by
    have htext := r.limitText_comma (Limit.map r.item { l with offset })
    exact congrArg (fun text : Option String → Option String → String => do
      let count ← (l.count.map r.item).mapM Render.Item.sql
      let offset ← (offset.map r.item).mapM Render.Item.sql
      return text count offset) (funext fun count => funext (htext count))
  refine (hcomma _).trans ?_
  by_cases hneeds : (r.config.dialect.requiresOffsetBeforeFetch && l.count.isSome) = true
  · obtain ⟨hrequires, hcount⟩ := Bool.and_eq_true_iff.mp hneeds
    rw [if_pos hneeds]
    obtain ⟨count, offset, comma, suffix⟩ := l
    obtain ⟨count, rfl⟩ := Option.isSome_iff_exists.mp hcount
    cases offset with
    | some offset => rfl
    | none =>
      show (do
        let text ← (some count).mapM r.expr
        return r.limitText _ text (some "0")) = do
        let text ← (some count).mapM r.expr
        return r.limitText _ text none
      rw [Option.mapM_some]
      cases r.expr count with
      | error e => rfl
      | ok text => exact congrArg Except.ok (limitText_zero hrequires _ _).symm
  · rw [if_neg hneeds]

end Renderer

/-! ## Reading back -/

/-- What is written for a limit in a dialect is read to its end as a limit with the same count,
offset and words; only where there was no offset zero may stand in its place. -/
theorem limit_reads_back (r : Renderer) {l : Limit Expr} (hl : l.OfAmounts) :
    ∃ text kept u, r.limit (some (l.map r.item)) = .ok text ∧
      Returns (readersFor (startState r.config.dialect text)).limit? ⟨text, r.config.dialect⟩
        (startState r.config.dialect text) (some kept) u ∧
      u.current.kind = .eof ∧
      kept.count = l.count ∧ kept.fetchSuffix = l.fetchSuffix ∧
      kept.comma = (l.comma && r.config.dialect.supportsLimitComma) ∧
      (kept.offset = l.offset ∨ l.offset = none ∧ kept.offset = some (.number (.int 0))) := by
  have hplain : ∀ kept ∈ some (l.inDialect r.config.dialect), kept.Plain r.config.dialect := by
    rintro _ ⟨⟩
    exact hl.plain
  obtain ⟨text, ks, htext, hspelled⟩ := limitClause_spelled (r := r) hplain (by
    rintro _ ⟨⟩ e he
    exact Spelled.amount (hl.inDialect e he))
  have hstands := startState_stands hspelled.legible.lexes
  have hdeep : ks.length < (startState r.config.dialect text).rest.length + 1 := by
    rw [hstands.rest_length]
    omega
  have hreads := hspelled.legible.reads _ hdeep [] (by decide)
  rw [List.append_nil] at hreads
  obtain ⟨u, hu, hend⟩ := hreads _ _ hstands
  refine ⟨text, l.inDialect r.config.dialect, u, ?_, hu, hend.kind, rfl, rfl, rfl,
    l.inDialect_offset _⟩
  rw [← r.limit_inDialect]
  exact htext

/-- A share of the rows and those that are as good as the last one. -/
def shareOfRows : Limit Expr where
  count := some (.param "n")
  fetchSuffix := ["PERCENT", "ROWS", "WITH", "TIES"]

def shareText : String := "OFFSET 0 ROWS FETCH NEXT :n PERCENT ROWS WITH TIES"

theorem limit_reads_back_share :
    let r : Renderer := { config := { dialect := .transactSql } }
    shareOfRows.OfAmounts ∧ ∃ kept u, r.limit (some (shareOfRows.map r.item)) = .ok shareText ∧
      Returns (readersFor (startState .transactSql shareText)).limit? ⟨shareText, .transactSql⟩
        (startState .transactSql shareText) (some kept) u ∧
      kept.count = some (.param "n") ∧ kept.fetchSuffix = ["PERCENT", "ROWS", "WITH", "TIES"] := by
  intro r
  have hshare : shareOfRows.OfAmounts := {
    given := .inl rfl
    amounts := List.forall_mem_singleton.mpr (.parameter "n" (by decide))
    comma := nofun
    suffix := .inr ⟨by decide, rfl, rfl⟩ }
  obtain ⟨text, kept, u, htext, hu, -, hcount, hsuffix, -, -⟩ := limit_reads_back r hshare
  cases htext.symm.trans (show _ = Except.ok shareText from rfl)
  exact ⟨hshare, kept, u, htext, hu, hcount, hsuffix⟩

end SqlWeave
