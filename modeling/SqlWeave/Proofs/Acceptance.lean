import SqlWeave.Proofs.Parser.StatementWalk
import SqlWeave.Proofs.TableList

/-! What an accepted text consists of, and what the error says where a text is not accepted. What
the parser reads of a text is free of faulty tokens and balanced, but it does not read every token:
in some places the grammar takes whatever stands there. An error always points at a token of the
text. -/

namespace SqlWeave

open Token (tokenize)

namespace Parser

variable {d : Dialect} {text : String}

theorem startState_at (d : Dialect) (text : String) :
    (Tape.of d text).At (startState d text) ⟨.start, tokensOf d text⟩ :=
  ⟨(startState_tokens d text).trans (tokenize_split d text).1, List.suffix_refl _⟩

/-- The parser gets to the end of the text, or fails at one of its tokens. -/
theorem script_ends (d : Dialect) (text : String) :
    (Tape.of d text).Ends ⟨.start, tokensOf d text⟩ (fun _ c => c.place.outer = [] ∧ c.front = .eof)
      ((readersFor (startState d text)).script ⟨text, d⟩ (startState d text)) :=
  (nested_walked _).script ⟨rfl, .inl rfl⟩ _ (startState_at d text)

theorem expr_ends (d : Dialect) (text : String) (least : Nat) :
    (Tape.of d text).Ends ⟨.start, tokensOf d text⟩ (fun _ c => [] <:+ c.place.before ∧
      c.place.outer = [] ∧ True)
      ((readersFor (startState d text)).expr least ⟨text, d⟩ (startState d text)) :=
  (nested_walked _).expr least _ _ _ trivial (.here _) _ (startState_at d text)

/-- An accepted text is passed from its first token to its last; no bracket is open at the end, and
no faulty token was read. -/
theorem parseScript_passes {script : Script Expr} {refs : References}
    (h : parseScript d text = .ok (script, refs)) :
    ∃ read last, Passes .start ((tokensOf d text).map Token.kind) read last ∧ last.outer = [] ∧
      ∀ fault, TokenKind.fault fault ∉ read := by
  obtain ⟨t, hrun, _⟩ := parseScript_eq_ok.mp h
  have hends := script_ends d text
  rw [hrun] at hends
  obtain ⟨c, hc, ⟨ts, read, hahead, hpass, hsound⟩, ho, heof⟩ := hends
  have hrest : c.ahead = [] := by
    cases hcons : c.ahead with
    | nil => rfl
    | cons a as =>
      have hmem : a ∈ (Tape.of d text).inner := hc.within.mem (hcons ▸ List.mem_cons_self)
      exact absurd ((Spot.front_cons hcons).symm.trans heof) ((Tape.of d text).inner_kind a hmem)
  have hall : tokensOf d text = ts := hahead.trans (by rw [hrest, List.append_nil])
  rw [hall]
  exact ⟨read, c.place, hpass, ho, hsound⟩

theorem blamed_of_map {α β : Type} {T : Tape} {c : Spot} {Q : α → Spot → Prop}
    {f : α × ParserState → β} {r : Except ParseError (α × ParserState)} {e : ParseError}
    (hr : T.Ends c Q r) (h : r.map f = .error e) :
    T.Blamed e := by
  cases r with
  | error e' =>
    cases h
    exact hr
  | ok x => cases h

/-- Whatever a text is read as, an error blames one of its tokens. -/
theorem parse_blamed {e : ParseError}
    (h : parseScript d text = .error e ∨ ∃ least, parseExpr d text least = .error e) :
    (Tape.of d text).Blamed e := by
  rcases h with h | ⟨least, h⟩
  · exact blamed_of_map (script_ends d text) h
  · exact blamed_of_map (expr_ends d text least) h

end Parser

open SqlWeave.Parser (parseExpr parseScript tokensOf)

variable {d : Dialect} {text : String} {script : Script Expr} {refs : References}

/-! ## Texts with tokens that are not looked at -/

def unendedOption : String := "CREATE TABLE t ENGINE 'x"

def unknownScale : String := "SELECT CAST(a AS DECIMAL(10, ^)) FROM t"

def openScale : String := "SELECT CAST(a AS DECIMAL(10, ()) FROM t"

/-- The texts are accepted, with a string that never ends, an unknown character and a bracket
without its other one. -/
theorem unread_accepted :
    ((parseScript .mySql unendedOption).toOption.map (fun _ => ()) = some () ∧
      tokensOf .mySql unendedOption =
        [⟨.keyword .CREATE, ⟨0, 6⟩⟩, ⟨.keyword .TABLE, ⟨7, 12⟩⟩, ⟨.identifier "t", ⟨13, 14⟩⟩,
          ⟨.identifier "ENGINE", ⟨15, 21⟩⟩] ++ ⟨.fault .unterminatedString, ⟨22, 24⟩⟩ :: []) ∧
    ((parseScript .mySql unknownScale).toOption.map (fun _ => ()) = some () ∧
      ∃ t ∈ tokenize .mySql unknownScale, t.kind = .fault (.unexpectedChar '^')) ∧
    (parseScript .mySql openScale).toOption.map (fun _ => ()) = some () ∧
      ¬ Balanced ((tokensOf .mySql openScale).map Token.kind) := by
  decide +kernel

/-! ## Faulty tokens -/

/-- In an accepted text every faulty token stands where tokens are passed unread. -/
theorem fault_unread (h : parseScript d text = .ok (script, refs)) {before after : List Token}
    {t : Token} {fault : LexicalFault} (htokens : tokensOf d text = before ++ t :: after)
    (hfault : t.kind = .fault fault) :
    ∃ read p, Passes .start (before.map Token.kind) read p ∧ Unread p t.kind := by
  obtain ⟨read, last, hpass, _, hsound⟩ := Parser.parseScript_passes h
  rw [htokens, List.map_append, List.map_cons] at hpass
  rcases hpass.at_token with hmem | hunread
  · rw [hfault] at hmem
    exact absurd hmem (hsound fault)
  · exact hunread

theorem fault_unread_option :
    ∃ script refs before after t,
      parseScript .mySql unendedOption = .ok (script, refs) ∧
      tokensOf .mySql unendedOption = before ++ t :: after ∧ t.kind = .fault .unterminatedString ∧
      ∃ read p, Passes .start (before.map Token.kind) read p ∧ Unread p t.kind := by
  obtain ⟨⟨haccepted, htokens⟩, -⟩ := unread_accepted
  obtain ⟨script, refs, h, -⟩ :=
    parseScript_of_toOption .mySql unendedOption (fun _ _ => ()) haccepted
  exact ⟨script, refs, _, _, _, h, htokens, rfl, fault_unread h htokens rfl⟩

/-- The scale of a type is taken whatever it is, an unknown character too. -/
theorem faulty_scale_accepted :
    ∃ script refs, parseScript .mySql unknownScale = .ok (script, refs) ∧
      ∃ t ∈ tokenize .mySql unknownScale, t.kind = .fault (.unexpectedChar '^') := by
  obtain ⟨-, ⟨haccepted, hfault⟩, -⟩ := unread_accepted
  obtain ⟨script, refs, h, -⟩ :=
    parseScript_of_toOption .mySql unknownScale (fun _ _ => ()) haccepted
  exact ⟨script, refs, h, hfault⟩

/-! ## Brackets -/

/-- What is read of an accepted text is balanced. -/
theorem read_balanced (h : parseScript d text = .ok (script, refs)) :
    ∃ read last, Passes .start ((tokensOf d text).map Token.kind) read last ∧ Balanced read := by
  obtain ⟨read, last, hpass, houter, _⟩ := Parser.parseScript_passes h
  exact ⟨read, last, hpass, hpass.closesAll houter⟩

theorem read_balanced_scale :
    ∃ script refs, parseScript .mySql openScale = .ok (script, refs) ∧
      ∃ read last, Passes .start ((tokensOf .mySql openScale).map Token.kind) read last ∧
        Balanced read := by
  obtain ⟨-, -, haccepted, -⟩ := unread_accepted
  obtain ⟨script, refs, h, -⟩ := parseScript_of_toOption .mySql openScale (fun _ _ => ()) haccepted
  exact ⟨script, refs, h, read_balanced h⟩

/-- A bracket that stands for the scale of a type is not closed. -/
theorem unbalanced_scale_accepted :
    ∃ script refs, parseScript .mySql openScale = .ok (script, refs) ∧
      ¬ Balanced ((tokensOf .mySql openScale).map Token.kind) := by
  obtain ⟨-, -, haccepted, hunbalanced⟩ := unread_accepted
  obtain ⟨script, refs, h, -⟩ := parseScript_of_toOption .mySql openScale (fun _ _ => ()) haccepted
  exact ⟨script, refs, h, hunbalanced⟩

/-! ## Errors -/

/-- An error points at a token of the text: at the one that was found where another was wanted, at a
faulty one whose fault it reports, or at the bracket of a map literal. -/
theorem parse_error_at_token {e : ParseError}
    (h : parseScript d text = .error e ∨ ∃ least, parseExpr d text least = .error e) :
    ∃ before t after, tokenize d text = before ++ t :: after ∧ t.span = e.span ∧
      (∀ k, e.found? = some k → t.kind = k) ∧
      (e.found? = none →
        (∃ fault, t.kind = .fault fault ∧ e.fault.message = fault.message) ∨
          OpensMap text before t) := by
  obtain ⟨before, t, after, htokens, hspan, hblames⟩ := Parser.parse_blamed h
  rw [Parser.Tape.of_tokens] at htokens
  refine ⟨before, t, after, htokens, hspan, ?_⟩
  obtain ⟨fault, span⟩ := e
  cases hblames with
  | expected what => exact ⟨fun k hk => Option.some.inj hk, fun hnone => by cases hnone⟩
  | lexical hfault => exact ⟨fun k hk => (by cases hk), fun _ => .inl ⟨_, hfault, rfl⟩⟩
  | oddMapItems hmap => exact ⟨fun k hk => (by cases hk), fun _ => .inr hmap⟩

theorem parse_error_at_token_map :
    ∃ e, parseScript .mySql "SELECT MAP[1]" = .error e ∧ e.fault = .oddMapItems ∧
      ∃ before t after, tokenize .mySql "SELECT MAP[1]" = before ++ t :: after ∧ t.span = e.span ∧
        (∀ k, e.found? = some k → t.kind = k) ∧
        (e.found? = none → (∃ fault, t.kind = .fault fault ∧ e.fault.message = fault.message) ∨
          OpensMap "SELECT MAP[1]" before t) := by
  have h : (match parseScript .mySql "SELECT MAP[1]" with
      | .error e => some e
      | .ok _ => none) = some ⟨.oddMapItems, ⟨10, 11⟩⟩ := by decide +kernel
  split at h
  · rename_i e he
    exact ⟨e, he, by rw [Option.some.inj h], parse_error_at_token (.inl he)⟩
  · cases h

end SqlWeave
