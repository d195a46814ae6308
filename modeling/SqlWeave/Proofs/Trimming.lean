import SqlWeave.Session
import SqlWeave.Proofs.TableList
import SqlWeave.Proofs.Parser.StatementMakes
import SqlWeave.Proofs.Token.Blanks

/-! Texts are read in the same way with the blanks around them and without. -/

namespace SqlWeave

open SqlWeave.Parser (endOf moved parseScript size tokensOf)
open Text (isBlank)
open Token (tokenize)

namespace Text

theorem trimStart_split (cs : List Char) :
    ∃ bs, cs = bs ++ trimStart cs ∧ ∀ b ∈ bs, isBlank b = true :=
  ⟨cs.takeWhile isBlank, List.takeWhile_append_dropWhile.symm,
    fun _ => List.all_eq_true.mp List.all_takeWhile _⟩

/-- Trimming takes off blanks. -/
theorem trim_split (s : String) : ∃ before after, s = before ++ trim s ++ after ∧
    (∀ b ∈ before.toList, isBlank b = true) ∧ ∀ b ∈ after.toList, isBlank b = true := by
  obtain ⟨before, hbefore, hblank⟩ := trimStart_split s.toList
  obtain ⟨after, hafter, hblank'⟩ := trimStart_split (trimStart s.toList).reverse
  refine ⟨String.ofList before, String.ofList after.reverse,
    ?_, by simpa using hblank, by simpa using hblank'⟩
  rw [trim, ← String.ofList_append, ← String.ofList_append, List.append_assoc,
    ← List.reverse_append, ← hafter, List.reverse_reverse, ← hbefore, String.ofList_toList]

example : trim " \t a b\n" = "a b" := by decide +kernel

end Text

/-- Around a text there may be blanks, if there are no faults in it. -/
theorem tokenize_trimmed {d : Dialect} {before text after : String}
    (hbefore : ∀ b ∈ before.toList, isBlank b = true)
    (hafter : ∀ b ∈ after.toList, isBlank b = true)
    (hfault : ∀ a ∈ tokenize d (before ++ text ++ after), ∀ f, a.kind ≠ .fault f) :
    tokenize d (before ++ text ++ after) =
      (tokenize d text).map (moved (size before) (before ++ text ++ after)) := by
  have hleading : tokenize d (before ++ text ++ after) =
      Token.tokensFrom d.quoting (0 + size before) (text.toList ++ after.toList) := by
    rw [tokenize, String.toList_append, String.toList_append, List.append_assoc,
      Token.tokensFrom_leading hbefore]
    rfl
  have hinner := (Parser.tokenize_split d text).2
  have hmoved : (tokensOf d text).map (moved (size before) (before ++ text ++ after)) =
      (tokensOf d text).map (Token.shift (size before)) :=
    List.map_congr_left fun a ha => if_neg (hinner a ha).1
  have hend : 0 + size before + Token.byteLength (text.toList ++ after.toList) =
      size (before ++ text ++ after) := by
    rw [Nat.zero_add, Parser.size_append, Parser.size_append, Token.byteLength_append,
      Nat.add_assoc]
    rfl
  rw [hleading] at hfault ⊢
  rw [Token.tokensFrom_trailing hafter _ _ _ hfault, Token.tokensFrom_shift, hend]
  change ((tokenize d text).map (Token.shift (size before))).dropLast ++ [endOf _] = _
  rw [(Parser.tokenize_split d text).1, List.map_append, List.map_append, hmoved,
    List.map_singleton, List.dropLast_concat]
  rfl

namespace Session

theorem lookup_cons (key k : String) (g : Frontend) (fs : List (String × Frontend)) :
    List.lookup key ((k, g) :: fs) = if key = k then some g else fs.lookup key := by
  by_cases h : key = k
  · rw [h, List.lookup_cons_self, if_pos rfl]
  · rw [List.lookup_cons, beq_false_of_ne h, if_neg h]

theorem lookup_insert (name : String) (f : Frontend) (fs : List (String × Frontend))
    (key : String) :
    (insert name f fs).lookup key = if key = name then some f else fs.lookup key := by
  induction fs with
  | nil => exact lookup_cons key name f []
  | cons g fs ih =>
    obtain ⟨k, g⟩ := g
    unfold insert
    split
    · exact lookup_cons key name f _
    · split
      · rename_i hname
        rw [lookup_cons, lookup_cons, ← hname]
        by_cases hkey : key = name <;> simp only [hkey, ↓reduceIte]
      · rename_i hname
        rw [lookup_cons, lookup_cons, ih]
        by_cases hkey : key = k
        · rw [if_pos hkey, if_pos hkey, if_neg fun h => hname (h.symm.trans hkey)]
        · rw [if_neg hkey, if_neg hkey]

theorem lookup_dialects (s : Session) (ds : List Dialect) (d : Dialect) :
    (ds.foldl (fun s d => s.register d.name (.grammar d)) s).frontends.lookup d.name =
      if d ∈ ds then some (.grammar d) else s.frontends.lookup d.name := by
  have hlower (e : Dialect) : Text.asciiLower e.name = e.name := by cases e <;> rfl
  have hname {e : Dialect} (h : d.name = e.name) : d = e := by
    have hsome := Dialect.ofName?_name d
    rw [h, Dialect.ofName?_name] at hsome
    exact (Option.some.inj hsome).symm
  induction ds generalizing s with
  | nil => rfl
  | cons e ds ih =>
    rw [List.foldl_cons, ih, register, lookup_insert, hlower]
    by_cases hd : d ∈ ds
    · rw [if_pos hd, if_pos (List.mem_cons_of_mem e hd)]
    · by_cases he : d = e
      · subst he
        rw [if_neg hd, if_pos rfl, if_pos List.mem_cons_self]
      · rw [if_neg hd, if_neg fun h => he (hname h), if_neg (by simp [he, hd])]

/-- Every dialect has its own grammar. -/
theorem standard_frontend {o : Options} {d : Dialect} (h : o.dialect? = some d) :
    standard.frontend o = .ok (.grammar d) := by
  have hname := List.find?_some (show Dialect.all.find? (·.name == Text.asciiLower o.databaseName) =
    some d from h)
  rw [frontend, ← beq_iff_eq.mp hname, standard, lookup_dialects,
    if_pos (List.mem_of_find?_eq_some h)]

theorem read_eq {s : Session} {o : Options} {d : Dialect}
    (hfrontend : s.frontend o = .ok (.grammar d)) (sql : String) (trim : Bool) :
    s.read sql { o with trim } =
      ((parseScript d (if trim then Text.trim sql else sql)).map fun (script, refs) =>
        (⟨script, refs.tableList, refs.columnList⟩ : Reading)).mapError .parse := by
  rw [read, show s.frontend { o with trim } = .ok (.grammar d) from hfrontend]
  rfl

/-- Whether the text is trimmed makes no difference: the same is read from it, or it has the same
fault. -/
theorem read_trimmed {s : Session} {o : Options} {d : Dialect}
    (hfrontend : s.frontend o = .ok (.grammar d)) (sql : String)
    (hfault : ∀ a ∈ tokenize d sql, ∀ f, a.kind ≠ .fault f) :
    (∃ r, s.read sql { o with trim := true } = .ok r ∧
      s.read sql { o with trim := false } = .ok r) ∨
      ∃ e e', s.read sql { o with trim := true } = .error (.parse e) ∧
        s.read sql { o with trim := false } = .error (.parse e') ∧
        e.fault.message = e'.fault.message ∧ e.expected? = e'.expected? ∧ e.found? = e'.found? := by
  obtain ⟨before, after, hsql, hbefore, hafter⟩ := Text.trim_split sql
  rw [read_eq hfrontend, read_eq hfrontend, if_pos rfl, if_neg Bool.false_ne_true]
  generalize Text.trim sql = text at hsql ⊢
  subst hsql
  rcases Parser.parseScript_within (tokenize_trimmed hbefore hafter hfault) (.inl rfl) with
    ⟨r, hl, hr⟩ | ⟨fault, a, ha, hl, hr⟩
  · rw [hl, hr]
    exact .inl ⟨_, rfl, rfl⟩
  · rw [hl, hr]
    exact .inr ⟨_, _, rfl, rfl, rfl, rfl, rfl⟩

/-- A text with blanks and comments around it. -/
def paddedText : String := "\n\t SELECT [a] FROM t -- a\n; /* b "

theorem read_trimmed_padded :
    ∃ r, standard.read paddedText { database := some "TransactSQL", trim := true } = .ok r ∧
      standard.read paddedText { database := some "TransactSQL", trim := false } = .ok r := by
  have hfrontend :
      standard.frontend { database := some "TransactSQL" } = .ok (.grammar .transactSql) :=
    standard_frontend (by decide)
  have hnames : (tokenize .transactSql paddedText).all (fun a => a.kind.name != "Error") =
      true := by decide +kernel
  have hfault : ∀ a ∈ tokenize .transactSql paddedText, ∀ f, a.kind ≠ .fault f := by
    intro a ha f hf
    have hname := List.all_eq_true.mp hnames a ha
    rw [hf] at hname
    cases hname
  rcases read_trimmed hfrontend paddedText hfault with hread | ⟨e, -, herror, -⟩
  · exact hread
  · obtain ⟨script, refs, hparse, -⟩ := parseScript_of_toOption .transactSql (Text.trim paddedText)
      (fun _ _ => ()) (v := ()) (by decide +kernel)
    rw [read_eq hfrontend, if_pos rfl, hparse] at herror
    cases herror

end Session

end SqlWeave
