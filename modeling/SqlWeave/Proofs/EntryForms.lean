import SqlWeave.Allowlist
import SqlWeave.Proofs.CaselessNames
import SqlWeave.Proofs.TableList

/-! The forms of an entry. An entry is joined by `::`, with nothing escaped, and taken apart at the
first and at the last of these marks. What stands behind the first is the entry without its verb.
What stands behind the last is the table only if the name brings no mark of its own, nor a colon at
its front. -/

namespace SqlWeave

open References (entry noQualifier)

/-! ## Marks -/

theorem afterFirstMark_append {verb : List Char} (h : ':' ∉ verb) (rest : List Char) :
    afterFirstMark (verb ++ ':' :: ':' :: rest) = some rest := by
  induction verb with
  | nil => rfl
  | cons c verb ih =>
    rw [List.mem_cons, not_or] at h
    rw [← ih h.2, List.cons_append]
    exact afterFirstMark.eq_2 c _ fun rest hc => absurd hc.symm h.1

/-- What a text has behind a mark that it starts with. -/
def behindMark : List Char → Option (List Char)
  | ':' :: ':' :: rest => some rest
  | _ => none

theorem behindMark_eq_some {cs rest : List Char} :
    behindMark cs = some rest ↔ cs = ':' :: ':' :: rest := by
  unfold behindMark
  split <;> simp_all [eq_comm]

theorem afterLastMark_cons (c : Char) (cs : List Char) :
    afterLastMark (c :: cs) = (afterLastMark cs).or (behindMark (c :: cs)) := by
  conv => lhs; unfold afterLastMark
  simp only [Option.orElse_eq_orElse, Option.orElse_eq_or]
  congr 1
  unfold behindMark
  split <;> split <;> simp_all

theorem afterLastMark_append {marked rest : List Char} (h : afterLastMark marked = some rest) :
    ∀ before : List Char, afterLastMark (before ++ marked) = some rest
  | [] => h
  | c :: before => by rw [List.cons_append, afterLastMark_cons, afterLastMark_append h before,
    Option.some_or]

/-- What stands behind the last mark is there, behind the mark. -/
theorem suffix_of_afterLastMark :
    ∀ {cs rest : List Char}, afterLastMark cs = some rest → ':' :: ':' :: rest <:+ cs
  | [], rest, h => by cases h
  | c :: cs, rest, h => by
    rw [afterLastMark_cons, Option.or_eq_some_iff] at h
    rcases h with hlast | ⟨-, hfirst⟩
    · exact (suffix_of_afterLastMark hlast).trans (List.suffix_cons c cs)
    · exact behindMark_eq_some.mp hfirst ▸ List.suffix_rfl

/-- The second colon of a mark may be the first one of the next. -/
theorem afterLastMark_mark (rest : List Char) :
    afterLastMark (':' :: ':' :: rest) = some ((afterLastMark (':' :: rest)).getD rest) := by
  rw [afterLastMark_cons]
  cases afterLastMark (':' :: rest) <;> rfl

theorem afterLastMark_eq_none {cs : List Char} :
    afterLastMark cs = none ↔ ¬ [':', ':'] <:+: cs := by
  constructor
  · rintro hnone ⟨before, rest, rfl⟩
    rw [List.append_assoc] at hnone
    cases hnone.symm.trans (afterLastMark_append (afterLastMark_mark rest) before)
  · intro hmarks
    cases hlast : afterLastMark cs with
    | none => rfl
    | some rest =>
      obtain ⟨before, rfl⟩ := suffix_of_afterLastMark hlast
      exact absurd ⟨before, rest, by simp⟩ hmarks

/-! ## Entries -/

/-- The name without what stands up to its last mark; a colon at its front makes a mark with the one
before it. -/
def lastPiece (name : String) : String :=
  String.ofList ((afterLastMark (':' :: name.toList)).getD name.toList)

theorem lastPiece_eq_self {name : String} :
    lastPiece name = name ↔ ¬ [':', ':'] <:+: ':' :: name.toList := by
  rw [← afterLastMark_eq_none, lastPiece]
  cases hlast : afterLastMark (':' :: name.toList) with
  | none => simp
  | some rest =>
    have hlength := (suffix_of_afterLastMark hlast).length_le
    simp only [Option.getD_some, reduceCtorEq, iff_false]
    intro heq
    have := congrArg (fun s => s.toList.length) heq
    simp only [String.toList_ofList, List.length_cons] at this hlength
    omega

theorem toList_entry (verb : String) (qualifier : Option String) (name : String) :
    (entry verb qualifier name).toList =
    verb.toList ++ ':' :: ':' :: ((qualifier.getD noQualifier ++ "::" ++ name).toList) := by
  simp [entry]

/-- The three forms of an entry. -/
theorem forms_entry {verb : String} (hverb : ':' ∉ verb.toList) (qualifier : Option String)
    (name : String) :
    Allowlist.forms (entry verb qualifier name) =
      [entry verb qualifier name, qualifier.getD noQualifier ++ "::" ++ name, lastPiece name] := by
  have hfirst : afterFirstMark (entry verb qualifier name).toList =
      some (qualifier.getD noQualifier ++ "::" ++ name).toList := by
    rw [toList_entry, afterFirstMark_append hverb]
  have hsplit : (entry verb qualifier name).toList =
      (verb.toList ++ ':' :: ':' :: (qualifier.getD noQualifier).toList) ++
        ':' :: ':' :: name.toList := by
    simp [toList_entry]
  rw [Allowlist.forms, hfirst, hsplit, afterLastMark_append (afterLastMark_mark name.toList),
    Option.map_some, Option.getD_some, String.ofList_toList]
  rfl

/-- The first two forms have a mark. -/
theorem marked_forms (verb : String) (qualifier : Option String) (name : String) :
    [':', ':'] <:+: (entry verb qualifier name).toList ∧
      [':', ':'] <:+: (qualifier.getD noQualifier ++ "::" ++ name).toList :=
  ⟨⟨verb.toList, (qualifier.getD noQualifier ++ "::" ++ name).toList, by simp [toList_entry]⟩,
    ⟨(qualifier.getD noQualifier).toList, name.toList, by simp⟩⟩

/-- An entry is taken apart into itself, itself without the verb, and the last piece of the table's
name, which is the whole name exactly if it has no mark and no colon at its front. A pattern for one
name without a mark allows the entry only if the last piece is that name up to case. -/
theorem entry_taken_apart {verb : String} (hverb : ':' ∉ verb.toList) (db : Option String)
    (table : String) :
    Allowlist.forms (entry verb db table) =
        [entry verb db table, db.getD noQualifier ++ "::" ++ table, lastPiece table] ∧
      (lastPiece table = table ↔ ¬ [':', ':'] <:+: ':' :: table.toList) ∧
      ∀ (p : Pattern) (name : String), ¬ [':', ':'] <:+: name.toList →
        (∀ text, p.isMatch text = true → Caseless text name) →
        Allowlist.allows ⟨[p]⟩ (entry verb db table) = true → Caseless (lastPiece table) name := by
  refine ⟨forms_entry hverb db table, lastPiece_eq_self, fun p name hname hp hallows => ?_⟩
  obtain ⟨hentry, hunverbed⟩ := marked_forms verb db table
  simp only [Allowlist.allows, forms_entry hverb, List.any_cons, List.any_nil, Bool.or_false,
    Bool.or_eq_true] at hallows
  rcases hallows with hmatch | hmatch | hmatch
  · exact absurd ((hp _ hmatch).marked hentry) hname
  · exact absurd ((hp _ hmatch).marked hunverbed) hname
  · exact hp _ hmatch

/-- The pattern of a name in any case, tried on an entry whose table and database have letters of
both. -/
theorem entry_taken_apart_caseless :
    ':' ∉ "update".toList ∧ ¬ [':', ':'] <:+: ':' :: "Public".toList ∧
      Allowlist.forms (entry "update" (some "a::b") "Public") =
        ["update::a::b::Public", "a::b::Public", "Public"] ∧
      Allowlist.allows ⟨[Pattern.ofName "public"]⟩ (entry "update" (some "a::b") "Public") = true ∧
      Caseless "Public" "public" := by
  have hunmarked : ¬ [':', ':'] <:+: ':' :: "Public".toList := by decide +kernel
  have hallows : Allowlist.allows ⟨[Pattern.ofName "public"]⟩
      (entry "update" (some "a::b") "Public") = true := by
    decide +kernel
  have hverb : ':' ∉ "update".toList := by decide +kernel
  obtain ⟨hforms, hpiece, hname⟩ := entry_taken_apart hverb (some "a::b") "Public"
  have hlast := hpiece.mpr hunmarked
  rw [hlast] at hforms hname
  exact ⟨hverb, hunmarked, hforms, hallows,
    hname _ "public" (by decide +kernel) (fun _ => Pattern.caseless_of_ofName) hallows⟩

/-- The last piece of a table's name stands in for the table, so that a table is allowed under
another name. -/
theorem marked_table_allowed :
    ∃ script refs, Parser.parseScript .mySql "SELECT * FROM `secret::public`" = .ok (script, refs) ∧
      refs.tableList = [entry "select" none "secret::public"] ∧
      Allowlist.forms (entry "select" none "secret::public") =
        ["select::null::secret::public", "null::secret::public", "public"] ∧
      (∀ text, (Pattern.ofName "public").isMatch text = true → Caseless text "public") ∧
      Allowlist.allows ⟨[Pattern.ofName "public"]⟩ (entry "select" none "secret::public") = true ∧
      ¬ Caseless "secret::public" "public" := by
  obtain ⟨script, refs, h, hlist⟩ := parseScript_of_toOption .mySql "SELECT * FROM `secret::public`"
    (fun _ refs => refs.tableList) (v := ["select::null::secret::public"]) (by decide +kernel)
  have hlength : "secret::public".toList.length ≠ "public".toList.length := by decide
  exact ⟨script, refs, h, hlist, by decide +kernel,
    fun _ => Pattern.caseless_of_ofName, by decide +kernel, fun hsame => hlength hsame.length_eq⟩

end SqlWeave
