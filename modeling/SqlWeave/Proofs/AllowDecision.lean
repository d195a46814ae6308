import SqlWeave.Proofs.TableList
import SqlWeave.Session

/-! What an allow list decides. The first thing that fails is what is reported: a pattern that is
none, then the text itself, then the first reference that no pattern covers; an empty list asks for
nothing. Since more patterns cover more, a longer list allows whatever a shorter one does. -/

namespace SqlWeave

namespace Allowlist

/-- The text of a pattern is one that can be compiled. -/
def Compiles (text : String) : Prop := (Pattern.ofText? (anchored text)).isSome = true

/-- The pattern that the text spells matches one of the forms of the entry. -/
def Covers (text entry : String) : Prop :=
  ∃ p, Pattern.ofText? (anchored text) = some p ∧ ∃ form ∈ forms entry, p.isMatch form = true

def Covered (allow : List String) (entry : String) : Prop := ∃ text ∈ allow, Covers text entry

theorem Covered.mono {allow more : List String} {entry : String} (h : Covered allow entry)
    (hsub : allow ⊆ more) :
    Covered more entry := by
  obtain ⟨text, htext, hcovers⟩ := h
  exact ⟨text, hsub htext, hcovers⟩

variable {allow before after : List String} {text entry : String} {list : Allowlist}

theorem ofTexts_cons (text : String) (texts : List String) : ofTexts (text :: texts) =
    match Pattern.ofText? (anchored text) with
    | some p => (ofTexts texts).map fun list => ⟨p :: list.patterns⟩
    | none => .error text := rfl

/-- Where all texts are patterns, the list allows what they cover. -/
theorem exists_ofTexts (h : ∀ text ∈ allow, Compiles text) :
    ∃ list, ofTexts allow = .ok list ∧ list.isEmpty = allow.isEmpty ∧
      ∀ entry, list.allows entry = true ↔ Covered allow entry := by
  induction allow with
  | nil => exact ⟨⟨[]⟩, rfl, rfl, fun entry => by simp [allows, Covered]⟩
  | cons text texts ih =>
    obtain ⟨htext, htexts⟩ := List.forall_mem_cons.mp h
    obtain ⟨p, hp⟩ := Option.isSome_iff_exists.mp htext
    obtain ⟨list, hlist, -, hallows⟩ := ih htexts
    refine ⟨⟨p :: list.patterns⟩, by rw [ofTexts_cons, hp, hlist]; rfl, rfl, fun entry => ?_⟩
    have hcovers : (forms entry).any p.isMatch = true ↔ Covers text entry := by
      simp [Covers, hp, List.any_eq_true]
    rw [allows, List.any_cons, Bool.or_eq_true, hcovers, ← allows, hallows]
    simp [Covered]

/-- The first text that is no pattern is reported. -/
theorem ofTexts_error (hbefore : ∀ text ∈ before, Compiles text) (htext : ¬ Compiles text) :
    ofTexts (before ++ text :: after) = .error text := by
  induction before with
  | nil => rw [List.nil_append, ofTexts_cons, Option.not_isSome_iff_eq_none.mp htext]
  | cons first before ih =>
    obtain ⟨hfirst, hbefore⟩ := List.forall_mem_cons.mp hbefore
    obtain ⟨p, hp⟩ := Option.isSome_iff_exists.mp hfirst
    rw [List.cons_append, ofTexts_cons, hp, ih hbefore]
    rfl

end Allowlist

namespace Session

open Allowlist (Compiles Covered)

/-- What comes of checking a text: nothing to ask for, all covered, or the first of the things that
can be wrong. -/
inductive Decides (s : Session) (sql : String) (allow : List String) (o : Options) :
    Except Error Unit → Prop
  | free (h : allow = []) : Decides s sql allow o (.ok ())
  | covered {reading : Reading} (hpatterns : ∀ text ∈ allow, Compiles text)
      (hread : s.read sql o = .ok reading)
      (hcovered : ∀ entry ∈ reading.entries o.check, Covered allow entry) :
      Decides s sql allow o (.ok ())
  | noPattern {before after : List String} {text : String} (h : allow = before ++ text :: after)
      (hbefore : ∀ text ∈ before, Compiles text) (htext : ¬ Compiles text) :
      Decides s sql allow o (.error (.invalidPattern text))
  | unread {e : Error} (hsome : allow ≠ []) (hpatterns : ∀ text ∈ allow, Compiles text)
      (hread : s.read sql o = .error e) :
      Decides s sql allow o (.error e)
  | denied {reading : Reading} {before after : List String} {entry : String} (hsome : allow ≠ [])
      (hpatterns : ∀ text ∈ allow, Compiles text) (hread : s.read sql o = .ok reading)
      (h : reading.entries o.check = before ++ entry :: after)
      (hbefore : ∀ entry ∈ before, Covered allow entry) (hentry : ¬ Covered allow entry) :
      Decides s sql allow o (.error (.denied o.check entry sql))

variable {s : Session} {sql : String} {allow : List String} {o : Options}

theorem read_error {e : Error} (h : s.read sql o = .error e) :
    e = .unsupportedDialect o.databaseName ∨ ∃ fault, e = .parse fault := by
  unfold read at h
  cases hfrontend : s.frontend o with
  | error e' =>
    rw [hfrontend] at h
    cases h
    unfold frontend at hfrontend
    split at hfrontend
    · cases hfrontend
    · exact .inl (Except.error.inj hfrontend).symm
  | ok f =>
    rw [hfrontend] at h
    cases hread : f (if o.trim then Text.trim sql else sql) with
    | error fault =>
      have hmapped : (f (if o.trim then Text.trim sql else sql)).mapError Error.parse = .error e :=
        h
      rw [hread] at hmapped
      exact .inr ⟨fault, (Except.error.inj hmapped).symm⟩
    | ok reading =>
      have hmapped : (f (if o.trim then Text.trim sql else sql)).mapError Error.parse = .error e :=
        h
      rw [hread] at hmapped
      cases hmapped

/-- With patterns only, the text is read and its references are looked up in the list. -/
theorem check_of_compiles (s : Session) (sql : String) (o : Options) (hsome : allow ≠ [])
    (hpatterns : ∀ text ∈ allow, Compiles text) :
    ∃ covers : String → Bool, (∀ entry, covers entry = true ↔ Covered allow entry) ∧
      s.check sql allow o = (s.read sql o).bind fun reading =>
        match (reading.entries o.check).find? (!covers ·) with
        | some entry => .error (.denied o.check entry sql)
        | none => .ok () := by
  obtain ⟨list, hlist, hempty, hallows⟩ := Allowlist.exists_ofTexts hpatterns
  refine ⟨list.allows, hallows, ?_⟩
  rw [List.isEmpty_eq_false_iff.mpr hsome] at hempty
  have hcheck : s.check sql allow o = if list.isEmpty = true then .ok ()
      else (s.read sql o).bind fun reading =>
      match list.denied? (reading.entries o.check) with
      | some entry => .error (.denied o.check entry sql)
      | none => .ok () := by
    rw [check, hlist]
    rfl
  simp only [hcheck, Allowlist.denied?, hempty, Bool.false_eq_true, if_false]

theorem Decides.check_eq {result : Except Error Unit} (h : Decides s sql allow o result) :
    s.check sql allow o = result := by
  cases h with
  | free h =>
    subst h
    rfl
  | @covered reading hpatterns hread hcovered =>
    by_cases hsome : allow = []
    · subst hsome
      rfl
    · obtain ⟨covers, hcovers, heq⟩ := check_of_compiles s sql o hsome hpatterns
      have hnone : (reading.entries o.check).find? (!covers ·) = none :=
        List.find?_eq_none.mpr fun entry hentry => by
          simp [(hcovers entry).mpr (hcovered entry hentry)]
      rw [heq, hread, Except.bind, hnone]
  | @noPattern before after text h hbefore htext =>
    rw [check, h, Allowlist.ofTexts_error hbefore htext]
    rfl
  | unread hsome hpatterns hread =>
    obtain ⟨covers, -, heq⟩ := check_of_compiles s sql o hsome hpatterns
    rw [heq, hread, Except.bind]
  | @denied reading before after entry hsome hpatterns hread h hbefore hentry =>
    obtain ⟨covers, hcovers, heq⟩ := check_of_compiles s sql o hsome hpatterns
    have hfirst : (reading.entries o.check).find? (!covers ·) = some entry := by
      rw [List.find?_eq_some_iff_append]
      refine ⟨by simpa [← hcovers] using hentry, before, after, h, fun entry hmem => ?_⟩
      simp [(hcovers entry).mpr (hbefore entry hmem)]
    rw [heq, hread, Except.bind, hfirst]

/-- The first member that has not the property. -/
theorem exists_first {α : Type} {P : α → Prop} {xs : List α} (h : ¬ ∀ x ∈ xs, P x) :
    ∃ before x after, xs = before ++ x :: after ∧ (∀ y ∈ before, P y) ∧ ¬ P x := by
  classical
  induction xs with
  | nil => exact absurd (fun x hx => absurd hx List.not_mem_nil) h
  | cons x xs ih =>
    by_cases hx : P x
    · obtain ⟨before, y, after, rfl, hbefore, hy⟩ :=
        ih fun hxs => h (List.forall_mem_cons.mpr ⟨hx, hxs⟩)
      exact ⟨x :: before, y, after, rfl, List.forall_mem_cons.mpr ⟨hx, hbefore⟩, hy⟩
    · exact ⟨[], x, xs, rfl, fun y hy => absurd hy List.not_mem_nil, hx⟩

theorem exists_decides (s : Session) (sql : String) (allow : List String) (o : Options) :
    ∃ result, Decides s sql allow o result := by
  by_cases hpatterns : ∀ text ∈ allow, Compiles text
  · by_cases hsome : allow = []
    · exact ⟨_, .free hsome⟩
    · cases hread : s.read sql o with
      | error e => exact ⟨_, .unread hsome hpatterns hread⟩
      | ok reading =>
        by_cases hcovered : ∀ entry ∈ reading.entries o.check, Covered allow entry
        · exact ⟨_, .covered hpatterns hread hcovered⟩
        · obtain ⟨before, entry, after, h, hbefore, hentry⟩ := exists_first hcovered
          exact ⟨_, .denied hsome hpatterns hread h hbefore hentry⟩
  · obtain ⟨before, text, after, h, hbefore, htext⟩ := exists_first hpatterns
    exact ⟨_, .noPattern h hbefore htext⟩

theorem check_eq_iff {result : Except Error Unit} :
    s.check sql allow o = result ↔ Decides s sql allow o result := by
  constructor
  · rintro rfl
    obtain ⟨result, h⟩ := exists_decides s sql allow o
    rwa [h.check_eq]
  · exact Decides.check_eq

/-- More patterns allow more. -/
theorem check_mono {more : List String} (hsome : allow ≠ []) (hmore : ∀ text ∈ more, Compiles text)
    (hsub : allow ⊆ more) (h : s.check sql allow o = .ok ()) : s.check sql more o = .ok () := by
  cases check_eq_iff.mp h with
  | free h => exact absurd h hsome
  | covered _ hread hcovered =>
    exact check_eq_iff.mpr (.covered hmore hread fun entry hentry =>
      (hcovered entry hentry).mono hsub)

theorem error_of_toOption {ε α : Type} {x : Except ε α} (h : x.toOption = none) :
    ∃ e, x = .error e := by
  cases x with
  | error e => exact ⟨e, rfl⟩
  | ok a => cases h

/-- A table that one of two patterns covers and one that neither does. -/
def somePatterns : List String := ["(?-i)keys", "(?-i)null::public"]

def morePatterns : List String :=
  ["(?-i)null::public", "(?-i)select::null::users", "(?-i)keys", "(?-i)null::public"]

end Session

end SqlWeave
