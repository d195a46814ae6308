import SqlWeave.Pattern.Parser

/-! Allow lists. A pattern has to match a whole entry, in any case; an entry may also be matched
without its verb, or by its last piece alone. -/

namespace SqlWeave

/-- What an entry has after its first `::`. -/
def afterFirstMark : List Char → Option (List Char)
  | ':' :: ':' :: rest => some rest
  | _ :: rest => afterFirstMark rest
  | [] => none

/-- What an entry has after its last `::`. -/
def afterLastMark : List Char → Option (List Char)
  | [] => none
  | c :: cs =>
    afterLastMark cs <|>
      match c, cs with
      | ':', ':' :: rest => some rest
      | _, _ => none

structure Allowlist where
  patterns : List Pattern

namespace Allowlist

/-- The text of a pattern that ignores case and spans the whole entry. -/
def anchored (pattern : String) : String := "(?i)^(?:" ++ pattern ++ ")$"

/-- The patterns of a list, or the first text that is none. -/
def ofTexts : List String → Except String Allowlist
  | [] => .ok ⟨[]⟩
  | text :: texts =>
    match Pattern.ofText? (anchored text) with
    | some p => (ofTexts texts).map fun list => ⟨p :: list.patterns⟩
    | none => .error text

def isEmpty (a : Allowlist) : Bool := a.patterns.isEmpty

/-- The texts of an entry that a pattern may match. -/
def forms (entry : String) : List String :=
  [entry, ((afterFirstMark entry.toList).map String.ofList).getD entry,
    ((afterLastMark entry.toList).map String.ofList).getD entry]

def allows (a : Allowlist) (entry : String) : Bool :=
  a.patterns.any fun p => (forms entry).any p.isMatch

/-- The first entry that no pattern covers; an empty list covers everything. -/
def denied? (a : Allowlist) (entries : List String) : Option String :=
  if a.isEmpty then none else entries.find? (!a.allows ·)

end Allowlist

end SqlWeave
