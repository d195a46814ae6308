import SqlWeave.Parser.Statement

/-! Where a token stands among the brackets of its statement, and where the grammar passes a token
unread. It does so in four places: at the scale of a type, in the frame of a window, in the mode of
a full-text search and at the value of a table option. -/

namespace SqlWeave

/-! ## Brackets -/

inductive Bracket where
  | opens (closing : Symbol)
  | closes (mark : Symbol)
deriving DecidableEq, Repr

def TokenKind.bracket? : TokenKind → Option Bracket
  | .symbol .leftParen => some (.opens .rightParen)
  | .symbol .leftBracket => some (.opens .rightBracket)
  | .symbol .leftBrace => some (.opens .rightBrace)
  | .symbol .rightParen => some (.closes .rightParen)
  | .symbol .rightBracket => some (.closes .rightBracket)
  | .symbol .rightBrace => some (.closes .rightBrace)
  | _ => none

/-- Whether the tokens close, each in its turn, the brackets that are open before them and all that
they open themselves. -/
def closesAll : List Symbol → List TokenKind → Bool
  | opened, [] => opened.isEmpty
  | opened, k :: ks =>
    match k.bracket? with
    | some (.opens closing) => closesAll (closing :: opened) ks
    | some (.closes mark) => opened.head? == some mark && closesAll opened.tail ks
    | none => closesAll opened ks

/-- Properly nested, nothing left open. -/
def Balanced (ks : List TokenKind) : Prop := closesAll [] ks = true

instance (ks : List TokenKind) : Decidable (Balanced ks) := inferInstanceAs (Decidable (_ = true))

/-! ## Places -/

/-- An open bracket: what closes it, and what was read before it on its own level, the last
first. -/
structure Level where
  closing : Symbol
  before : List TokenKind

/-- A place in a text: what was read since the innermost open bracket, or since the statement's
start if there is none, the last first; a bracket that is closed again counts as its closing
mark. -/
structure Place where
  before : List TokenKind
  outer : List Level
  afterUnread : Bool

namespace Place

def start : Place := ⟨[], [], false⟩

variable (p : Place)

def push (k : TokenKind) : Place := ⟨k :: p.before, p.outer, false⟩

def within (closing : Symbol) : Place := ⟨[], ⟨closing, p.before⟩ :: p.outer, false⟩

/-- The place after a token that is read. A closing mark is only read where it closes the innermost
bracket, and a semicolon only outside of brackets. -/
def read? (k : TokenKind) : Option Place :=
  match k.bracket? with
  | some (.opens closing) => some (p.within closing)
  | some (.closes mark) =>
    match p.outer with
    | [] => none
    | level :: outer =>
      if level.closing = mark then some ⟨k :: level.before, outer, false⟩ else none
  | none =>
    if k = .symbol .semicolon then if p.outer = [] then some start else none
    else some (p.push k)

def skip : Place := { p with afterUnread := true }

variable {p} {q : Place} {k : TokenKind}

theorem read?_opens {closing : Symbol} (h : k.bracket? = some (.opens closing)) :
    p.read? k = some (p.within closing) := by
  rw [read?, h]

theorem read?_closes {level : Level} {outer : List Level}
    (h : k.bracket? = some (.closes level.closing)) (houter : p.outer = level :: outer) :
    p.read? k = some ⟨k :: level.before, outer, false⟩ := by
  rw [read?, h]
  simp [houter]

theorem read?_semicolon (houter : p.outer = []) : p.read? (.symbol .semicolon) = some start :=
  if_pos houter

theorem read?_plain (h : k.bracket? = none) (hsemicolon : k ≠ .symbol .semicolon) :
    p.read? k = some (p.push k) := by
  rw [read?, h]
  exact if_neg hsemicolon

/-- All that reading a token can do. -/
theorem read?_cases (h : p.read? k = some q) :
    (∃ closing, k.bracket? = some (.opens closing) ∧ q = p.within closing) ∨
    (∃ level outer, k.bracket? = some (.closes level.closing) ∧ p.outer = level :: outer ∧
      q = ⟨k :: level.before, outer, false⟩) ∨
    (k.bracket? = none ∧ p.outer = [] ∧ q = start) ∨
    (k.bracket? = none ∧ q = p.push k) := by
  unfold read? at h
  split at h
  · rename_i closing hbracket
    exact .inl ⟨closing, hbracket, (Option.some.inj h).symm⟩
  · rename_i mark hbracket
    split at h
    · cases h
    · rename_i level outer houter
      obtain ⟨rfl, hq⟩ := Option.ite_none_right_eq_some.mp h
      exact .inr (.inl ⟨level, outer, hbracket, houter, (Option.some.inj hq).symm⟩)
  · rename_i hbracket
    split at h
    · obtain ⟨houter, hq⟩ := Option.ite_none_right_eq_some.mp h
      exact .inr (.inr (.inl ⟨hbracket, houter, (Option.some.inj hq).symm⟩))
    · exact .inr (.inr (.inr ⟨hbracket, (Option.some.inj h).symm⟩))

end Place

/-! ## Types -/

/-- The words of a type's name, the last first. -/
inductive TypeName : List TokenKind → Prop
  | quoted (name : String) : TypeName [.quotedIdentifier name]
  | word {k : TokenKind} (h : Parser.isTypeWord k = true) : TypeName [k]
  | second {ks : List TokenKind} {k : TokenKind} {first second : String} (h : TypeName ks)
      (hmem : (first, second) ∈ Parser.twoWordTypes) (hk : k.isWord second = true) :
      TypeName (k :: ks)

/-- At the start of an item of a list. -/
inductive ItemStart : List TokenKind → Prop
  | first : ItemStart []
  | later (ks : List TokenKind) : ItemStart (.symbol .comma :: ks)

/-- At the start of a column definition; the name of a constraint may come before it. -/
inductive ColumnStart : List TokenKind → Prop
  | plain {ks : List TokenKind} (h : ItemStart ks) : ColumnStart ks
  | named {ks : List TokenKind} {word name : TokenKind} (h : ItemStart ks)
      (hword : word.isWord "constraint" = true) : ColumnStart (name :: word :: ks)

/-- Outside of brackets in a CREATE statement, before the query. -/
structure Creates (before : List TokenKind) : Prop where
  create : before.getLast? = some (.keyword .CREATE)
  noQuery : .keyword .AS ∉ before

structure CreatesTable (before : List TokenKind) : Prop extends Creates before where
  table : .keyword .TABLE ∈ before

/-- Where the name of a type starts. -/
inductive TypeStart : List TokenKind → List Level → Prop
  | afterColons {before : List TokenKind} {outer : List Level} :
      TypeStart (.symbol .doubleColon :: before) outer
  | castTarget {before cast : List TokenKind} {outer : List Level} :
      TypeStart (.keyword .AS :: before) (⟨.rightParen, .keyword .CAST :: cast⟩ :: outer)
  | column {before create : List TokenKind} {name : TokenKind} (hcolumn : ColumnStart before)
      (hcreate : CreatesTable create) : TypeStart (name :: before) [⟨.rightParen, create⟩]
  | argument {before type typeBefore : List TokenKind} {outer : List Level}
      (hitem : ItemStart before) (hname : TypeName type) (h : TypeStart typeBefore outer) :
      TypeStart before (⟨.rightParen, type ++ typeBefore⟩ :: outer)
  | field {before type typeBefore : List TokenKind} {outer : List Level} {name : TokenKind}
      (hitem : ItemStart before) (hname : TypeName type) (h : TypeStart typeBefore outer) :
      TypeStart (name :: before) (⟨.rightParen, type ++ typeBefore⟩ :: outer)

/-! ## Windows, searches and options -/

/-- Where a window's specification starts. -/
inductive WindowStart : List TokenKind → Prop
  | over (ks : List TokenKind) : WindowStart (.keyword .OVER :: ks)
  | named {ks : List TokenKind} (h : ∃ k ∈ ks, k.isWord "window" = true) :
      WindowStart (.keyword .AS :: ks)

def frameWords : List String := ["rows", "range", "groups"]

/-- Whether a token can be read as a name. -/
def TokenKind.isName : TokenKind → Bool
  | .identifier _ | .quotedIdentifier _ => true
  | .keyword word => word.isUnreserved
  | _ => false

/-- Whether the name of the table, or a part of it, has to come next. -/
def tableNameNext (before : List TokenKind) : Bool :=
  match before.head? with
  | some (.symbol .dot) | some (.keyword .TABLE) | some (.keyword .EXISTS) => true
  | _ => false

/-- The keyword of a table option, and what comes before it. -/
inductive OptionKeyword : List TokenKind → List TokenKind → Prop
  | word {ks : List TokenKind} (name : String) (h : tableNameNext ks = false) :
      OptionKeyword (.identifier name :: ks) ks
  | default {name : TokenKind} (h : name.isName = true) (ks : List TokenKind) :
      OptionKeyword (name :: .keyword .DEFAULT :: ks) ks
  | collate (ks : List TokenKind) : OptionKeyword (.keyword .COLLATE :: ks) ks
  | orderBy (ks : List TokenKind) : OptionKeyword (.keyword .BY :: .keyword .ORDER :: ks) ks
  | partitionBy (ks : List TokenKind) : OptionKeyword (.keyword .BY :: .keyword .PARTITION :: ks) ks
  | primaryKey (ks : List TokenKind) : OptionKeyword (.keyword .KEY :: .keyword .PRIMARY :: ks) ks

/-- Where the value of a table option starts. -/
inductive OptionValue : List TokenKind → Prop
  | bare {before ks : List TokenKind} (h : OptionKeyword before ks) (hcreate : CreatesTable ks) :
      OptionValue before
  | afterEq {before ks : List TokenKind} (h : OptionKeyword before ks) (hcreate : CreatesTable ks) :
      OptionValue (.symbol .eq :: before)

theorem Creates.push {k : TokenKind} {ks : List TokenKind} (h : Creates ks)
    (hk : k ≠ .keyword .AS) : Creates (k :: ks) := by
  refine ⟨?_, fun hmem => ?_⟩
  · cases ks with
    | nil => cases h.create
    | cons k' ks => exact h.create
  · rcases List.mem_cons.mp hmem with hAs | hmem
    · exact hk hAs.symm
    · exact h.noQuery hmem

theorem CreatesTable.push {k : TokenKind} {ks : List TokenKind} (h : CreatesTable ks)
    (hk : k ≠ .keyword .AS) :
    CreatesTable (k :: ks) :=
  ⟨h.toCreates.push hk, List.mem_cons_of_mem _ h.table⟩

/-- After the name of the table in CREATE TABLE, before the query. -/
structure InOptions (ks : List TokenKind) : Prop extends CreatesTable ks where
  named : tableNameNext ks = false

theorem CreatesTable.pushName {k : TokenKind} {ks : List TokenKind} (h : CreatesTable ks)
    (hk : k.isName = true) :
    InOptions (k :: ks) := by
  have hfacts : k ≠ .keyword .AS ∧ tableNameNext (k :: ks) = false := by
    unfold TokenKind.isName at hk
    split at hk
    · exact ⟨TokenKind.noConfusion, rfl⟩
    · exact ⟨TokenKind.noConfusion, rfl⟩
    · rename_i word
      cases word <;> first | exact Bool.noConfusion hk | exact ⟨by decide, rfl⟩
    · cases hk
  exact ⟨h.push hfacts.1, hfacts.2⟩

theorem OptionKeyword.options {before ks : List TokenKind} (h : OptionKeyword before ks)
    (hks : CreatesTable ks) :
    InOptions before := by
  cases h with
  | word => exact hks.pushName rfl
  | default hname => exact (hks.push (by decide)).pushName hname
  | collate => exact ⟨hks.push (by decide), rfl⟩
  | orderBy => exact ⟨(hks.push (by decide)).push (by decide), rfl⟩
  | partitionBy => exact ⟨(hks.push (by decide)).push (by decide), rfl⟩
  | primaryKey => exact ⟨(hks.push (by decide)).push (by decide), rfl⟩

theorem OptionValue.options {before : List TokenKind} (h : OptionValue before) :
    InOptions before := by
  cases h with
  | bare hkeyword hks => exact hkeyword.options hks
  | afterEq hkeyword hks => exact ⟨(hkeyword.options hks).push (by decide), rfl⟩

/-! ## Passing tokens -/

/-- A token the grammar does not look at. -/
inductive Unread : Place → TokenKind → Prop
  /-- One token, after the number and the comma. -/
  | scale {type before : List TokenKind} {outer : List Level} {size : String}
      (hname : TypeName type) (h : TypeStart before outer) (k : TokenKind) :
      Unread ⟨[.symbol .comma, .number size], ⟨.rightParen, type ++ before⟩ :: outer, false⟩ k
  /-- What comes after the first word of a frame, up to a closing parenthesis. -/
  | frame {before window : List TokenKind} {outer : List Level} {k first : TokenKind}
      (h : WindowStart window) (hfirst : frameWords.any first.isWord = true)
      (hk : k ≠ .symbol .rightParen) (afterUnread : Bool) :
      Unread ⟨first :: before, ⟨.rightParen, window⟩ :: outer, afterUnread⟩ k
  /-- What comes after the first word of the mode, up to a closing parenthesis. -/
  | searchMode {before search : List TokenKind} {outer : List Level} {k first : TokenKind}
      (hfirst : first = .keyword .IN ∨ first = .keyword .WITH) (hk : k ≠ .symbol .rightParen)
      (afterUnread : Bool) :
      Unread ⟨first :: before, ⟨.rightParen, .keyword .AGAINST :: search⟩ :: outer, afterUnread⟩ k
  /-- One token that ends no option. -/
  | optionValue {before : List TokenKind} {k : TokenKind} (h : OptionValue before)
      (hk : Parser.endsOption k = false) (hopen : k ≠ .symbol .leftParen) :
      Unread ⟨before, [], false⟩ k
  /-- What stands in the parentheses of a value, apart from parentheses. -/
  | optionGroup {p : Place} {k : TokenKind} {before : List TokenKind} (h : OptionValue before)
      (houter : p.outer.getLast? = some ⟨.rightParen, before⟩) (hopen : k ≠ .symbol .leftParen)
      (hclose : k ≠ .symbol .rightParen) : Unread p k

/-- From one place to another over some tokens, and which of them are read. -/
inductive Passes : Place → List TokenKind → List TokenKind → Place → Prop
  | done (p : Place) : Passes p [] [] p
  | read {p q r : Place} {k : TokenKind} {ks read : List TokenKind} (hk : p.read? k = some q)
      (h : Passes q ks read r) : Passes p (k :: ks) (k :: read) r
  | skip {p r : Place} {k : TokenKind} {ks read : List TokenKind} (hk : Unread p k)
      (h : Passes p.skip ks read r) : Passes p (k :: ks) read r

theorem Passes.append {p q r : Place} {ks ks' read read' : List TokenKind} (h : Passes p ks read q)
    (h' : Passes q ks' read' r) : Passes p (ks ++ ks') (read ++ read') r := by
  induction h with
  | done => exact h'
  | read hk _ ih => exact .read hk (ih h')
  | skip hk _ ih => exact .skip hk (ih h')

/-- Each token is read, or stands where it may be passed unread. -/
theorem Passes.at_token {p q : Place} {before after read : List TokenKind} {k : TokenKind}
    (h : Passes p (before ++ k :: after) read q) :
    k ∈ read ∨ ∃ readBefore r, Passes p before readBefore r ∧ Unread r k := by
  induction before generalizing p read with
  | nil =>
    cases h with
    | read => exact .inl List.mem_cons_self
    | skip hk => exact .inr ⟨[], p, .done p, hk⟩
  | cons k' before ih =>
    cases h with
    | read hk' h =>
      rcases ih h with hmem | ⟨readBefore, r, hpass, hunread⟩
      · exact .inl (List.mem_cons_of_mem _ hmem)
      · exact .inr ⟨_, r, .read hk' hpass, hunread⟩
    | skip hk' h =>
      rcases ih h with hmem | ⟨readBefore, r, hpass, hunread⟩
      · exact .inl hmem
      · exact .inr ⟨_, r, .skip hk' hpass, hunread⟩

/-- What is read closes every bracket that is not open at the end. -/
theorem Passes.closesAll {p q : Place} {ks read : List TokenKind} (h : Passes p ks read q)
    (hq : q.outer = []) : closesAll (p.outer.map Level.closing) read = true := by
  induction h with
  | done => simp [hq, SqlWeave.closesAll]
  | read hk _ ih =>
    have hrest := ih hq
    rw [SqlWeave.closesAll]
    rcases Place.read?_cases hk with ⟨_, hbracket, rfl⟩ | ⟨_, _, hbracket, houter, rfl⟩ |
      ⟨hbracket, houter, rfl⟩ | ⟨hbracket, rfl⟩
    · rw [hbracket]
      exact hrest
    · rw [hbracket, houter]
      simpa using hrest
    · rw [hbracket, houter]
      exact hrest
    · rw [hbracket]
      exact hrest
  | skip _ _ ih => exact ih hq

end SqlWeave
