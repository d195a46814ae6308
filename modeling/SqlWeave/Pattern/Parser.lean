import SqlWeave.Pattern.Folding
import SqlWeave.Pattern.Size
import SqlWeave.Text.Numeric

/-! Reading patterns. -/

namespace SqlWeave.Pattern

/-- What the letters of `(?flags)` switch. -/
structure Flags where
  ignoreCase : Bool := false
  multiLine : Bool := false
  dotAll : Bool := false
  anyLineEnd : Bool := false
  unicode : Bool := true
  /-- Blanks and comments between the parts do not count. -/
  verbose : Bool := false
  /-- Repetitions are lazy, unless a question mark follows. -/
  lazyFirst : Bool := false

namespace Flags

def set (f : Flags) (letter : Char) (on : Bool) : Option Flags :=
  match letter with
  | 'i' => some { f with ignoreCase := on }
  | 'm' => some { f with multiLine := on }
  | 's' => some { f with dotAll := on }
  | 'R' => some { f with anyLineEnd := on }
  | 'u' => some { f with unicode := on }
  | 'x' => some { f with verbose := on }
  | 'U' => some { f with lazyFirst := on }
  | _ => none

def fold (f : Flags) (s : CharSet) : CharSet :=
  if !f.ignoreCase then s else if f.unicode then s.fold else s.foldAscii

/-- Without Unicode a set is one of bytes, and the complement of one has bytes that are no text. -/
def negate (f : Flags) (negated : Bool) (s : CharSet) : Option CharSet :=
  if !negated then some s else if f.unicode then some s.negate else none

end Flags

structure Cursor where
  rest : List Char
  flags : Flags := {}
  /-- The names of groups so far. -/
  names : List String := []

/-- None if the text is no pattern. -/
abbrev Scan := StateT Cursor Option

namespace Scan

def fail {α : Type} : Scan α := fun _ => none

def flags : Scan Flags := return (← get).flags

def peek? : Scan (Option Char) := return (← get).rest.head?

def peek : Scan Char := do
  match ← peek? with
  | some c => return c
  | none => fail

def bump : Scan Unit := modify fun s => { s with rest := s.rest.tail }

def next : Scan Char := do
  let c ← peek
  bump
  return c

def skipVerbose (comment : Bool) : List Char → List Char
  | [] => []
  | c :: cs =>
    if comment then skipVerbose (c != '\n') cs
    else if Text.isBlank c then skipVerbose false cs
    else if c = '#' then skipVerbose true cs
    else c :: cs

def skipSpace : Scan Unit := modify fun s =>
  if s.flags.verbose then { s with rest := skipVerbose false s.rest } else s

def bumpSpace : Scan Unit := do
  bump
  skipSpace

/-- Takes the text if it comes next. -/
def eat (text : String) : Scan Bool := do
  let s ← get
  if text.toList.isPrefixOf s.rest then
    set { s with rest := s.rest.drop text.length }
    return true
  else return false

/-- What comes after the next character, blanks apart. -/
def second? : Scan (Option Char) := do
  let s ← get
  let rest := s.rest.tail
  return (if s.flags.verbose then skipVerbose false rest else rest).head?

def fuel : Scan Nat := return (← get).rest.length + 1

/-- Takes characters while they pass, skipping blanks between them. -/
def takeWhile (test : Char → Bool) : Nat → Scan (List Char)
  | 0 => return []
  | n + 1 => do
    match ← peek? with
    | some c =>
      if test c then
        bumpSpace
        return c :: (← takeWhile test n)
      else return []
    | none => return []

def ofOption {α : Type} : Option α → Scan α
  | some a => return a
  | none => fail

end Scan

open Scan

/-- A part of a pattern that may also stand in brackets. -/
inductive Atom where
  /-- `byte` tells a character given by two hexadecimal digits. -/
  | literal (c : Char) (byte : Bool)
  | set (s : CharSet)
  | look (l : Look)
  | dot

def isHexDigit (c : Char) : Bool :=
  c.isDigit || ('a' ≤ c && c ≤ 'f') || ('A' ≤ c && c ≤ 'F')

def hexNumber (digits : List Char) : Nat :=
  digits.foldl (fun n c =>
    16 * n + (if c.isDigit then c.toNat - '0'.toNat else c.toLower.toNat - 'a'.toNat + 10)) 0

def charOf (n : Nat) : Scan Char :=
  if n < 0xD800 || (0xE000 ≤ n && n < 0x110000) then return Char.ofNat n else fail

def hexDigits : Nat → Scan (List Char)
  | 0 => return []
  | n + 1 => do
    let c ← peek
    if isHexDigit c then
      bumpSpace
      return c :: (← hexDigits n)
    else fail

/-- The character after `\x`, `\u` or `\U`: so many digits, or any number of them in braces. -/
def hexEscape (width : Nat) : Scan Atom := do
  bumpSpace
  if (← peek) = '\x7b' then
    bumpSpace
    let digits ← takeWhile isHexDigit (← fuel)
    if digits.isEmpty || (← peek) != '\x7d' then fail
    else
      bumpSpace
      return .literal (← charOf (hexNumber digits)) false
  else
    let digits ← hexDigits width
    return .literal (← charOf (hexNumber digits)) (width == 2)

/-- What stands before and after the first place where the mark does. -/
def cutAt? (mark cs : List Char) : Option (String × String) :=
  ((List.range cs.length).find? fun i => mark.isPrefixOf (cs.drop i)).map fun i =>
    (String.ofList (cs.take i), String.ofList (cs.drop (i + mark.length)))

/-- The characters that a property in braces names, and whether it leaves out just these: `name`,
`name=value`, `name:value` or `name!=value`. -/
def bracedProperty? (cs : List Char) : Option (CharSet × Bool) :=
  match cutAt? ['!', '='] cs, cutAt? [':'] cs <|> cutAt? ['='] cs with
  | some (name, value), _ => (Property.valued? name value).map (·, true)
  | none, some (name, value) => (Property.valued? name value).map (·, false)
  | none, none => (Property.named? (String.ofList cs)).map (·, false)

/-- The property after `\p` or `\P`. -/
def propertyEscape (negated : Bool) : Scan Atom := do
  bumpSpace
  let (s, unequal) ←
    if (← peek) = '\x7b' then
      bumpSpace
      let name ← takeWhile (· != '\x7d') (← fuel)
      if (← peek) != '\x7d' then fail
      else
        bump
        ofOption (bracedProperty? name)
    else
      let c ← peek
      if c = '\\' then fail
      else
        bumpSpace
        ofOption (bracedProperty? [c])
  let f ← flags
  if !f.unicode then fail
  else return .set (← ofOption (f.negate (negated != unequal) (f.fold s)))

/-- The class of `\d`, `\s` or `\w`, or of its complement in capitals. -/
def classEscape (c : Char) : Scan Atom := do
  bump
  let f ← flags
  let s := match c.toLower, f.unicode with
    | 'd', true => Property.decimalNumber
    | 'd', false => CharSet.asciiDigit
    | 's', true => Property.blank
    | 's', false => CharSet.asciiBlank
    | _, true => Property.word
    | _, false => CharSet.asciiWord
  return .set (← ofOption (f.negate c.isUpper s))

def isBoundaryChar (c : Char) : Bool := c.isAlpha || c == '-'

/-- A word boundary, of the kind that a name in braces says. Braces that hold no name are left for a
repetition. -/
def boundaryEscape : Scan Look := do
  let w := (← flags).unicode
  if (← peek?) != some '\x7b' then return .wordBoundary w
  else
    let start ← get
    bumpSpace
    if !isBoundaryChar (← peek) then
      set start
      return .wordBoundary w
    else
      let name ← takeWhile isBoundaryChar (← fuel)
      if (← peek) != '\x7d' then fail
      else
        bump
        match String.ofList name with
        | "start" => return .wordStart w
        | "end" => return .wordEnd w
        | "start-half" => return .wordStartHalf w
        | "end-half" => return .wordEndHalf w
        | _ => fail

/-- Punctuation and other signs of ASCII stand for themselves after a backslash. -/
def isEscapable (c : Char) : Bool := c.toNat < 0x80 && !c.isAlphanum && c != '<' && c != '>'

def simpleEscape (c : Char) : Scan Atom := do
  bump
  if isEscapable c then return .literal c false
  else
    match c with
    | 'a' => return .literal '\x07' false
    | 'f' => return .literal '\x0c' false
    | 't' => return .literal '\t' false
    | 'n' => return .literal '\n' false
    | 'r' => return .literal '\r' false
    | 'v' => return .literal '\x0b' false
    | 'A' => return .look .textStart
    | 'z' => return .look .textEnd
    | 'b' => return .look (← boundaryEscape)
    | 'B' => return .look (.noWordBoundary (← flags).unicode)
    | '<' => return .look (.wordStart (← flags).unicode)
    | '>' => return .look (.wordEnd (← flags).unicode)
    | _ => fail

/-- What follows a backslash. -/
def escape : Scan Atom := do
  bump
  match ← peek with
  | 'x' => hexEscape 2
  | 'u' => hexEscape 4
  | 'U' => hexEscape 8
  | 'p' => propertyEscape false
  | 'P' => propertyEscape true
  | 'd' => classEscape 'd'
  | 's' => classEscape 's'
  | 'w' => classEscape 'w'
  | 'D' => classEscape 'D'
  | 'S' => classEscape 'S'
  | 'W' => classEscape 'W'
  | c => simpleEscape c

/-- Without Unicode a byte above ASCII is no text. -/
def isWrongByte (f : Flags) (c : Char) (byte : Bool) : Bool :=
  !f.unicode && byte && 0x80 ≤ c.toNat

def ofLiteral? (f : Flags) (c : Char) (byte : Bool) : Option Pattern :=
  if isWrongByte f c byte then none else some (ofSet (f.fold (.ofChar c)))

/-- Any character, but an end of line only if the flags say so. -/
def ofDot? (f : Flags) : Option Pattern :=
  if !f.unicode then none
  else if f.dotAll then some (.chars .all)
  else if f.anyLineEnd then some (.chars (CharSet.complement (.ofChar '\r' ∪ .ofChar '\n')))
  else some (.chars (CharSet.complement (.ofChar '\n')))

def atomPattern : Atom → Scan Pattern
  | .literal c byte => do ofOption (ofLiteral? (← flags) c byte)
  | .set s => return ofSet s
  | .look l => return .look l
  | .dot => do ofOption (ofDot? (← flags))

def lineStart (f : Flags) : Look :=
  if !f.multiLine then .textStart else if f.anyLineEnd then .anyLineStart else .lineStart

def lineEnd (f : Flags) : Look :=
  if !f.multiLine then .textEnd else if f.anyLineEnd then .anyLineEnd else .lineEnd

def primitive : Scan Pattern := do
  match ← peek with
  | '\\' => atomPattern (← escape)
  | '.' =>
    bump
    atomPattern .dot
  | '^' =>
    bump
    return .look (lineStart (← flags))
  | '$' =>
    bump
    return .look (lineEnd (← flags))
  | c =>
    bump
    atomPattern (.literal c false)

def bracketAtom : Scan Atom := do
  let c ← peek
  if c = '\\' then escape
  else
    bump
    return .literal c false

/-- Without Unicode the characters of a set are those of ASCII. -/
def bracketChar (f : Flags) : Atom → Option Char
  | .literal c byte =>
    if isWrongByte f c byte || (!f.unicode && 0x80 ≤ c.toNat) then none else some c
  | _ => none

/-- Part of a set in brackets. -/
structure SetPart where
  set : CharSet
  /-- How deeply brackets, unions of several members and operations nest in it. -/
  height : Nat := 0

/-- A member of a set: a class, a character, or a range of them. -/
def bracketItem : Scan SetPart := do
  let first ← bracketAtom
  skipSpace
  let f ← flags
  let c ← peek
  let after ← second?
  if c != '-' || after == some ']' || after == some '-' then
    match first with
    | .set s => return ⟨s, 0⟩
    | .literal .. => return ⟨.ofChar (← ofOption (bracketChar f first)), 0⟩
    | _ => fail
  else
    bumpSpace
    let last ← bracketAtom
    let a ← ofOption (bracketChar f first)
    let b ← ofOption (bracketChar f last)
    if a ≤ b then return ⟨.ofChars a b, 0⟩ else fail

/-- `[:name:]` or `[:^name:]`, from its opening bracket on. -/
def namedClass? : List Char → Option (CharSet × Bool × List Char)
  | '[' :: ':' :: rest =>
    let (negated, rest) := match rest with
      | '^' :: r => (true, r)
      | r => (false, r)
    let name := rest.takeWhile (· != ':')
    match rest.drop name.length with
    | ':' :: ']' :: rest => (CharSet.named? (String.ofList name)).map fun s => (s, negated, rest)
    | _ => none
  | _ => none

inductive SetOperator where
  | intersection | difference | symmetricDifference

def SetOperator.apply : SetOperator → CharSet → CharSet → CharSet
  | .intersection => .intersection
  | .difference => .difference
  | .symmetricDifference => .symmetricDifference

def unionOf (parts : List SetPart) : SetPart :=
  match parts with
  | [part] => part
  | [] => ⟨.empty, 0⟩
  | parts => ⟨.unionAll (parts.map (·.set)), (parts.map (·.height)).foldl max 0 + 1⟩

/-- Operators group to the left, and case is levelled out before they apply. -/
def operate (f : Flags) (left : Option (SetOperator × SetPart)) (right : SetPart) : SetPart :=
  match left with
  | none => right
  | some (op, left) =>
    ⟨op.apply (f.fold left.set) (f.fold right.set), max left.height right.height + 1⟩

def setOperator? : Scan (Option SetOperator) := do
  if ← eat "&&" then return some .intersection
  else if ← eat "--" then return some .difference
  else if ← eat "~~" then return some .symmetricDifference
  else return none

/-- Hyphens at the start of a set stand for themselves. -/
def leadingHyphens : Nat → Scan (List SetPart)
  | 0 => return []
  | n + 1 => do
    if (← peek) = '-' then
      bumpSpace
      return ⟨.ofChar '-', 0⟩ :: (← leadingHyphens n)
    else return []

/-- The start of a set after its bracket: whether it is negated, and the members that would mean
something else further on. -/
def bracketStart (n : Nat) : Scan (Bool × List SetPart) := do
  bumpSpace
  let negated := (← peek) == '^'
  if negated then bumpSpace
  let hyphens ← leadingHyphens n
  if hyphens.isEmpty && (← peek) = ']' then
    bumpSpace
    return (negated, [⟨.ofChar ']', 0⟩])
  else return (negated, hyphens)

/-- The rest of a set, with what stands before it. -/
def bracketTail : Nat → Bool → Option (SetOperator × SetPart) → List SetPart → Scan SetPart
  | 0, _, _, _ => fail
  | n + 1, negated, left, parts => do
    skipSpace
    let f ← flags
    match ← peek with
    | '[' =>
      match namedClass? (← get).rest with
      | some (s, negatedClass, rest) =>
        modify fun c => { c with rest }
        let s ← ofOption (f.negate negatedClass (f.fold s))
        bracketTail n negated left (parts ++ [⟨s, 0⟩])
      | none =>
        let (negatedInner, start) ← bracketStart n
        let inner ← bracketTail n negatedInner none start
        bracketTail n negated left (parts ++ [inner])
    | ']' =>
      bump
      let whole := operate f left (unionOf parts)
      return ⟨← ofOption (f.negate negated (f.fold whole.set)), whole.height + 1⟩
    | _ =>
      match ← setOperator? with
      | some op => bracketTail n negated (some (op, operate f left (unionOf parts))) []
      | none => bracketTail n negated left (parts ++ [← bracketItem])

/-- A set from its bracket on; the bound is no less than what is left of the text. -/
def bracket (n : Nat) : Scan SetPart := do
  let (negated, start) ← bracketStart n
  bracketTail n negated none start

/-- A count of a repetition, at most what 32 bits hold; none if there are no digits. -/
def count? : Scan (Option Nat) := do
  modify fun s => { s with rest := s.rest.dropWhile Text.isBlank }
  let digits ← takeWhile Char.isDigit (← fuel)
  let _ ← takeWhile Text.isBlank (← fuel)
  if digits.isEmpty then return none
  else
    let n := digits.foldl (fun n c => 10 * n + (c.toNat - '0'.toNat)) 0
    if n < Nat.pow 2 32 then return some n else fail

/-- The bounds between braces. -/
def bounds : Scan (Nat × Option Nat) := do
  bumpSpace
  let least ← count?
  let range ←
    if (← peek) = ',' then
      bumpSpace
      if (← peek) = '\x7d' then pure (← ofOption least, none)
      else
        let least ← ofOption least
        let most ← ofOption (← count?)
        pure (least, some most)
    else
      let exact ← ofOption least
      pure (exact, some exact)
  if (← peek) != '\x7d' then fail
  else
    bumpSpace
    if range.2.any (· < range.1) then fail else return range

/-- A part of a sequence. Flags are no part that can be repeated. -/
structure Item where
  pattern : Pattern
  /-- How deeply groups, repetitions, sequences, choices and sets nest as written. -/
  height : Nat := 0
  repeatable : Bool := true

def highest (items : List Item) : Nat := (items.map (·.height)).foldl max 0

/-- Repeats the last item, lazily or not. -/
def repeatLast (items : List Item) (range : Nat × Option Nat) : Scan (List Item) := do
  match items with
  | item :: rest =>
    if item.repeatable then
      let marked ← eat "?"
      let greedy := marked == (← flags).lazyFirst
      let pattern := repeatedOf item.pattern range.1 range.2 greedy
      return { pattern, height := item.height + 1 } :: rest
    else fail
  | [] => fail

/-- The flags up to the colon or parenthesis that ends them. -/
def readFlags : Nat → (seen : List Char) → (on dangling : Bool) → Flags → Scan (List Char × Flags)
  | 0, _, _, _, _ => fail
  | n + 1, seen, on, dangling, f => do
    let c ← peek
    if c = ':' || c = ')' then
      if dangling then fail else return (seen, f)
    else if seen.contains c then fail
    else
      bump
      if c = '-' then readFlags n (c :: seen) false true f
      else readFlags n (c :: seen) on false (← ofOption (f.set c on))

def isNameChar (first : Bool) (c : Char) : Bool :=
  if first then c == '_' || Text.isAlphabetic c
  else c == '_' || c == '.' || c == '[' || c == ']' || Text.isAlphanumeric c

/-- The name of a group, which no other group may have. -/
def groupName : Scan Unit := do
  let s ← get
  let name := s.rest.takeWhile (· != '>')
  let rest := s.rest.drop name.length
  match name with
  | [] => fail
  | c :: cs =>
    let text := String.ofList name
    let wellFormed := isNameChar true c && cs.all (isNameChar false)
    if rest.isEmpty || !wellFormed || s.names.contains text then fail
    else set { s with rest := rest.tail, names := text :: s.names }

inductive GroupStart where
  | flags (f : Flags)
  | body (f : Flags) (captures : Bool)

/-- The start of a group after its parenthesis. Looking ahead or behind is not supported. -/
def groupStart : Scan GroupStart := do
  bump
  skipSpace
  let f ← flags
  let rest := (← get).rest
  if ["?=", "?!", "?<=", "?<!"].any fun ahead => ahead.toList.isPrefixOf rest then fail
  else if ← eat "?P<" then
    groupName
    return .body f true
  else if ← eat "?<" then
    groupName
    return .body f true
  else if ← eat "?" then
    let (seen, f) ← readFlags (← fuel) [] true false f
    if (← next) = ':' then return .body f false
    else if seen.isEmpty then fail
    else return .flags f
  else return .body f true

/-- Items, last first, one after another. -/
def joinItems (items : List Item) : Item :=
  match items with
  | [] => { pattern := .empty }
  | [item] => item
  | items => { pattern := sequenceOf (items.reverse.map (·.pattern)), height := highest items + 1 }

/-- Alternatives, last first. -/
def chooseItems (items : List Item) : Item :=
  match items with
  | [item] => item
  | items => { pattern := choiceOf (items.reverse.map (·.pattern)), height := highest items + 1 }

def groupItem (inner : Item) (captures : Bool) : Item :=
  { pattern := if captures then .capture inner.pattern else inner.pattern,
    height := inner.height + 1 }

/-- A whole pattern or the inside of a group, up to its end or a closing parenthesis. `done` holds
the alternatives so far and `items` the parts of the one being read, both last first. -/
def scanChoice : Nat → (done items : List Item) → Scan Item
  | 0, _, _ => fail
  | n + 1, done, items => do
    skipSpace
    match ← peek? with
    | none => return chooseItems (joinItems items :: done)
    | some ')' => return chooseItems (joinItems items :: done)
    | some '|' =>
      bump
      scanChoice n (joinItems items :: done) []
    | some '(' =>
      let outer ← flags
      match ← groupStart with
      | .flags f =>
        modify fun s => { s with flags := f }
        scanChoice n done ({ pattern := .empty, repeatable := false } :: items)
      | .body f captures =>
        modify fun s => { s with flags := f }
        let inner ← scanChoice n [] []
        if (← next) = ')' then
          modify fun s => { s with flags := outer }
          scanChoice n done (groupItem inner captures :: items)
        else fail
    | some '[' =>
      let part ← bracket (n + 1)
      scanChoice n done ({ pattern := ofSet part.set, height := part.height } :: items)
    | some '?' =>
      bump
      scanChoice n done (← repeatLast items (0, some 1))
    | some '*' =>
      bump
      scanChoice n done (← repeatLast items (0, none))
    | some '+' =>
      bump
      scanChoice n done (← repeatLast items (1, none))
    | some '\x7b' => scanChoice n done (← repeatLast items (← bounds))
    | some _ => scanChoice n done ({ pattern := ← primitive } :: items)

/-- How deeply a pattern may nest. -/
def maxHeight : Nat := 250

/-- The pattern that a text spells. -/
def ofText? (text : String) : Option Pattern :=
  match (scanChoice (text.length + 1) [] []).run { rest := text.toList } with
  | some (item, cursor) =>
    if cursor.rest.isEmpty && item.height ≤ maxHeight && item.pattern.fits then some item.pattern
    else none
  | none => none

end SqlWeave.Pattern
