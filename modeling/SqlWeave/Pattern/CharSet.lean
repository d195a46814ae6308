/-! Sets of characters, as a pattern names them. -/

namespace SqlWeave.Pattern

/-- The characters whose codes lie from `first` to `last`. Codes of surrogates may lie between them,
but are no characters. -/
structure CharRange where
  first : Nat
  last : Nat
deriving DecidableEq

namespace CharRange

def has (r : CharRange) (c : Char) : Bool := r.first ≤ c.toNat && c.toNat ≤ r.last

/-- What two ranges share. -/
def meet? (r s : CharRange) : Option CharRange :=
  let first := max r.first s.first
  let last := min r.last s.last
  if first ≤ last then some ⟨first, last⟩ else none

/-- Joins ranges that overlap or touch, if they come in ascending order after `r`. -/
def joinAll (r : CharRange) : List CharRange → List CharRange
  | [] => [r]
  | s :: rest =>
    if s.first ≤ r.last + 1 then joinAll ⟨r.first, max r.last s.last⟩ rest else r :: joinAll s rest

end CharRange

/-- The highest code of a character. -/
def maxCode : Nat := 0x10FFFF

/-- The code of the next character, which steps over the surrogates. -/
def nextCode (n : Nat) : Nat := if n = 0xD7FF then 0xE000 else n + 1

/-- The code of the character before. -/
def previousCode (n : Nat) : Nat := if n = 0xE000 then 0xD7FF else n - 1

/-- Ranges in ascending order, none of which touches the next. -/
structure CharSet where
  ranges : List CharRange
deriving DecidableEq

namespace CharSet

def has (s : CharSet) (c : Char) : Bool := s.ranges.any (·.has c)

def empty : CharSet := ⟨[]⟩

def all : CharSet := ⟨[⟨0, maxCode⟩]⟩

/-- The characters of any ranges, in whatever order. -/
def ofRanges (ranges : List CharRange) : CharSet :=
  match ranges.mergeSort fun r s => r.first ≤ s.first with
  | [] => empty
  | r :: rest => ⟨r.joinAll rest⟩

def ofCode (n : Nat) : CharSet := ⟨[⟨n, n⟩]⟩

def ofChar (c : Char) : CharSet := ofCode c.toNat

def ofChars (first last : Char) : CharSet := ⟨[⟨first.toNat, last.toNat⟩]⟩

/-- The ranges of a table `lo₀, hi₀, lo₁, hi₁, …`, each without its end. -/
def boundRanges : List Nat → List CharRange
  | lo :: hi :: rest => ⟨lo, hi - 1⟩ :: boundRanges rest
  | _ => []

def ofBounds (bounds : List Nat) : CharSet := ofRanges (boundRanges bounds)

def isEmpty (s : CharSet) : Bool := s.ranges.isEmpty

/-- The character of a set that has no other. -/
def single? (s : CharSet) : Option Char :=
  match s.ranges with
  | [r] => if r.first = r.last then some (Char.ofNat r.first) else none
  | _ => none

def isAscii (s : CharSet) : Bool := s.ranges.all (·.last < 0x80)

def unionAll (sets : List CharSet) : CharSet := ofRanges (sets.flatMap (·.ranges))

def union (s t : CharSet) : CharSet := ofRanges (s.ranges ++ t.ranges)

def intersection (s t : CharSet) : CharSet :=
  ⟨s.ranges.flatMap fun r => t.ranges.filterMap r.meet?⟩

/-- What lies between the ranges from the code `start` on. -/
def gaps (start : Nat) : List CharRange → List CharRange
  | [] => if start ≤ maxCode then [⟨start, maxCode⟩] else []
  | r :: rest =>
    if start < r.first then ⟨start, previousCode r.first⟩ :: gaps (nextCode r.last) rest
    else gaps (nextCode r.last) rest

def complement (s : CharSet) : CharSet := ⟨gaps 0 s.ranges⟩

def difference (s t : CharSet) : CharSet := s.intersection t.complement

def symmetricDifference (s t : CharSet) : CharSet := (s.union t).difference (s.intersection t)

/-- The gap between two ranges of a negated set. Ranges that meet at the surrogates have no
character between them; their gap is read backwards and holds the two that border on it. -/
def negatedGap (r s : CharRange) : CharRange :=
  let a := nextCode r.last
  let b := previousCode s.first
  ⟨min a b, max a b⟩

/-- The characters that a set in brackets leaves out, as `[^…]` has it: the complement, but for
ranges that meet at the surrogates. -/
def negate (s : CharSet) : CharSet :=
  match s.ranges with
  | [] => all
  | r :: rest =>
    let before := if 0 < r.first then [⟨0, previousCode r.first⟩] else []
    let last := (rest.getLast?.getD r).last
    let after := if last < maxCode then [⟨nextCode last, maxCode⟩] else []
    ⟨before ++ (r :: rest).zipWith negatedGap rest ++ after⟩

instance : Union CharSet := ⟨union⟩

instance : Inter CharSet := ⟨intersection⟩

instance : SDiff CharSet := ⟨difference⟩

/-- The letter of ASCII that differs from `c` in case only. -/
def swapAsciiCase (c : Char) : Char := if c.isUpper then c.toLower else c.toUpper

/-- Adds to a set of ASCII the letters that differ in case only from one of it. -/
def foldAscii (s : CharSet) : CharSet :=
  let letters := ((List.range 0x80).map Char.ofNat).filter fun c => s.has (swapAsciiCase c)
  unionAll (s :: letters.map ofChar)

def asciiDigit : CharSet := ofChars '0' '9'

def asciiBlank : CharSet := ofChars '\t' '\r' ∪ ofChar ' '

def asciiAlpha : CharSet := ofChars 'A' 'Z' ∪ ofChars 'a' 'z'

def asciiWord : CharSet := asciiDigit ∪ asciiAlpha ∪ ofChar '_'

/-- The classes that are named between `[:` and `:]`. -/
def named? : String → Option CharSet
  | "alnum" => some (asciiDigit ∪ asciiAlpha)
  | "alpha" => some asciiAlpha
  | "ascii" => some (ofChars '\x00' '\x7f')
  | "blank" => some (ofChar '\t' ∪ ofChar ' ')
  | "cntrl" => some (ofChars '\x00' '\x1f' ∪ ofChar '\x7f')
  | "digit" => some asciiDigit
  | "graph" => some (ofChars '!' '~')
  | "lower" => some (ofChars 'a' 'z')
  | "print" => some (ofChars ' ' '~')
  | "punct" =>
    some (unionAll [ofChars '!' '/', ofChars ':' '@', ofChars '[' '\x60', ofChars '\x7b' '~'])
  | "space" => some asciiBlank
  | "upper" => some (ofChars 'A' 'Z')
  | "word" => some asciiWord
  | "xdigit" => some (unionAll [asciiDigit, ofChars 'A' 'F', ofChars 'a' 'f'])
  | _ => none

end CharSet

end SqlWeave.Pattern
