import SqlWeave.Pattern.Property

/-! Search patterns and the texts they match. A match is computed for all positions at once: from
the positions where it may start, a pattern leads to those where it may end. -/

namespace SqlWeave

/-- What is asked of a position, by the characters before and after it. Words are those of Unicode
or those of ASCII. -/
inductive Pattern.Look where
  | textStart | textEnd
  | lineStart | lineEnd
  /-- Lines that end in a carriage return, a line feed, or both. -/
  | anyLineStart | anyLineEnd
  | wordBoundary (unicode : Bool)
  | noWordBoundary (unicode : Bool)
  | wordStart (unicode : Bool)
  | wordEnd (unicode : Bool)
  /-- No word before. -/
  | wordStartHalf (unicode : Bool)
  /-- No word after. -/
  | wordEndHalf (unicode : Bool)
deriving DecidableEq

inductive Pattern where
  | empty
  | literal (text : List Char)
  | chars (s : Pattern.CharSet)
  | look (l : Pattern.Look)
  | sequence (items : List Pattern)
  | choice (items : List Pattern)
  /-- A group whose text could be asked for. -/
  | capture (p : Pattern)
  /-- Greed changes which match is found first, not whether there is one. -/
  | repeated (p : Pattern) (least : Nat) (most : Option Nat) (greedy : Bool)

namespace Pattern

def isWordChar (unicode : Bool) (c : Char) : Bool :=
  if unicode then Property.word.has c else CharSet.asciiWord.has c

def Look.holds : Look → (before after : Option Char) → Bool
  | .textStart, before, _ => before.isNone
  | .textEnd, _, after => after.isNone
  | .lineStart, before, _ => before.all (· == '\n')
  | .lineEnd, _, after => after.all (· == '\n')
  | .anyLineStart, before, after =>
    before.all fun c => c == '\n' || (c == '\r' && after != some '\n')
  | .anyLineEnd, before, after =>
    after.all fun c => c == '\r' || (c == '\n' && before != some '\r')
  | .wordBoundary u, before, after => before.any (isWordChar u) != after.any (isWordChar u)
  | .noWordBoundary u, before, after => before.any (isWordChar u) == after.any (isWordChar u)
  | .wordStart u, before, after => !before.any (isWordChar u) && after.any (isWordChar u)
  | .wordEnd u, before, after => before.any (isWordChar u) && !after.any (isWordChar u)
  | .wordStartHalf u, before, _ => !before.any (isWordChar u)
  | .wordEndHalf u, _, after => !after.any (isWordChar u)

/-- One mark for each position of a text: before its first character, after it, and so on. -/
abbrev Marks := List Bool

/-- The positions of a text that a look accepts. -/
def Look.marks (l : Look) (before : Option Char) : List Char → Marks
  | [] => [l.holds before none]
  | c :: cs => l.holds before (some c) :: Look.marks l (some c) cs

namespace Marks

def union (a b : Marks) : Marks := a.zipWith (· || ·) b

def intersection (a b : Marks) : Marks := a.zipWith (· && ·) b

def without (a b : Marks) : Marks := a.zipWith (fun x y => x && !y) b

/-- Moves the marks over the characters that pass. -/
def step (text : List Char) (test : Char → Bool) (marks : Marks) : Marks :=
  false :: text.zipWith (fun c m => m && test c) marks

/-- What `f` reaches from the marks in at most so many steps, given what is `reached` already. -/
def close (f : Marks → Marks) : Nat → (reached marks : Marks) → Marks
  | 0, reached, _ => reached
  | n + 1, reached, marks =>
    let new := without (f marks) reached
    if new.any id then close f n (union reached new) new else reached

end Marks

mutual
/-- Where a match that starts at one of the marks may end. Repetition over a text needs no more
rounds than the text has positions, since each further round would go in a circle. -/
def advance (text : List Char) : Pattern → Marks → Marks
  | .empty, marks => marks
  | .literal word, marks => word.foldl (fun marks c => marks.step text (· == c)) marks
  | .chars s, marks => marks.step text s.has
  | .look l, marks => marks.intersection (l.marks none text)
  | .sequence items, marks => advanceAll text items marks
  | .choice items, marks => advanceAny text items marks
  | .capture p, marks => p.advance text marks
  | .repeated p least most _, marks =>
    let rounds := text.length + 1
    let first := Nat.repeat (fun marks => p.advance text marks) (min least rounds) marks
    let more := match most with
      | some most => min (most - least) rounds
      | none => rounds
    Marks.close (fun marks => p.advance text marks) more first first
def advanceAll (text : List Char) : List Pattern → Marks → Marks
  | [], marks => marks
  | p :: ps, marks => advanceAll text ps (p.advance text marks)
def advanceAny (text : List Char) : List Pattern → Marks → Marks
  | [], marks => marks.map fun _ => false
  | p :: ps, marks => (p.advance text marks).union (advanceAny text ps marks)
end

/-- Whether some part of the text matches. -/
def isMatch (p : Pattern) (text : String) : Bool :=
  (p.advance text.toList (List.replicate (text.length + 1) true)).any id

end Pattern

end SqlWeave
