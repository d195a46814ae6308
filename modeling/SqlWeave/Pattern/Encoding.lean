import SqlWeave.Pattern.CharSet

/-! Characters as bytes in UTF-8. A set of characters is a list of byte sequences, in which each
place holds a range of bytes. -/

namespace SqlWeave.Pattern

structure ByteRange where
  first : Nat
  last : Nat
deriving DecidableEq

abbrev ByteSequence := List ByteRange

def continuation : ByteRange := ⟨0x80, 0xBF⟩

/-- The sequences of a leading byte, counted from `lead`, and so many continuations, for the numbers
from `a` to `b`: those that share the leading byte of `a`, those whose continuations are free, and
those that share the leading byte of `b`. -/
def sequencesFrom : Nat → (lead a b : Nat) → List ByteSequence
  | 0, lead, a, b => [[⟨lead + a, lead + b⟩]]
  | n + 1, lead, a, b =>
    let width := 64 ^ (n + 1)
    let under (byte a b : Nat) : List ByteSequence :=
      (sequencesFrom n continuation.first a b).map (⟨lead + byte, lead + byte⟩ :: ·)
    if a / width = b / width then under (a / width) (a % width) (b % width)
    else
      let whole := a % width = 0
      let wholeEnd := b % width = width - 1
      let start := if whole then a / width else a / width + 1
      let stop := if wholeEnd then b / width + 1 else b / width
      (if whole then [] else under (a / width) (a % width) (width - 1)) ++
        (if start < stop then
          [⟨lead + start, lead + stop - 1⟩ :: List.replicate (n + 1) continuation] else []) ++
        (if wholeEnd then [] else under (b / width) 0 (b % width))

/-- The characters whose sequences have one length: their range, the number of continuations and the
first leading byte. Surrogates have no sequence. -/
def encodedBlocks : List (CharRange × Nat × Nat) := [
  (⟨0, 0x7F⟩, 0, 0), (⟨0x80, 0x7FF⟩, 1, 0xC0), (⟨0x800, 0xD7FF⟩, 2, 0xE0),
  (⟨0xE000, 0xFFFF⟩, 2, 0xE0), (⟨0x10000, maxCode⟩, 3, 0xF0)]

def CharRange.sequences (r : CharRange) : List ByteSequence :=
  encodedBlocks.flatMap fun (block, continuations, lead) =>
    match r.meet? block with
    | some shared => sequencesFrom continuations lead shared.first shared.last
    | none => []

/-- The sequences of a set in ascending order. -/
def CharSet.sequences (s : CharSet) : List ByteSequence := s.ranges.flatMap (·.sequences)

/-- The bytes of a text. -/
def utf8Bytes (text : List Char) : List Nat :=
  text.flatMap fun c => (CharSet.ofChar c).sequences.flatten.map (·.first)

end SqlWeave.Pattern
