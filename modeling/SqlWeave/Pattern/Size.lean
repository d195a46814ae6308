import SqlWeave.Pattern.Encoding
import SqlWeave.Pattern.Normal
import Std.Data.HashMap

/-! How large the automaton of a pattern is that reads texts byte by byte. Its states are numbered
in the order in which they are made; each takes 32 bytes, an edge of a fork takes 4 more and an edge
under a range of bytes, where a state has several, 8 more. A counted repetition is written out. -/

namespace SqlWeave.Pattern

/-- An automaton as far as it is made. -/
structure Size where
  states : Nat := 0
  /-- The bytes that edges take. -/
  edges : Nat := 0
  /-- Whether the part made last ends in a fork, which takes one more edge to go on from. -/
  forked : Bool := false

namespace Size

def bytes (z : Size) : Nat := 32 * z.states + z.edges

/-- How large an automaton may get. -/
def limit : Nat := 10 * Nat.pow 2 20

def isOver (z : Size) : Bool := limit < z.bytes

def add (z : Size) (states edges : Nat) : Size := ⟨z.states + states, z.edges + edges, false⟩

/-- Makes a fork with one edge back into what it follows, where the next part goes on. -/
def addLoop (z : Size) : Size := ⟨z.states + 1, z.edges + 4, true⟩

/-- Goes on from the end of the part made last. -/
def link (z : Size) : Size := if z.forked then z.add 0 4 else z

end Size

/-- The states made for a set that may be used again. The memory has so many places; what is written
to a place drives out what was there. -/
structure Memory where
  places : Nat
  states : Std.HashMap Nat (List Nat × Nat) := {}

namespace Memory

/-- The place of a state, from the numbers that describe it: each is mixed in by exclusive or, then
multiplied in. -/
def place (m : Memory) (description : List Nat) : Nat :=
  let mix (h : UInt64) (n : Nat) : UInt64 := (h ^^^ n.toUInt64) * 1099511628211
  (description.foldl mix 14695981039346656037).toNat % m.places

def find? (m : Memory) (description : List Nat) : Option Nat :=
  match m.states[m.place description]? with
  | some (found, state) => if found = description then some state else none
  | none => none

def insert (m : Memory) (description : List Nat) (state : Nat) : Memory :=
  { m with states := m.states.insert (m.place description) (description, state) }

end Memory

/-- An automaton with the states of the set that is being added. -/
structure Draft where
  size : Size
  memory : Memory

/-- The number of the state that is described, which is made unless it is remembered. -/
def Draft.state (d : Draft) (description : List Nat) (edges : Nat) : Nat × Draft :=
  match d.memory.find? description with
  | some state => (state, d)
  | none =>
    (d.size.states, ⟨d.size.add 1 edges, d.memory.insert description d.size.states⟩)

/-- Adds a state from which the sequences lead to the target, after the states on the way. Sequences
that start alike share an edge. -/
def Draft.addTree : Nat → (target : Nat) → List ByteSequence → Draft → Nat × Draft
  | 0, target, _, d => (target, d)
  | depth + 1, target, sequences, d =>
    let groups := sequences.splitBy fun a b => a.head? == b.head?
    let (edges, d) := groups.foldl (fun (edges, d) group =>
      match group with
      | (byte :: rest) :: _ =>
        let (next, d) :=
          if rest.isEmpty then (target, d) else addTree depth target (group.map List.tail) d
        ([next, byte.last, byte.first] ++ edges, d)
      | _ => (edges, d)) ([], d)
    d.state edges.reverse (8 * groups.length)

/-- Adds the states of one sequence that is read from its end; the first byte leads to the
target. -/
def Draft.addReversed (target : Nat) (sequence : ByteSequence) (d : Draft) : Draft :=
  (sequence.foldl (fun (next, d) byte => d.state [next, byte.first, byte.last] 0) (target, d)).2

namespace Size

/-- A set of ASCII is one state before its end. For others, reading forwards, the bytes of all
characters make up a tree; reading backwards, a fork leads to each sequence. -/
def addSet (backward : Bool) (s : CharSet) (z : Size) : Size :=
  if s.isAscii then z.add 2 (8 * s.ranges.length)
  else if backward then
    let sequences := s.sequences
    let start : Draft := ⟨z.add 2 0, ⟨1000, {}⟩⟩
    let done := sequences.foldl (fun d sequence => d.addReversed (z.states + 1) sequence) start
    done.size.add 0 (4 * sequences.length)
  else (Draft.addTree 4 z.states s.sequences ⟨z.add 1 0, ⟨10000, {}⟩⟩).2.size

/-- The runs of words between those that end here. -/
def cutAtEnds : List (List Nat) → List (List (List Nat))
  | [] => [[]]
  | [] :: words => [] :: cutAtEnds words
  | word :: words =>
    match cutAtEnds words with
    | run :: runs => (word :: run) :: runs
    | [] => [[word]]

/-- The same, where the words that end before any has gone on count as one. -/
def wordRuns (words : List (List Nat)) : List (List (List Nat)) :=
  let rest := words.dropWhile List.isEmpty
  if rest.length < words.length then [] :: cutAtEnds rest else cutAtEnds rest

/-- Adds the tree of words that are alternatives to each other, up to their common end. Since an
earlier word comes first, a word that ends parts those after it from those before it: a fork leads
to each run. -/
def addWords : Nat → List (List Nat) → Size → Size
  | 0, _, z => z
  | n + 1, words, z =>
    let runs := wordRuns words
    let z := runs.foldl (fun z run =>
      let bytes := (run.filterMap List.head?).eraseDups
      let z := bytes.foldl (fun z byte =>
        let rests := (run.filter (·.head? == some byte)).map List.tail
        if rests.all List.isEmpty then z else addWords n rests z) z
      match bytes.length with
      | 0 => z
      | 1 => z.add 1 4
      | k => z.add 1 (4 + 8 * k)) z
    z.add 1 (4 * (runs.length - 1))

/-- Adds a part so many times, one after another. -/
def addCopies (part : Size → Size) : Nat → Size → Size
  | 0, z => z
  | n + 1, z => if z.isOver then z else addCopies part n (part z.link)

/-- Adds a part so many times, each of which may be the last. -/
def addOptional (part : Size → Size) : Nat → Size → Size
  | 0, z => z
  | n + 1, z => if z.isOver then z else addOptional part n (part (z.add 1 8)).link

/-- Adds a part exactly so many times. -/
def addExactly (part : Size → Size) : Nat → Size → Size
  | 0, z => z.add 1 0
  | n, z => addCopies part n z

/-- Adds a part as often as a repetition allows; `neverEmpty` tells that the part takes a text. -/
def addRepeated (part : Size → Size) (neverEmpty : Bool) : Nat → Option Nat → Size → Size
  | 0, some 1, z => (part (z.add 1 0)).link.add 1 8
  | 0, none, z =>
    if neverEmpty then { (part (z.add 1 0)).link.add 0 4 with forked := true }
    else (part z).link.add 3 16
  | least + 1, none, z => (addCopies part (least + 1) z).link.addLoop
  | least, some most, z =>
    let first := addExactly part least z
    if least = most then first else addOptional part (most - least) (first.link.add 1 0)

end Size

mutual
/-- The least length of a match; none if some part matches nothing. -/
def leastLength : Pattern → Option Nat
  | .empty | .look _ => some 0
  | .literal text => some text.length
  | .chars s => if s.isEmpty then none else some 1
  | .capture p => p.leastLength
  | .repeated p least _ _ => p.leastLength.map (· * least)
  | .sequence items => (leastLengths items).map List.sum
  | .choice items => (leastLengths items).map fun ns => ns.min?.getD 0
def leastLengths : List Pattern → Option (List Nat)
  | [] => some []
  | p :: ps => do return (← p.leastLength) :: (← leastLengths ps)
end

def neverEmpty (p : Pattern) : Bool := p.leastLength.any (0 < ·)

def bytesOf? : Pattern → Option (List Nat)
  | .literal text => some (utf8Bytes text)
  | _ => none

mutual
/-- Adds the automaton of a pattern. One that reads backwards has no need of groups. -/
def addTo (backward : Bool) : Pattern → Size → Size
  | .empty, z => z.add 1 0
  | .literal text, z => z.add (utf8Bytes text).length 0
  | .chars s, z => z.addSet backward s
  | .look _, z => z.add 1 0
  | .capture p, z =>
    if backward then p.addTo backward z else (p.addTo backward (z.add 1 0)).link.add 1 0
  | .sequence items, z =>
    if backward then addAllBackward items z else addAll items z
  | .choice items, z =>
    match items.mapM bytesOf? with
    | some words =>
      let words := if backward then words.map List.reverse else words
      z.add 1 0 |>.addWords ((words.map List.length).sum + 1) words
    | none => addAny backward items 0 z
  | .repeated p least most _, z =>
    z.addRepeated (fun z => p.addTo backward z) p.neverEmpty least most
def addAll : List Pattern → Size → Size
  | [], z => z
  | p :: ps, z => if z.isOver then z else addAll ps (p.addTo false z.link)
def addAllBackward : List Pattern → Size → Size
  | [], z => z
  | p :: ps, z =>
    let z := addAllBackward ps z
    if z.isOver then z else p.addTo true z.link
/-- Adds alternatives of which `done` are there; the fork between them and their common end come
after the second. -/
def addAny (backward : Bool) : List Pattern → (done : Nat) → Size → Size
  | [], _, z => z
  | p :: ps, done, z =>
    let z := (p.addTo backward z).link.add 0 4
    addAny backward ps (done + 1) (if done = 1 then z.add 2 0 else z)
end

mutual
/-- Whether a match starts, or read backwards ends, with what the look asks. -/
def needs (backward : Bool) (l : Look) : Pattern → Bool
  | .empty | .literal _ | .chars _ => false
  | .look m => l == m
  | .capture p => p.needs backward l
  | .repeated p least _ _ => 0 < least && p.needs backward l
  | .sequence items => if backward then lastNeeds l items else firstNeeds l items
  | .choice items => allNeed backward l items
def firstNeeds (l : Look) : List Pattern → Bool
  | [] => false
  | p :: ps => p.needs false l || (p.isVoid && firstNeeds l ps)
def lastNeeds (l : Look) : List Pattern → Bool
  | [] => false
  | p :: ps => lastNeeds l ps || (areVoid ps && p.needs true l)
def allNeed (backward : Bool) (l : Look) : List Pattern → Bool
  | [] => true
  | p :: ps => p.needs backward l && allNeed backward l ps
end

/-- The size of the automaton that finds a pattern, read forwards with the bounds of all groups, or
backwards. Unless the pattern is bound to the end of the text where reading starts, a loop over all
bytes comes first. -/
def automaton (backward : Bool) (p : Pattern) : Size :=
  let z : Size :=
    if p.needs backward (if backward then .textEnd else .textStart) then ⟨1, 0, false⟩
    else ⟨3, 16, false⟩
  (p.capture.addTo backward z).link.add 1 0

/-- Whether the automata of a pattern are within the limit. -/
def fits (p : Pattern) : Bool := !(p.automaton false).isOver && !(p.automaton true).isOver

end SqlWeave.Pattern
