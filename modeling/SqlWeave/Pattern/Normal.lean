import SqlWeave.Pattern.Basic

/-! Patterns in normal form: parts that say the same in fewer words. Each function here builds a
pattern that matches what its parts say, from parts that are in normal form already. -/

namespace SqlWeave.Pattern

mutual
/-- Whether only the empty text can match, as the parts show it. -/
def isVoid : Pattern → Bool
  | .empty | .look _ => true
  | .literal _ | .chars _ => false
  | .capture p => p.isVoid
  | .repeated p _ _ _ => p.isVoid
  | .sequence items => areVoid items
  | .choice items => areVoid items
def areVoid : List Pattern → Bool
  | [] => true
  | p :: ps => p.isVoid && areVoid ps
end

mutual
/-- Whether two patterns are written alike. Two groups never are, since each has a text of its
own. -/
def isSame : Pattern → Pattern → Bool
  | .empty, .empty => true
  | .literal a, .literal b => a == b
  | .chars s, .chars t => s == t
  | .look l, .look m => l == m
  | .sequence ps, .sequence qs => areSame ps qs
  | .choice ps, .choice qs => areSame ps qs
  | .repeated p least most greedy, .repeated q least' most' greedy' =>
    least == least' && most == most' && greedy == greedy' && isSame p q
  | _, _ => false
def areSame : List Pattern → List Pattern → Bool
  | [], [] => true
  | p :: ps, q :: qs => isSame p q && areSame ps qs
  | _, _ => false
end

/-- A set of one character is that character. -/
def ofSet (s : CharSet) : Pattern :=
  match s.single? with
  | some c => .literal [c]
  | none => .chars s

/-- The parts of a pattern that come one after another. -/
def items : Pattern → List Pattern
  | .empty => []
  | .sequence ps => ps
  | p => [p]

/-- Puts a part before others; literals next to each other are one. -/
def before : Pattern → List Pattern → List Pattern
  | .literal a, .literal b :: rest => .literal (a ++ b) :: rest
  | p, rest => p :: rest

def sequenceOf (ps : List Pattern) : Pattern :=
  match (ps.flatMap items).foldr before [] with
  | [] => .empty
  | [p] => p
  | ps => .sequence ps

/-- The alternatives of a pattern. -/
def alternatives : Pattern → List Pattern
  | .choice ps => ps
  | p => [p]

/-- The set that alternatives of one character each, or of one set each, make up. -/
def joinedSet? (ps : List Pattern) : Option CharSet :=
  let chars? := ps.mapM fun
    | .literal [c] => some (CharSet.ofChar c)
    | _ => none
  let sets? := ps.mapM fun
    | .chars s => some s
    | _ => none
  (chars? <|> sets?).map CharSet.unionAll

/-- What two sequences start with. -/
def commonLead : List Pattern → List Pattern → List Pattern
  | p :: ps, q :: qs => if isSame p q then p :: commonLead ps qs else []
  | _, _ => []

/-- What all alternatives start with; nothing unless all of them are sequences. -/
def sharedLead (ps : List Pattern) : List Pattern :=
  let sequences? := ps.mapM fun
    | .sequence items => some items
    | _ => none
  match sequences? with
  | some (first :: rest) => rest.foldl commonLead first
  | _ => []

mutual
/-- How many parts a pattern has. -/
def partCount : Pattern → Nat
  | .empty | .literal _ | .chars _ | .look _ => 1
  | .capture p => p.partCount + 1
  | .repeated p _ _ _ => p.partCount + 1
  | .sequence items => partCounts items + 1
  | .choice items => partCounts items + 1
def partCounts : List Pattern → Nat
  | [] => 0
  | p :: ps => p.partCount + partCounts ps
end

/-- Alternatives, with what they all start with put before the choice. Each round takes parts away,
so there are fewer rounds than parts. -/
def choiceWithin : Nat → List Pattern → Pattern
  | 0, ps => .choice ps
  | n + 1, ps =>
    match ps.flatMap alternatives with
    | [] => .chars .empty
    | [p] => p
    | ps =>
      match joinedSet? ps, sharedLead ps with
      | some s, _ => ofSet s
      | none, [] => .choice ps
      | none, lead =>
        let rests := ps.map fun p => sequenceOf (p.items.drop lead.length)
        sequenceOf (lead ++ [choiceWithin n rests])

def choiceOf (ps : List Pattern) : Pattern := choiceWithin (partCounts ps + 1) ps

/-- Repetition of what is empty adds nothing after the first time. -/
def repeatedOf (p : Pattern) (least : Nat) (most : Option Nat) (greedy : Bool) : Pattern :=
  let least' := if p.isVoid then min least 1 else least
  let most' := if p.isVoid then some ((most.map (min · 1)).getD 1) else most
  if least' = 0 && most' = some 0 then .empty
  else if least' = 1 && most' = some 1 then p
  else .repeated p least' most' greedy

end SqlWeave.Pattern
