import SqlWeave.Text.Ranges

/-! Blank characters, and comparisons and cuts of text that look at ASCII case only or at blanks. -/

namespace SqlWeave.Text

/-- The Unicode property White_Space. -/
def blankRanges : List Nat := [
  0x9, 0xE, 0x20, 0x21, 0x85, 0x86, 0xA0, 0xA1, 0x1680, 0x1681, 0x2000, 0x200B, 0x2028, 0x202A,
  0x202F, 0x2030, 0x205F, 0x2060, 0x3000, 0x3001]

def isBlank (c : Char) : Bool := covers blankRanges c.toNat

def asciiUpper (s : String) : String := String.ofList (s.toList.map Char.toUpper)

def asciiLower (s : String) : String := String.ofList (s.toList.map Char.toLower)

/-- Reserved words and dialect names compare this way: only `a` to `z` have a case. -/
def sameAscii (s t : String) : Bool := s.toList.map Char.toLower == t.toList.map Char.toLower

def trimStart (cs : List Char) : List Char := cs.dropWhile isBlank

def trim (s : String) : String :=
  String.ofList (trimStart (trimStart s.toList).reverse).reverse

/-- The blank-separated words of a text. -/
def wordsFrom (word : List Char) : List Char → List (List Char)
  | [] => if word.isEmpty then [] else [word.reverse]
  | c :: cs =>
    if isBlank c then
      if word.isEmpty then wordsFrom [] cs else word.reverse :: wordsFrom [] cs
    else wordsFrom (c :: word) cs

def words (s : String) : List String := (wordsFrom [] s.toList).map String.ofList

/-- The pieces between the marks, one more than there are marks. -/
def splitAt (mark : Char) : List Char → List (List Char)
  | [] => [[]]
  | c :: cs =>
    if c = mark then [] :: splitAt mark cs
    else
      match splitAt mark cs with
      | piece :: pieces => (c :: piece) :: pieces
      | [] => [[c]]

/-- Writes every `mark` twice. -/
def doubling (mark : Char) : List Char → List Char
  | [] => []
  | c :: cs => if c = mark then mark :: mark :: doubling mark cs else c :: doubling mark cs

/-- Encloses `s` between the delimiters, the closing one written twice inside. -/
def enclose (opening closing : Char) (s : String) : String :=
  String.ofList (opening :: (doubling closing s.toList ++ [closing]))

/-- Puts `s` between parentheses if `flag` is set. -/
def parenthesize (flag : Bool) (s : String) : String := if flag then "(" ++ s ++ ")" else s

end SqlWeave.Text
