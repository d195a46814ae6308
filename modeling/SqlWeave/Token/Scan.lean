import SqlWeave.Dialect
import SqlWeave.Text.Numeric
import SqlWeave.Token.Basic

/-! Splitting SQL text into tokens. A scanner looks at the text from a token's first character on
and says what the token is and how many further characters it takes, so the tokens and the blanks
and comments between them always make up the whole text. -/

namespace SqlWeave

open Text (isAlphabetic isAlphanumeric isBlank)

/-- What a double quote and a bracket open. -/
structure Token.Quoting where
  doubleQuoteNames : Bool
  bracketNames : Bool

/-- Where backticks delimit names, double quotes delimit strings. -/
def Dialect.quoting (d : Dialect) : Token.Quoting where
  doubleQuoteNames := d.identifierQuote != .backtick
  bracketNames := d.identifierQuote == .bracket

namespace Token

def isNameChar (c : Char) : Bool := isAlphanumeric c || c == '_' || c == '$'

def isNameStart (c : Char) : Bool := isAlphabetic c || c == '_'

def isHexDigit (c : Char) : Bool :=
  c.isDigit || ('a' ≤ c && c ≤ 'f') || ('A' ≤ c && c ≤ 'F')

def countWhile (p : Char → Bool) (cs : List Char) : Nat := (cs.takeWhile p).length

/-- Characters up to and including the end of a block comment; all of them if it has none. -/
def blockCommentLength : List Char → Nat
  | '*' :: '/' :: _ => 2
  | _ :: cs => blockCommentLength cs + 1
  | [] => 0

/-- The further characters of a comment that starts with `c`. -/
def comment? (c : Char) (cs : List Char) : Option Nat :=
  if c == '#' || (c == '-' && cs.head? == some '-') then some (countWhile (· != '\n') cs)
  else if c == '/' && cs.head? == some '*' then some (blockCommentLength (cs.drop 1) + 1)
  else none

/-- How many blank and comment characters the text starts with. -/
def triviaLength : List Char → Nat
  | [] => 0
  | c :: cs =>
    if isBlank c then triviaLength cs + 1
    else
      match comment? c cs with
      | some n => triviaLength (cs.drop n) + n + 1
      | none => 0
termination_by cs => cs.length
decreasing_by all_goals simp; try omega

/-- The text up to the closing delimiter, written twice where it is meant, and the characters that
takes; none if the text ends first. -/
def delimited (closing : Char) : List Char → Option (List Char × Nat)
  | [] => none
  | c :: cs =>
    if c = closing then
      match cs with
      | d :: ds =>
        if d = closing then (delimited closing ds).map fun (value, n) => (c :: value, n + 2)
        else some ([], 1)
      | [] => some ([], 1)
    else (delimited closing cs).map fun (value, n) => (c :: value, n + 1)

def scanDelimited (closing : Char) (kind : String → TokenKind) (missing : LexicalFault)
    (cs : List Char) : TokenKind × Nat :=
  match delimited closing cs with
  | some (value, n) => (kind (String.ofList value), n)
  | none => (.fault missing, cs.length)

/-- A point and the digits after it, if there is a digit. -/
def fractionLength : List Char → Nat
  | '.' :: d :: cs => if d.isDigit then countWhile Char.isDigit cs + 2 else 0
  | _ => 0

/-- `e` or `E`, a sign and digits; a sign needs no digits after it. -/
def exponentLength : List Char → Nat
  | e :: d :: cs =>
    if e == 'e' || e == 'E' then
      if d.isDigit || d == '+' || d == '-' then countWhile Char.isDigit cs + 2 else 0
    else 0
  | _ => 0

def scanNumber (c : Char) (cs : List Char) : TokenKind × Nat :=
  let whole := countWhile Char.isDigit cs
  let fraction := fractionLength (cs.drop whole)
  let n := whole + fraction + exponentLength (cs.drop (whole + fraction))
  (.number (String.ofList (c :: cs.take n)), n)

def scanWord (c : Char) (cs : List Char) : TokenKind × Nat :=
  let n := countWhile isNameChar cs
  let text := String.ofList (c :: cs.take n)
  (match Keyword.lookup? text with
    | some k => .keyword k
    | none => .identifier text, n)

/-- Digits after `X'`; the character that stops them belongs to the token. -/
def scanHex (cs : List Char) : TokenKind × Nat :=
  let digits := (cs.drop 1).takeWhile isHexDigit
  match cs.drop (digits.length + 1) with
  | [] => (.fault .unterminatedHex, digits.length + 1)
  | c :: _ =>
    (if c = '\'' then .hex (String.ofList digits) else .fault .badHexDigit, digits.length + 2)

def scanVariable (cs : List Char) : TokenKind × Nat :=
  let session := if cs.head? == some '@' then 1 else 0
  let n := session + countWhile (fun c => isNameChar c || c == '.') (cs.drop session)
  (.variable (String.ofList ('@' :: cs.take n)), n)

/-- `::`, `:name` or a colon by itself. -/
def scanColon : List Char → TokenKind × Nat
  | [] => (.symbol .colon, 0)
  | c :: cs =>
    if c = ':' then (.symbol .doubleColon, 1)
    else if isNameStart c then
      let n := countWhile isNameChar cs + 1
      (.parameter (String.ofList ((c :: cs).take n)), n)
    else (.symbol .colon, 0)

/-- The two-character symbol if `second` comes next. -/
def scanPair (second : Char) (double single : Symbol) (cs : List Char) : TokenKind × Nat :=
  if cs.head? == some second then (.symbol double, 1) else (.symbol single, 0)

def single? (c : Char) : Option Symbol :=
  match c with
  | '(' => some .leftParen
  | ')' => some .rightParen
  | ']' => some .rightBracket
  | '\x7b' => some .leftBrace
  | '\x7d' => some .rightBrace
  | ',' => some .comma
  | ';' => some .semicolon
  | '+' => some .plus
  | '-' => some .minus
  | '*' => some .star
  | '/' => some .slash
  | '%' => some .percent
  | '~' => some .bitNot
  | '?' => some .question
  | '&' => some .bitAnd
  | _ => none

/-- The token that starts with `c`, and how many of the characters after `c` it takes. -/
def scan (q : Quoting) (c : Char) (cs : List Char) : TokenKind × Nat :=
  match single? c with
  | some s => (.symbol s, 0)
  | none =>
    if c = '[' then
      if q.bracketNames then scanDelimited ']' .quotedIdentifier .unterminatedIdentifier cs
      else (.symbol .leftBracket, 0)
    else if c = '.' then
      if cs.head?.any Char.isDigit then scanNumber c cs else (.symbol .dot, 0)
    else if c = '@' then scanVariable cs
    else if c = ':' then scanColon cs
    else if c = '=' then (.symbol .eq, if cs.head? == some '=' then 1 else 0)
    else if c = '<' then
      if cs.head? == some '>' then (.symbol .notEq, 1)
      else if cs.head? == some '<' then (.symbol .leftShift, 1)
      else scanPair '=' .ltEq .lt cs
    else if c = '>' then
      if cs.head? == some '>' then (.symbol .rightShift, 1) else scanPair '=' .gtEq .gt cs
    else if c = '!' then scanPair '=' .notEq .bang cs
    else if c = '|' then scanPair '|' .concat .bitOr cs
    else if c = '\'' then scanDelimited '\'' .string .unterminatedString cs
    else if c = '"' then
      if q.doubleQuoteNames then scanDelimited '"' .quotedIdentifier .unterminatedIdentifier cs
      else scanDelimited '"' .doubleQuoted .unterminatedString cs
    else if c = '\x60' then scanDelimited '\x60' .quotedIdentifier .unterminatedIdentifier cs
    else if (c == 'X' || c == 'x') && cs.head? == some '\'' then scanHex cs
    else if c.isDigit then scanNumber c cs
    else if isNameStart c then scanWord c cs
    else (.fault (.unexpectedChar c), 0)

def byteLength : List Char → Nat
  | [] => 0
  | c :: cs => c.utf8Size + byteLength cs

/-- The tokens of a text that starts at byte `pos`, the end of input last. -/
def tokensFrom (q : Quoting) (pos : Nat) (cs : List Char) : List Token :=
  let skipped := triviaLength cs
  let start := pos + byteLength (cs.take skipped)
  match _h : cs.drop skipped with
  | [] => [⟨.eof, ⟨start, start⟩⟩]
  | c :: rest =>
    let (kind, n) := scan q c rest
    let stop := start + byteLength (c :: rest.take n)
    ⟨kind, ⟨start, stop⟩⟩ :: tokensFrom q stop (rest.drop n)
termination_by cs.length
decreasing_by
  have := congrArg List.length _h
  simp at this ⊢
  omega

def tokenize (d : Dialect) (text : String) : List Token := tokensFrom d.quoting 0 text.toList

/-- The characters of a text between two byte positions. -/
def slice (text : String) (span : Span) : String :=
  String.ofList (go 0 text.toList)
where
  go (pos : Nat) : List Char → List Char
    | [] => []
    | c :: cs =>
      if span.stop ≤ pos then []
      else if span.start ≤ pos then c :: go (pos + c.utf8Size) cs
      else go (pos + c.utf8Size) cs

end Token

end SqlWeave
