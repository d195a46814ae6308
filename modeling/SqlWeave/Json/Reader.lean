import SqlWeave.Decimal.Digits
import SqlWeave.Json.Basic

/-! Reading JSON text. Nothing may follow the value but blanks, and arrays and objects nest at most
`maxNesting` deep. What is only skipped has to be well formed, but it may nest without bound, and
its numbers and characters need not exist. -/

namespace SqlWeave.Json

open Decimal (Binary64 digitValue naturalOf)

/-- A reader takes what it needs from the front; none if the text is malformed there. -/
abbrev Reader (α : Type) := List Char → Option (α × List Char)

def maxNesting : Nat := 127

def skipBlanks (cs : List Char) : List Char :=
  cs.dropWhile fun c => c == ' ' || c == '\n' || c == '\t' || c == '\r'

/-- The digits that fit 64 bits, read from the front, and how many are left over. -/
def leadingDigits (n : Nat) : List Char → Nat × Nat
  | [] => (n, 0)
  | c :: cs =>
    let m := 10 * n + digitValue c
    if m < 2 ^ 64 then leadingDigits m cs else (n, cs.length + 1)

/-- A power of ten that binary64 holds. -/
def powerOfTen (k : Nat) : Binary64 := (Binary64.ofDecimal false 1 (Int.ofNat k)).getD (.zero false)

/-- Scales by powers of ten from `10 ^ -308` to `10 ^ 308`, rounding at each step; a smaller number
takes further steps until it is in reach or zero. None if the result is out of range. -/
def scaleTen : Nat → Binary64 → Int → Option Binary64
  | 0, x, _ => some x
  | fuel + 1, x, e =>
    if x.isZero then some x
    else if 308 < e then none
    else if 0 ≤ e then x.mul? (powerOfTen e.toNat)
    else if -308 ≤ e then x.div? (powerOfTen e.natAbs)
    else (x.div? (powerOfTen 308)).bind fun y => scaleTen fuel y (e + 308)

/-- A number with a fraction or an exponent, or too long for an integer: its first digits as far as
they fit 64 bits, scaled by the power of ten that remains. -/
def floatOf (negative : Bool) (whole fraction : List Char) (exponent : Int) : Option Binary64 :=
  let (n, dropped) := leadingDigits 0 whole
  let (n, ignored) := leadingDigits n fraction
  let e : Int := Int.ofNat dropped - Int.ofNat (fraction.length - ignored) + exponent
  (Binary64.ofRatio false n 1).bind fun x => (scaleTen 4 x e).map (·.withSign negative)

def numberOf (negative : Bool) (whole : List Char) (fraction : Option (List Char))
    (exponent : Option Int) : Option Number :=
  match fraction, exponent with
  | none, none =>
    let n : Int := Int.ofNat (naturalOf whole)
    if negative && 0 < n && n ≤ Nat.pow 2 63 then some (.int (-n))
    else if !negative && n < Nat.pow 2 64 then some (.int n)
    else (floatOf negative whole [] 0).map .float
  | _, _ => (floatOf negative whole (fraction.getD []) (exponent.getD 0)).map .float

def readFraction : Reader (Option (List Char))
  | '.' :: cs =>
    let ds := cs.takeWhile Char.isDigit
    if ds.isEmpty then none else some (some ds, cs.dropWhile Char.isDigit)
  | cs => some (none, cs)

def readExponent : Reader (Option Int)
  | [] => some (none, [])
  | c :: cs =>
    if c == 'e' || c == 'E' then
      let (negative, rest) := match cs with
        | '+' :: r => (false, r)
        | '-' :: r => (true, r)
        | r => (false, r)
      let ds := rest.takeWhile Char.isDigit
      let n : Int := Int.ofNat (naturalOf ds)
      if ds.isEmpty then none else some (some (if negative then -n else n),
        rest.dropWhile Char.isDigit)
    else some (none, c :: cs)

/-- A number as written. -/
structure Numeral where
  negative : Bool
  whole : List Char
  fraction : Option (List Char)
  exponent : Option Int

/-- A sign, digits without a leading zero, an optional fraction and an optional exponent. -/
def readNumeral (cs : List Char) : Option (Numeral × List Char) := do
  let (negative, cs) := match cs with
    | '-' :: r => (true, r)
    | r => (false, r)
  let whole := match cs with
    | '0' :: _ => ['0']
    | r => r.takeWhile Char.isDigit
  if whole.isEmpty then none
  else
    let rest := cs.drop whole.length
    if rest.head?.any Char.isDigit then none
    else
      let (fraction, rest) ← readFraction rest
      let (exponent, rest) ← readExponent rest
      return (⟨negative, whole, fraction, exponent⟩, rest)

def readNumber (cs : List Char) : Option (Json × List Char) := do
  let (n, rest) ← readNumeral cs
  let value ← numberOf n.negative n.whole n.fraction n.exponent
  return (.number value, rest)

def skipNumber (cs : List Char) : Option (Json × List Char) :=
  (readNumeral cs).map fun (_, rest) => (.null, rest)

def hexValue? (c : Char) : Option Nat :=
  if c.isDigit then some (digitValue c)
  else if 'a' ≤ c && c ≤ 'f' then some (c.toNat - 'a'.toNat + 10)
  else if 'A' ≤ c && c ≤ 'F' then some (c.toNat - 'A'.toNat + 10)
  else none

def readUnit : Reader Nat
  | a :: b :: c :: d :: cs => do
    let a ← hexValue? a
    let b ← hexValue? b
    let c ← hexValue? c
    let d ← hexValue? d
    return (((a * 16 + b) * 16 + c) * 16 + d, cs)
  | _ => none

/-- The character of a `\u` escape; a high surrogate needs the low one right after it. -/
def readCodePoint (cs : List Char) : Option (Char × List Char) := do
  let (high, rest) ← readUnit cs
  if 0xD800 ≤ high && high < 0xDC00 then
    match rest with
    | '\\' :: 'u' :: rest =>
      let (low, rest) ← readUnit rest
      if 0xDC00 ≤ low && low < 0xE000 then
        return (Char.ofNat (0x10000 + (high - 0xD800) * 0x400 + (low - 0xDC00)), rest)
      else none
    | _ => none
  else if 0xDC00 ≤ high && high < 0xE000 then none
  else return (Char.ofNat high, rest)

def simpleEscape? (c : Char) : Option Char :=
  if c = '"' || c = '\\' || c = '/' then some c
  else if c = 'b' then some '\x08'
  else if c = 'f' then some '\x0c'
  else if c = 'n' then some '\n'
  else if c = 'r' then some '\r'
  else if c = 't' then some '\t'
  else none

/-- Four digits whose unit need not be a character. -/
def skipCodePoint (cs : List Char) : Option (Char × List Char) :=
  (readUnit cs).map fun (_, rest) => (' ', rest)

/-- The rest of a string after its opening quote. -/
def readStringTail (codePoint : Reader Char) : Nat → List Char → List Char →
    Option (String × List Char)
  | 0, _, _ => none
  | fuel + 1, done, cs =>
    match cs with
    | [] => none
    | '"' :: rest => some (String.ofList done.reverse, rest)
    | '\\' :: 'u' :: rest =>
      (codePoint rest).bind fun (c, rest) => readStringTail codePoint fuel (c :: done) rest
    | '\\' :: e :: rest =>
      (simpleEscape? e).bind fun c => readStringTail codePoint fuel (c :: done) rest
    | c :: rest => if c.toNat < 0x20 then none else readStringTail codePoint fuel (c :: done) rest

/-- How the scalars of a value are read. -/
structure Scalars where
  codePoint : Reader Char
  number : Reader Json

def Scalars.kept : Scalars := ⟨readCodePoint, readNumber⟩

def Scalars.skipped : Scalars := ⟨skipCodePoint, skipNumber⟩

def Scalars.string (s : Scalars) (cs : List Char) : Option (String × List Char) :=
  readStringTail s.codePoint (cs.length + 1) [] cs

/-- The elements of an array from the first one on, up to the closing bracket. -/
def readItems (value : Reader Json) : Nat → Reader (List Json)
  | 0, _ => none
  | fuel + 1, cs =>
    (value cs).bind fun (v, rest) =>
      match skipBlanks rest with
      | ',' :: rest => (readItems value fuel rest).map fun (vs, rest) => (v :: vs, rest)
      | ']' :: rest => some ([v], rest)
      | _ => none

/-- The fields of an object from the first one on; how a value is read may hang on its key. -/
def readFields (s : Scalars) (value : String → Reader Json) : Nat → Reader Fields
  | 0, _ => none
  | fuel + 1, cs =>
    match skipBlanks cs with
    | '"' :: rest =>
      (s.string rest).bind fun (key, rest) =>
        match skipBlanks rest with
        | ':' :: rest =>
          (value key rest).bind fun (v, rest) =>
            match skipBlanks rest with
            | ',' :: rest =>
              (readFields s value fuel rest).map fun (fields, rest) => ((key, v) :: fields, rest)
            | '\x7d' :: rest => some ([(key, v)], rest)
            | _ => none
        | _ => none
    | _ => none

/-- The rest of an object after its opening brace. -/
def readObjectTail (s : Scalars) (value : String → Reader Json) (cs : List Char) :
    Option (Json × List Char) :=
  match skipBlanks cs with
  | '\x7d' :: rest => some (.object [], rest)
  | rest =>
    (readFields s value (rest.length + 1) rest).map fun (fields, rest) => (.object fields, rest)

def readWord (word : List Char) (v : Json) (cs : List Char) : Option (Json × List Char) :=
  if word.isPrefixOf cs then some (v, cs.drop word.length) else none

/-- A value whose arrays and objects may nest `nesting` deep. -/
def readValue (s : Scalars) : Nat → Reader Json
  | nesting, cs =>
    match skipBlanks cs with
    | '"' :: rest => (s.string rest).map fun (s, rest) => (.string s, rest)
    | '[' :: rest =>
      match nesting with
      | 0 => none
      | nesting + 1 =>
        match skipBlanks rest with
        | ']' :: rest => some (.array [], rest)
        | rest => (readItems (readValue s nesting) (rest.length + 1) rest).map fun (vs, rest) =>
            (.array vs, rest)
    | '\x7b' :: rest =>
      match nesting with
      | 0 => none
      | nesting + 1 => readObjectTail s (fun _ => readValue s nesting) rest
    | 't' :: rest => readWord "true".toList (.bool true) ('t' :: rest)
    | 'f' :: rest => readWord "false".toList (.bool false) ('f' :: rest)
    | 'n' :: rest => readWord "null".toList .null ('n' :: rest)
    | cs => s.number cs

/-- The whole of a text. -/
def whole? (value : Reader Json) (text : String) : Option Json :=
  match value text.toList with
  | some (v, rest) => if (skipBlanks rest).isEmpty then some v else none
  | none => none

/-- The value with its fields as written, repeated keys included. -/
def readVerbatim? (text : String) : Option Json := whole? (readValue .kept maxNesting) text

def read? (text : String) : Option Json := (readVerbatim? text).map canonical

/-- A record with its fields as written; the values of fields that are not `known` are skipped. -/
def readRecord? (known : List String) (text : String) : Option Json :=
  whole? (fun cs =>
    match skipBlanks cs with
    | '\x7b' :: rest =>
      readObjectTail .kept (fun key cs =>
        if known.contains key then readValue .kept (maxNesting - 1) cs
        else readValue .skipped cs.length cs) rest
    | cs => readValue .kept maxNesting cs) text

end SqlWeave.Json
