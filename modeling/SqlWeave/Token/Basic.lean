import SqlWeave.Text.Printable
import SqlWeave.Token.Keyword

/-! Tokens of SQL text and the bytes they cover. -/

namespace SqlWeave

/-- A half-open range of byte positions. -/
structure Span where
  start : Nat
  stop : Nat
deriving DecidableEq, Repr

def Span.text (s : Span) : String := toString s.start ++ ".." ++ toString s.stop

/-- Operators and punctuation. -/
inductive Symbol where
  | plus | minus | star | slash | percent
  | eq | notEq | lt | ltEq | gt | gtEq
  | concat | bitAnd | bitOr | bitNot | bang | leftShift | rightShift
  | leftParen | rightParen | leftBracket | rightBracket | leftBrace | rightBrace
  | comma | semicolon | dot | doubleColon | colon | question
deriving DecidableEq, Repr

/-- Why a stretch of text is no token. -/
inductive LexicalFault where
  | unterminatedIdentifier
  | unterminatedString
  | badHexDigit
  | unterminatedHex
  | unexpectedChar (c : Char)
deriving DecidableEq, Repr

/-- Payloads keep the source spelling, but for quoted texts, whose delimiters are resolved, and
parameters, which lose their colon. -/
inductive TokenKind where
  | number (text : String)
  | string (value : String)
  | doubleQuoted (value : String)
  | hex (digits : String)
  | identifier (name : String)
  | quotedIdentifier (name : String)
  | keyword (word : Keyword)
  | variable (text : String)
  | parameter (name : String)
  | symbol (mark : Symbol)
  | eof
  | fault (cause : LexicalFault)
deriving DecidableEq, Repr

structure Token where
  kind : TokenKind
  span : Span
deriving DecidableEq, Repr

def Symbol.name : Symbol → String
  | .plus => "Plus"
  | .minus => "Minus"
  | .star => "Star"
  | .slash => "Slash"
  | .percent => "Percent"
  | .eq => "Eq"
  | .notEq => "NotEq"
  | .lt => "Lt"
  | .ltEq => "LtEq"
  | .gt => "Gt"
  | .gtEq => "GtEq"
  | .concat => "Concat"
  | .bitAnd => "BitAnd"
  | .bitOr => "BitOr"
  | .bitNot => "BitNot"
  | .bang => "Bang"
  | .leftShift => "LeftShift"
  | .rightShift => "RightShift"
  | .leftParen => "LeftParen"
  | .rightParen => "RightParen"
  | .leftBracket => "LeftBracket"
  | .rightBracket => "RightBracket"
  | .leftBrace => "LeftBrace"
  | .rightBrace => "RightBrace"
  | .comma => "Comma"
  | .semicolon => "Semicolon"
  | .dot => "Dot"
  | .doubleColon => "DoubleColon"
  | .colon => "Colon"
  | .question => "Question"

def LexicalFault.message : LexicalFault → String
  | .unterminatedIdentifier => "Unterminated quoted identifier"
  | .unterminatedString => "Unterminated string literal"
  | .badHexDigit => "Invalid character in hex literal"
  | .unterminatedHex => "Unterminated hex literal"
  | .unexpectedChar c => "Unexpected character: " ++ String.singleton c

namespace TokenKind

/-- The name of the kind, without its payload. -/
def name : TokenKind → String
  | .number _ => "Number"
  | .string _ => "String"
  | .doubleQuoted _ => "DoubleQuotedString"
  | .hex _ => "HexString"
  | .identifier _ => "Identifier"
  | .quotedIdentifier _ => "QuotedIdentifier"
  | .keyword _ => "Keyword"
  | .variable _ => "Variable"
  | .parameter _ => "Parameter"
  | .symbol s => s.name
  | .eof => "Eof"
  | .fault _ => "Error"

def payload? : TokenKind → Option String
  | .number s | .string s | .doubleQuoted s | .hex s | .identifier s | .quotedIdentifier s
  | .variable s | .parameter s => some s
  | .keyword k => some k.spelling
  | .symbol _ | .eof => none
  | .fault f => some f.message

/-- How a message names a token that was not wanted. -/
def describe : TokenKind → String
  | .keyword k => k.spelling
  | .identifier name => "identifier '" ++ name ++ "'"
  | .quotedIdentifier name => "quoted identifier '" ++ name ++ "'"
  | .number text => "number " ++ text
  | .string s | .doubleQuoted s => "string '" ++ s ++ "'"
  | .eof => "end of input"
  | .symbol s => s.name
  | k => k.name ++ "(" ++ Text.quoted (k.payload?.getD "") ++ ")"

/-- Whether this is an unreserved word spelled so, without regard to ASCII case. -/
def isWord (k : TokenKind) (word : String) : Bool :=
  match k with
  | .identifier name => Text.sameAscii name word
  | _ => false

end TokenKind

end SqlWeave
