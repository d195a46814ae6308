import SqlWeave.Pattern.Property.Binary
import SqlWeave.Pattern.Property.BoundaryTables
import SqlWeave.Pattern.Property.ScriptExtension

/-! What a character does to the boundaries of graphemes, words and sentences. -/

namespace SqlWeave.Pattern.Property

def zeroWidthJoiner : CharSet := .ofCode 0x200D

def lineFeed : CharSet := .ofChar '\n'

def carriageReturn : CharSet := .ofChar '\r'

def spacingMark : CharSet := .ofBounds spacingMarkBounds

def format : CharSet := .ofBounds formatBounds

def emojiModifier : CharSet := .ofBounds emojiModifierBounds

def regionalIndicator : CharSet := .ofBounds regionalIndicatorBounds

/-- The Hangul syllables. -/
def syllable : CharSet := .ofBounds [0xAC00, 0xD7A4]

/-- The syllables without a trailing consonant, one in every 28. -/
def openSyllable : CharSet :=
  .ofRanges ((List.range 399).map fun i => ⟨0xAC00 + 28 * i, 0xAC00 + 28 * i⟩)

/-- The boundaries of graphemes. -/
def graphemeBreak? : String → Option CharSet
  | "control" | "cn" => some (.ofBounds graphemeControlBounds)
  | "cr" => some carriageReturn
  | "extend" | "ex" => some (graphemeExtend ∪ emojiModifier)
  | "l" => some (.ofBounds leadingJamoBounds)
  | "lf" => some lineFeed
  | "lv" => some openSyllable
  | "lvt" => some (syllable \ openSyllable)
  | "prepend" | "pp" => some (.ofBounds graphemePrependBounds)
  | "regionalindicator" | "ri" => some regionalIndicator
  | "spacingmark" | "sm" =>
    some ((spacingMark \ .ofBounds attachedMarkBounds) ∪ .ofBounds [0xE33, 0xE34, 0xEB3, 0xEB4])
  | "t" => some (.ofBounds trailingJamoBounds)
  | "v" => some (.ofBounds vowelJamoBounds)
  | "zwj" => some zeroWidthJoiner
  | _ => none

/-- Signs that are written before the digits of a number and belong to it. -/
def numberSign : CharSet := CharSet.ofBounds prependedMarkBounds \ .ofCode 0x70F

/-- The characters of which tags of emoji are made. -/
def tagChar : CharSet := .ofBounds [0xE0020, 0xE0080]

def katakanaWord : CharSet := (script? "katakana").getD .empty ∪ .ofBounds katakanaSignBounds

def hebrewLetter : CharSet := (script? "hebrew").getD .empty ∩ .ofBounds otherLetterBounds

def wordExtend : CharSet := .unionAll [graphemeExtend, spacingMark, emojiModifier]

/-- The letters of words with spaces around them. -/
def spacedLetter : CharSet :=
  (alphabetic \ .unionAll [.ofBounds ideographicBounds, katakanaWord, hebrewLetter,
    (script? "hiragana").getD .empty, wordExtend, .ofBounds unspacedLetterBounds]) ∪
    .ofBounds wordSignBounds

/-- The boundaries of words. -/
def wordBreak? : String → Option CharSet
  | "aletter" | "le" => some spacedLetter
  | "cr" => some carriageReturn
  | "doublequote" | "dq" => some (.ofChar '"')
  | "extend" => some wordExtend
  | "extendnumlet" | "ex" => some (connector ∪ .ofCode 0x202F)
  | "format" | "fo" =>
    some (format \ .unionAll [.ofBounds prependedMarkBounds, .ofBounds [0x200B, 0x200E], tagChar])
  | "hebrewletter" | "hl" => some hebrewLetter
  | "katakana" | "ka" => some katakanaWord
  | "lf" => some lineFeed
  | "midletter" | "ml" => some (.ofBounds midLetterBounds)
  | "midnum" | "mn" => some (.ofBounds midNumberBounds)
  | "midnumlet" | "mb" => some (.ofBounds midEitherBounds)
  | "newline" | "nl" => some (.ofBounds newlineBounds)
  | "numeric" | "nu" =>
    some (.unionAll [decimalNumber, numberSign, .ofCode 0x66B, .ofCode 0x19DA])
  | "regionalindicator" | "ri" => some regionalIndicator
  | "singlequote" | "sq" => some (.ofChar '\'')
  | "wsegspace" =>
    some (CharSet.ofBounds spaceSeparatorBounds \ .unionAll [.ofCode 0xA0, .ofCode 0x2007,
      .ofCode 0x202F])
  | "zwj" => some zeroWidthJoiner
  | _ => none

/-- Full stops that may also stand inside a sentence. -/
def innerStop : CharSet := .ofBounds [0x2E, 0x2F, 0x2024, 0x2025, 0xFE52, 0xFE53, 0xFF0E, 0xFF0F]

def separator : CharSet := .ofBounds [0x85, 0x86, 0x2028, 0x202A]

def sentenceExtend : CharSet := .unionAll [graphemeExtend, spacingMark, zeroWidthJoiner]

def sentenceLower : CharSet := lowercase \ (graphemeExtend ∪ georgianSmall)

/-- Capitals that start a sentence, which those of Georgian do not. -/
def sentenceUpper : CharSet :=
  (uppercase ∪ titleLetter) \ .ofBounds [0x1C90, 0x1CBB, 0x1CBD, 0x1CC0]

def closing : CharSet :=
  (CharSet.unionAll [.ofBounds openPunctuationBounds, .ofBounds closePunctuationBounds,
    .ofBounds initialPunctuationBounds, .ofBounds finalPunctuationBounds,
    .ofBounds quotationMarkBounds] \ (.ofCode 0xFF02 ∪ .ofCode 0xFF07)) ∪ .ofBounds otherCloseBounds

/-- The boundaries of sentences. -/
def sentenceBreak? : String → Option CharSet
  | "aterm" | "at" => some innerStop
  | "cr" => some carriageReturn
  | "close" | "cl" => some closing
  | "extend" | "ex" => some sentenceExtend
  | "format" | "fo" => some (format \ .unionAll [numberSign, .ofBounds [0x200C, 0x200E], tagChar])
  | "lf" => some lineFeed
  | "lower" | "lo" => some sentenceLower
  | "numeric" | "nu" =>
    some (.unionAll [decimalNumber, numberSign, .ofBounds [0x66B, 0x66D], .ofCode 0x19DA])
  | "oletter" | "le" =>
    some ((alphabetic ∪ .ofCode 0x5F3) \ .unionAll [sentenceLower, sentenceUpper, sentenceExtend])
  | "scontinue" | "sc" => some (.ofBounds sentenceContinueBounds)
  | "sterm" | "st" => some (CharSet.ofBounds sentenceTerminalBounds \ innerStop)
  | "sep" | "se" => some separator
  | "sp" => some (blank \ .unionAll [lineFeed, carriageReturn, separator])
  | "upper" | "up" => some sentenceUpper
  | _ => none

end SqlWeave.Pattern.Property
