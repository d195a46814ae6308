import SqlWeave.Pattern.Property.BinaryTables
import SqlWeave.Pattern.Property.Category
import SqlWeave.Text.Ascii

/-! Properties that a character has or has not. The large ones follow from general categories and a
few exceptions. -/

namespace SqlWeave.Pattern.Property

def letter : CharSet := categorySet letterCategories

def mark : CharSet := categorySet markCategories

def titleLetter : CharSet := .ofBounds titleLetterBounds

def letterNumber : CharSet := .ofBounds letterNumberBounds

def decimalNumber : CharSet := .ofBounds decimalNumberBounds

def connector : CharSet := .ofBounds connectorPunctuationBounds

def blank : CharSet := .ofBounds Text.blankRanges

def joinControl : CharSet := .ofBounds joinControlBounds

def otherAlphabetic : CharSet := .ofBounds otherAlphabeticBounds

def otherLowercase : CharSet := .ofBounds otherLowercaseBounds

def otherUppercase : CharSet := .ofBounds otherUppercaseBounds

def alphabetic : CharSet := .unionAll [letter, letterNumber, otherAlphabetic]

def lowercase : CharSet := .ofBounds lowerLetterBounds ∪ otherLowercase

def uppercase : CharSet := .ofBounds upperLetterBounds ∪ otherUppercase

def cased : CharSet := .unionAll [lowercase, uppercase, titleLetter]

/-- What words are made of: letters, marks, digits, connectors such as the underscore, and the two
joiners. -/
def word : CharSet := .unionAll [alphabetic, mark, decimalNumber, connector, joinControl]

def graphemeExtend : CharSet :=
  .unionAll [.ofBounds nonspacingMarkBounds, .ofBounds enclosingMarkBounds,
    .ofBounds otherGraphemeExtendBounds]

def graphemeBase : CharSet :=
  CharSet.complement (.unionAll [otherCategory, .ofBounds lineSeparatorBounds,
    .ofBounds paragraphSeparatorBounds, graphemeExtend])

/-- What stands in a word without counting for its case. -/
def caseIgnorable : CharSet :=
  .unionAll [.ofBounds nonspacingMarkBounds, .ofBounds enclosingMarkBounds, .ofBounds formatBounds,
    .ofBounds modifierLetterBounds, .ofBounds modifierSymbolBounds, .ofBounds midWordBounds]

def patternOwn : CharSet := .ofBounds patternSyntaxBounds ∪ .ofBounds patternBlankBounds

def idStart : CharSet :=
  CharSet.unionAll [letter, letterNumber, .ofBounds otherIdStartBounds] \ patternOwn

def idContinue : CharSet :=
  CharSet.unionAll [idStart, .ofBounds nonspacingMarkBounds, .ofBounds spacingMarkBounds,
    decimalNumber, connector, .ofBounds otherIdContinueBounds] \ patternOwn

def changesWhenLowercased : CharSet := (uppercase ∪ titleLetter) \ .ofBounds fixedCapitalBounds

def changesWhenUppercased : CharSet := (lowercase \ .ofBounds fixedSmallBounds) ∪ titleLetter

/-- The Georgian letters, whose capitals start no word. -/
def georgianSmall : CharSet := .ofBounds [0x10D0, 0x10FB, 0x10FD, 0x1100]

/-- The capitals of two letters, of which the second gets small in a title. -/
def doubleCapital : CharSet := .ofBounds [0x1C4, 0x1C5, 0x1C7, 0x1C8, 0x1CA, 0x1CB, 0x1F1, 0x1F2]

def changesWhenTitlecased : CharSet :=
  (lowercase \ (.ofBounds fixedSmallBounds ∪ georgianSmall)) ∪ doubleCapital

def changesWhenCasefolded : CharSet :=
  (changesWhenLowercased \ .ofBounds foldStableBounds) ∪ .ofBounds smallBesideBounds

def changesWhenCasemapped : CharSet :=
  .unionAll [changesWhenLowercased, changesWhenUppercased, changesWhenTitlecased]

/-- The properties of which a table says all, under their long and short names. -/
def tabledBinary? : String → Option (List Nat)
  | "asciihexdigit" | "ahex" => some asciiHexDigitBounds
  | "bidicontrol" | "bidic" => some bidiControlBounds
  | "dash" => some dashBounds
  | "defaultignorablecodepoint" | "di" => some defaultIgnorableBounds
  | "deprecated" | "dep" => some deprecatedCharBounds
  | "diacritic" | "dia" => some diacriticBounds
  | "emoji" => some emojiBounds
  | "emojicomponent" | "ecomp" => some emojiComponentBounds
  | "emojimodifier" | "emod" => some emojiModifierBounds
  | "emojimodifierbase" | "ebase" => some emojiModifierBaseBounds
  | "emojipresentation" | "epres" => some emojiPresentationBounds
  | "extendedpictographic" | "extpict" => some extendedPictographicBounds
  | "extender" | "ext" => some extenderBounds
  | "graphemelink" | "grlink" => some graphemeLinkBounds
  | "hexdigit" | "hex" => some hexDigitBounds
  | "hyphen" => some hyphenBounds
  | "idsbinaryoperator" | "idsb" => some binaryDescriptionBounds
  | "idstrinaryoperator" | "idst" => some trinaryDescriptionBounds
  | "idsunaryoperator" | "idsu" => some unaryDescriptionBounds
  | "idcompatmathcontinue" => some mathContinueBounds
  | "idcompatmathstart" => some mathStartBounds
  | "ideographic" | "ideo" => some ideographicBounds
  | "joincontrol" | "joinc" => some joinControlBounds
  | "logicalorderexception" | "loe" => some logicalOrderExceptionBounds
  | "modifiercombiningmark" | "mcm" => some modifierCombiningMarkBounds
  | "noncharactercodepoint" | "nchar" => some noncharacterBounds
  | "otheralphabetic" | "oalpha" => some otherAlphabeticBounds
  | "otherdefaultignorablecodepoint" | "odi" => some otherDefaultIgnorableBounds
  | "othergraphemeextend" | "ogrext" => some otherGraphemeExtendBounds
  | "otheridcontinue" | "oidc" => some otherIdContinueBounds
  | "otheridstart" | "oids" => some otherIdStartBounds
  | "otherlowercase" | "olower" => some otherLowercaseBounds
  | "othermath" | "omath" => some otherMathBounds
  | "otheruppercase" | "oupper" => some otherUppercaseBounds
  | "patternsyntax" | "patsyn" => some patternSyntaxBounds
  | "patternwhitespace" | "patws" => some patternBlankBounds
  | "prependedconcatenationmark" | "pcm" => some prependedMarkBounds
  | "quotationmark" | "qmark" => some quotationMarkBounds
  | "radical" => some radicalBounds
  | "regionalindicator" | "ri" => some regionalIndicatorBounds
  | "sentenceterminal" | "sterm" => some sentenceTerminalBounds
  | "softdotted" | "sd" => some softDottedBounds
  | "terminalpunctuation" | "term" => some terminalPunctuationBounds
  | "unifiedideograph" | "uideo" => some unifiedIdeographBounds
  | "variationselector" | "vs" => some variationSelectorBounds
  | "whitespace" | "wspace" | "space" => some Text.blankRanges
  | _ => none

/-- The properties that follow from others, under their long and short names. -/
def derivedBinary? : String → Option CharSet
  | "alphabetic" | "alpha" => some alphabetic
  | "caseignorable" | "ci" => some caseIgnorable
  | "cased" => some cased
  | "changeswhencasefolded" | "cwcf" => some changesWhenCasefolded
  | "changeswhencasemapped" | "cwcm" => some changesWhenCasemapped
  | "changeswhenlowercased" | "cwl" => some changesWhenLowercased
  | "changeswhentitlecased" | "cwt" => some changesWhenTitlecased
  | "changeswhenuppercased" | "cwu" => some changesWhenUppercased
  | "graphemebase" | "grbase" => some graphemeBase
  | "graphemeextend" | "grext" => some graphemeExtend
  | "idcontinue" | "idc" => some idContinue
  | "idstart" | "ids" => some idStart
  | "lowercase" | "lower" => some lowercase
  | "math" => some (.ofBounds mathSymbolBounds ∪ .ofBounds otherMathBounds)
  | "uppercase" | "upper" => some uppercase
  | "xidcontinue" | "xidc" => some (idContinue \ .ofBounds unstableContinueBounds)
  | "xidstart" | "xids" => some (idStart \ .ofBounds unstableStartBounds)
  | _ => none

def binary? (name : String) : Option CharSet :=
  (tabledBinary? name).map CharSet.ofBounds <|> derivedBinary? name

end SqlWeave.Pattern.Property
