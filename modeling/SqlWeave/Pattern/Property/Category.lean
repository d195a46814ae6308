import SqlWeave.Pattern.CharSet
import SqlWeave.Pattern.Property.CategoryTables

/-! General categories by name. -/

namespace SqlWeave.Pattern.Property

/-- A general category under its short and long names. -/
structure Category where
  names : List String
  bounds : List Nat

def Category.ranges (k : Category) : List CharRange := CharSet.boundRanges k.bounds

def letterCategories : List Category := [
  ⟨["lu", "uppercaseletter"], upperLetterBounds⟩,
  ⟨["ll", "lowercaseletter"], lowerLetterBounds⟩,
  ⟨["lt", "titlecaseletter"], titleLetterBounds⟩,
  ⟨["lm", "modifierletter"], modifierLetterBounds⟩,
  ⟨["lo", "otherletter"], otherLetterBounds⟩]

def markCategories : List Category := [
  ⟨["mn", "nonspacingmark"], nonspacingMarkBounds⟩,
  ⟨["mc", "spacingmark"], spacingMarkBounds⟩,
  ⟨["me", "enclosingmark"], enclosingMarkBounds⟩]

def numberCategories : List Category := [
  ⟨["nd", "decimalnumber", "digit"], decimalNumberBounds⟩,
  ⟨["nl", "letternumber"], letterNumberBounds⟩,
  ⟨["no", "othernumber"], otherNumberBounds⟩]

def punctuationCategories : List Category := [
  ⟨["pc", "connectorpunctuation"], connectorPunctuationBounds⟩,
  ⟨["pd", "dashpunctuation"], dashPunctuationBounds⟩,
  ⟨["ps", "openpunctuation"], openPunctuationBounds⟩,
  ⟨["pe", "closepunctuation"], closePunctuationBounds⟩,
  ⟨["pi", "initialpunctuation"], initialPunctuationBounds⟩,
  ⟨["pf", "finalpunctuation"], finalPunctuationBounds⟩,
  ⟨["po", "otherpunctuation"], otherPunctuationBounds⟩]

def symbolCategories : List Category := [
  ⟨["sm", "mathsymbol"], mathSymbolBounds⟩,
  ⟨["sc", "currencysymbol"], currencySymbolBounds⟩,
  ⟨["sk", "modifiersymbol"], modifierSymbolBounds⟩,
  ⟨["so", "othersymbol"], otherSymbolBounds⟩]

def separatorCategories : List Category := [
  ⟨["zs", "spaceseparator"], spaceSeparatorBounds⟩,
  ⟨["zl", "lineseparator"], lineSeparatorBounds⟩,
  ⟨["zp", "paragraphseparator"], paragraphSeparatorBounds⟩]

def controlCategories : List Category := [
  ⟨["cc", "control", "cntrl"], controlBounds⟩,
  ⟨["cf", "format"], formatBounds⟩,
  ⟨["co", "privateuse"], privateUseBounds⟩]

/-- The categories that belong together, under the names of the whole. -/
def categoryGroups : List (List String × List Category) := [
  (["l", "letter"], letterCategories),
  (["lc", "casedletter"], letterCategories.take 3),
  (["m", "mark", "combiningmark"], markCategories),
  (["n", "number"], numberCategories),
  (["p", "punctuation", "punct"], punctuationCategories),
  (["s", "symbol"], symbolCategories),
  (["z", "separator"], separatorCategories)]

def categories : List Category :=
  letterCategories ++ markCategories ++ numberCategories ++ punctuationCategories ++
    symbolCategories ++ separatorCategories ++ controlCategories

def categorySet (ks : List Category) : CharSet := CharSet.ofRanges (ks.flatMap (·.ranges))

def unassigned : CharSet := (categorySet categories).complement

/-- Codes that are no characters, but lie among those of no other category. -/
def surrogates : CharRange := ⟨0xD800, 0xDFFF⟩

/-- What is no letter, mark, number, punctuation, symbol or separator. -/
def otherCategory : CharSet :=
  CharSet.ofRanges (surrogates :: unassigned.ranges ++ controlCategories.flatMap (·.ranges))

/-- The characters of a general category, or of several that belong together. -/
def category? (name : String) : Option CharSet :=
  match name with
  | "any" => some .all
  | "ascii" => some (.ofChars '\x00' '\x7f')
  | "assigned" => some unassigned.complement
  | "cn" | "unassigned" => some unassigned
  | "c" | "other" => some otherCategory
  | name =>
    match categoryGroups.find? (·.1.contains name), categories.find? (·.names.contains name) with
    | some group, _ => some (categorySet group.2)
    | none, some k => some (categorySet [k])
    | none, none => none

end SqlWeave.Pattern.Property
