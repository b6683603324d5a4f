import Concordancer.Unicode.CategoryRuns

/-!
# General categories

Every code point has one general category, and nearly every other property that the
library needs is a union of categories with a short list of exceptions.  This file holds
the categories, their standard two-letter abbreviations, and the look-up of a character's
category in the table of runs.

## Strategy

The runs are stored as lengths, so the table of their first code points is computed once,
by summing.  A look-up is then a binary search for the last run that starts at or before
the character.
-/

namespace Concordancer.Unicode

/-- The thirty general categories, in the order of the standard. -/
inductive Category
  | uppercaseLetter | lowercaseLetter | titlecaseLetter | modifierLetter | otherLetter
  | nonspacingMark | spacingMark | enclosingMark
  | decimalNumber | letterNumber | otherNumber
  | connectorPunctuation | dashPunctuation | openPunctuation | closePunctuation
  | initialPunctuation | finalPunctuation | otherPunctuation
  | mathSymbol | currencySymbol | modifierSymbol | otherSymbol
  | spaceSeparator | lineSeparator | paragraphSeparator
  | control | format | surrogate | privateUse | unassigned
deriving DecidableEq, Repr, Inhabited

namespace Category

/-- All categories with their abbreviations and their names in full; the first letter of an
abbreviation names the major class. -/
def names : List (String × String × Category) := [
  ("Lu", "Uppercase_Letter", uppercaseLetter), ("Ll", "Lowercase_Letter", lowercaseLetter),
  ("Lt", "Titlecase_Letter", titlecaseLetter), ("Lm", "Modifier_Letter", modifierLetter),
  ("Lo", "Other_Letter", otherLetter),
  ("Mn", "Nonspacing_Mark", nonspacingMark), ("Mc", "Spacing_Mark", spacingMark),
  ("Me", "Enclosing_Mark", enclosingMark),
  ("Nd", "Decimal_Number", decimalNumber), ("Nl", "Letter_Number", letterNumber),
  ("No", "Other_Number", otherNumber),
  ("Pc", "Connector_Punctuation", connectorPunctuation),
  ("Pd", "Dash_Punctuation", dashPunctuation), ("Ps", "Open_Punctuation", openPunctuation),
  ("Pe", "Close_Punctuation", closePunctuation),
  ("Pi", "Initial_Punctuation", initialPunctuation),
  ("Pf", "Final_Punctuation", finalPunctuation),
  ("Po", "Other_Punctuation", otherPunctuation),
  ("Sm", "Math_Symbol", mathSymbol), ("Sc", "Currency_Symbol", currencySymbol),
  ("Sk", "Modifier_Symbol", modifierSymbol), ("So", "Other_Symbol", otherSymbol),
  ("Zs", "Space_Separator", spaceSeparator), ("Zl", "Line_Separator", lineSeparator),
  ("Zp", "Paragraph_Separator", paragraphSeparator),
  ("Cc", "Control", control), ("Cf", "Format", format), ("Cs", "Surrogate", surrogate),
  ("Co", "Private_Use", privateUse), ("Cn", "Unassigned", unassigned)]

/-- The category with this abbreviation. -/
def ofAbbreviation? (text : String) : Option Category :=
  (names.find? fun (abbreviation, _, _) => abbreviation == text).map fun (_, _, c) => c

def isLetter : Category → Bool
  | uppercaseLetter | lowercaseLetter | titlecaseLetter | modifierLetter | otherLetter => true
  | _ => false

def isMark : Category → Bool
  | nonspacingMark | spacingMark | enclosingMark => true
  | _ => false

def isSeparator : Category → Bool
  | spaceSeparator | lineSeparator | paragraphSeparator => true
  | _ => false

/-- Control characters, invisible format characters and everything without a meaning. -/
def isOther : Category → Bool
  | control | format | surrogate | privateUse | unassigned => true
  | _ => false

/-! ## Reading the table -/

/-- A run such as `26Lu`, as its length and its category. -/
private def decodeRun (text : List Char) : Nat × Category :=
  let length := (text.takeWhile Char.isDigit).foldl (fun n c => 10 * n + (c.toNat - 48)) 0
  let name := String.ofList (text.dropWhile Char.isDigit)
  (length, (ofAbbreviation? name).getD unassigned)

/-- The words of a line of the table. -/
private def words (line : List Char) : List (List Char) :=
  (line.splitBy fun a b => (a == ' ') == (b == ' ')).filter fun word => word.head? != some ' '

/-- The first code point of every run, with the category of the run. -/
def starts : Array (Nat × Category) :=
  let decoded := categoryRuns.flatMap fun line => (words line.toList).map decodeRun
  (decoded.foldl (fun (table, start) (length, category) =>
    (table.push (start, category), start + length)) (#[], 0)).1

/-- The last position in `[low, high)` whose entry starts at or before `n`, provided that
the entry at `low` does. -/
private def lastStart (table : Array (Nat × Category)) (n low high : Nat) : Nat :=
  if low + 1 < high then
    let middle := (low + high) / 2
    if (table[middle]?.map Prod.fst).getD 0 ≤ n then lastStart table n middle high
    else lastStart table n low middle
  else low
termination_by high - low

/-- The general category of a character. -/
def ofChar (c : Char) : Category :=
  (starts[lastStart starts c.toNat 0 starts.size]?.map Prod.snd).getD unassigned

end Category

end Concordancer.Unicode
