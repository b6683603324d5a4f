/-!
# Options of a query
-/

namespace Concordancer

/-- Whether a token has to be reported by every criterion or by at least one. -/
inductive Combination
  | all | any
deriving DecidableEq, Repr

/-- Whether concordance lines are made, and whether they are the only output. -/
inductive ConcordanceMode
  | off | on | only
deriving DecidableEq, Repr

namespace ConcordanceMode

def isEnabled (mode : ConcordanceMode) : Bool := mode != off

end ConcordanceMode

structure Options where
  searchMode : Combination := .all
  excludeMode : Combination := .any
  concordance : ConcordanceMode := .off
  /-- Criteria hold for all mentions of what they are tested on. -/
  coreference : Bool := false
  caseSensitive : Bool := false
  /-- Words that the punctuation pattern does not match are hidden. -/
  stripPunctuation : Bool := false
  /-- Words of the closed class are hidden. -/
  stripClosedClass : Bool := false
  gramSize : Nat := 2
  windowRadius : Nat := 2
  /-- Contexts of concordance lines show words, whatever is shown of the match. -/
  onlyFormatMatch : Bool := false
  /-- Chains of governors of this length or more count as broken. -/
  maxDistance : Nat := 30
  /-- What a word has that is no punctuation. -/
  punctuationPattern : String := "[A-Za-z0-9:_]"
deriving DecidableEq, Repr

end Concordancer
