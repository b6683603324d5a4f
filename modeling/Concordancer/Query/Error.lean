import Concordancer.Text.Quoted

/-!
# What can be wrong with a query

A query is refused for one of four reasons: a descriptor that is not in its language, a
pattern that is not a regular expression, a text that is no written query, or a run that was
cancelled.  Nothing that is found in a corpus is an error.
-/

namespace Concordancer

/-- Why a descriptor is refused. -/
inductive DescriptorFault
  /-- A sign without a number. -/
  | expectedOffset
  /-- Nothing of a search descriptor could be read. -/
  | expectedSearchDescriptor
  /-- Nothing of a show descriptor could be read. -/
  | expectedShowDescriptor
  /-- Something is left over. -/
  | expectedEnd
  /-- Something other than an adjacency follows the letter of an expansion. -/
  | expectedEndOrSign
  | offsetOutOfRange
  | unknownRoleOrFeature (letter : Char)
  | unknownRole (letter : Char)
  | unknownFeature (letter : Char)
  | tooManyLetters
  | unknownStep (letter : Char)
  | nestedPattern
deriving DecidableEq, Repr

namespace DescriptorFault

private def naming (what : String) (letter : Char) : String :=
  "unknown " ++ what ++ " '" ++ letter.toString ++ "'"

def reason : DescriptorFault → String
  | expectedOffset => "expected offset"
  | expectedSearchDescriptor => "expected search_descriptor"
  | expectedShowDescriptor => "expected show_descriptor"
  | expectedEnd => "expected EOI"
  | expectedEndOrSign => "expected EOI or sign"
  | offsetOutOfRange => "adjacency offset out of range"
  | unknownRoleOrFeature letter => naming "role or attribute" letter
  | unknownRole letter => naming "role" letter
  | unknownFeature letter => naming "attribute" letter
  | tooManyLetters => "expected at most one role and one attribute"
  | unknownStep letter => naming "pivot" letter
  | nestedPattern => "nested patterns are only allowed at the top of a search mapping"

end DescriptorFault

/-- Why a text is no written query. -/
inductive ReadFault
  /-- The text ends too early. -/
  | truncated
  /-- The text is not JSON. -/
  | malformed
  /-- The text is JSON so far, but not that of a query. -/
  | mismatched
  | unknownConcordance (mode : String)
deriving DecidableEq, Repr

namespace ReadFault

def reason : ReadFault → String
  | truncated => "unexpected end of the text"
  | malformed => "not a JSON text"
  | mismatched => "not the JSON form of a query"
  | unknownConcordance mode => "unknown concordance mode: " ++ mode

end ReadFault

inductive QueryError
  | invalidDescriptor (descriptor : String) (fault : DescriptorFault)
  | invalidPattern (descriptor : String)
  | unreadable (fault : ReadFault)
  | cancelled
deriving DecidableEq, Repr

namespace QueryError

def message : QueryError → String
  | invalidDescriptor descriptor fault =>
    "Query error: invalid descriptor " ++ Text.quoted descriptor ++ ": " ++ fault.reason
  | invalidPattern descriptor =>
    "Query error: invalid pattern for " ++ Text.quoted descriptor
  | unreadable fault => "Query error: " ++ fault.reason
  | cancelled => "Query cancelled"

end QueryError

end Concordancer
