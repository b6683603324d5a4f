import Concordancer.Query.Options
import Concordancer.Query.Pattern

/-!
# Queries

A query says what to search for, what to exclude, what to show of each match, and how.
-/

namespace Concordancer

structure Query where
  search : SearchMapping := []
  exclude : SearchMapping := []
  shown : List String := []
  options : Options := {}

namespace Query

/-- The query that searches for nothing. -/
def empty : Query := {}

def withSearch (query : Query) (descriptor : String) (pattern : Pattern) : Query :=
  { query with search := query.search.insert descriptor pattern }

def withExclude (query : Query) (descriptor : String) (pattern : Pattern) : Query :=
  { query with exclude := query.exclude.insert descriptor pattern }

def withShown (query : Query) (descriptors : List String) : Query :=
  { query with shown := descriptors }

def withOptions (query : Query) (options : Options) : Query :=
  { query with options }

end Query

end Concordancer
