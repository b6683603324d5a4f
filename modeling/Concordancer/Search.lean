import Concordancer.Coreference
import Concordancer.Criterion
import Concordancer.Navigator
import Concordancer.Tally

/-!
# Searching

A criterion is tested on every visible token of a corpus.  The token that passes is not the
one that is reported: reported are the tokens to which the tested one is in the role of the
criterion.  With an adjacency, the tested token is a neighbour of the one the role starts
from; with coreference, what holds of a token holds of all mentions of its chain, and the
role starts from each of them.
-/

namespace Concordancer

abbrev TokenSet := OrderedSet TokenRef

/-- What criteria are tested with. -/
structure Search where
  navigator : Navigator
  /-- The chains of the corpus, where they are needed. -/
  coreference : Option Coreference

namespace Search

/-- Does a criterion hold for a token?  The wildcard also accepts what is missing, but never
a distance that does not exist. -/
def holds (search : Search) (criterion : Criterion) (ref : TokenRef) : Told Bool := do
  match ← search.navigator.read ref criterion.feature with
  | some value => pure (criterion.matcher.accepts value)
  | none => pure (criterion.matcher.isWildcard && criterion.feature != .distance)

/-- The mentions for which a criterion holds when it holds for a token. -/
def mentions (search : Search) (criterion : Criterion) (ref : TokenRef) : List TokenRef :=
  match search.coreference with
  | some coreference =>
    if criterion.expandsCoreference then
      coreference.mates search.navigator.visible.corpus ref
    else [ref]
  | none => [ref]

/-- The visible token from which the role of a criterion starts, for a mention for which
the criterion holds. -/
def anchor? (search : Search) (criterion : Criterion) (mention : TokenRef) :
    Option TokenRef :=
  match criterion.adjacency with
  | some offset => search.navigator.shift mention (-offset)
  | none => if search.navigator.visible.shows mention then some mention else none

/-- What a criterion reports when it holds for a token. -/
def report (search : Search) (criterion : Criterion) (ref : TokenRef) : List TokenRef :=
  ((search.mentions criterion ref).filterMap (search.anchor? criterion)).flatMap fun anchor =>
    search.navigator.resolve anchor criterion.role.inverse

/-- The tokens of a sentence on which a criterion is tested. -/
def tested (search : Search) (criterion : Criterion) (visible : VisibleSentence) :
    List TokenRef :=
  visible.indices.toList.filterMap fun index =>
    search.navigator.shiftBy ⟨visible.sentence.id, index⟩ criterion.adjacency

/-- What a criterion reports for the tokens of a sentence. -/
def findIn (search : Search) (criterion : Criterion) (visible : VisibleSentence) :
    Told (List TokenRef) := do
  let holding ← Told.filter (search.holds criterion) (search.tested criterion visible)
  pure (holding.flatMap (search.report criterion))

/-- What a criterion reports for these sentences.  The signal is looked at before each. -/
def findInAll (search : Search) (criterion : Criterion) :
    List VisibleSentence → Run (List TokenRef)
  | [] => return []
  | visible :: rest => do
    Run.check ("query cancelled while searching " ++ Text.quoted criterion.descriptor)
    let found ← Run.ofTold (search.findIn criterion visible)
    return found ++ (← findInAll search criterion rest)

/-- All tokens that a criterion reports. -/
def find (search : Search) (criterion : Criterion) : Run TokenSet := do
  let found := OrderedSet.ofList
    (← findInAll search criterion search.navigator.visible.sentences.toList)
  Run.tell .trace <|
    "criterion " ++ Text.quoted criterion.descriptor ++ ": " ++ toString found.size ++ " tokens"
  return found

/-- What criteria report together: all that has been counted, or what has been counted once
for each of them.  No criteria report nothing. -/
def combine (mode : Combination) (sets : List TokenSet) : TokenSet :=
  let tally := Tally.ofSets sets
  match mode with
  | .any => tally.elements
  | .all => tally.countedAs sets.length

/-- The tokens that criteria report together. -/
def findAll (search : Search) (mode : Combination) (criteria : List Criterion) :
    Run TokenSet :=
  return combine mode (← Run.traverse search.find criteria)

end Search

end Concordancer
