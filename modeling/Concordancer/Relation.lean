/-!
# Relations between tokens, and features of tokens

The letters of descriptors.  A role says on which token a criterion is tested, seen from the
token that is reported; a step leads from a token to related ones before a feature is
shown; a feature is what is read of a token.
-/

namespace Concordancer

/-- The token that a criterion is tested on: the match itself, its governor, or one of its
dependents. -/
inductive Role
  | self | governor | dependent
deriving DecidableEq, Repr

namespace Role

def ofLetter? : Char → Option Role
  | 'm' => some self
  | 'g' => some governor
  | 'd' => some dependent
  | _ => none

/-- The role that leads back from the tested token to the reported one. -/
def inverse : Role → Role
  | self => self
  | governor => dependent
  | dependent => governor

end Role

/-- A step from a token to its governor, its dependents, or the next visible token. -/
inductive Step
  | governor | dependent | next
deriving DecidableEq, Repr

namespace Step

def ofLetter? : Char → Option Step
  | 'g' => some governor
  | 'd' => some dependent
  | 'o' => some next
  | _ => none

end Step

inductive Feature
  | word | baseForm | tag | wordClass | function | index | sentenceId
  /-- The number of steps to the root along governors. -/
  | distance
  | entity
deriving DecidableEq, Repr

namespace Feature

def ofLetter? : Char → Option Feature
  | 'w' => some word
  | 'l' => some baseForm
  | 'p' => some tag
  | 'x' => some wordClass
  | 'f' => some function
  | 'i' => some index
  | 's' => some sentenceId
  | 'r' => some distance
  | 'n' => some entity
  | _ => none

end Feature

end Concordancer
