import Concordancer.Text.Pieces

/-!
# Tokens

A token is one word of a sentence with its annotation.  Tokens are numbered from 1 inside
their sentence; the number 0 stands for the root, a token without a word that governs the
head of the sentence.  Annotation other than the word may be missing, which is not the same
as being empty.
-/

namespace Concordancer

/-- The number of the root of every sentence. -/
def rootIndex : Nat := 0

/-- A token, or the root of a sentence, anywhere in a corpus. -/
structure TokenRef where
  sentence : Nat
  index : Nat
deriving DecidableEq, Hashable, Repr

namespace TokenRef

def root (sentence : Nat) : TokenRef := ⟨sentence, rootIndex⟩

def isRoot (ref : TokenRef) : Bool := ref.index == rootIndex

/-- Corpus order: by sentence, then by number in the sentence. -/
def le (first second : TokenRef) : Bool :=
  first.sentence < second.sentence ||
    (first.sentence == second.sentence && first.index ≤ second.index)

end TokenRef

structure Token where
  index : Nat
  word : String
  baseForm : Option String
  tag : Option String
  /-- The label of the named entity that the token belongs to. -/
  entity : Option String
  /-- The number of the token that governs this one. -/
  governor : Nat
  /-- The relation of the token to its governor. -/
  function : Option String
  coreference : Option String
  speaker : Option String
deriving DecidableEq, Repr

namespace Token

/-- A token with the annotation that every parse provides. -/
def parsed (index : Nat) (word baseForm tag : String) (governor : Nat) (function : String) :
    Token :=
  { index, word, baseForm := some baseForm, tag := some tag, entity := none, governor
    function := some function, coreference := none, speaker := none }

def isRoot (token : Token) : Bool := token.index == rootIndex

/-- What annotation writes for a token that refers to nothing else. -/
def noChain : List String := ["_", "none", ""]

/-- The chain of mentions that the token belongs to.  Stars at the end mark the head of a
chain and are not part of its name. -/
def chain? (token : Token) : Option String := do
  let mark ← token.coreference
  if mark ∈ noChain then none
  else
    let name := Text.dropTrailing '*' mark
    if name.isEmpty then none else some name

end Token

end Concordancer
