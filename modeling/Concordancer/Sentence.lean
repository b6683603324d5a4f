import Concordancer.IndexTable
import Concordancer.Token
import Std.Data.TreeMap

/-!
# Sentences

A sentence holds its tokens in the order of their numbers, together with two tables that
are computed when it is made: where each number stands, and which tokens each number
governs.  Rows of annotation may come in any order, leave gaps and repeat a number.  Of
repeated rows the last one is the token that the number stands for.  A row numbered 0 is
kept in place, but the number 0 always stands for the root.
-/

namespace Concordancer

structure Sentence where
  id : Nat
  /-- The rows in the order of their numbers; rows with one number keep their order. -/
  tokens : Array Token
  metadata : Std.TreeMap String String
  /-- For each number, the positions of its rows in `tokens`. -/
  slots : IndexTable Nat
  /-- For each number, the numbers of the tokens that it governs. -/
  governed : IndexTable Nat

namespace Sentence

/-- Puts a row in front of the first one whose number is not smaller. -/
def place (row : Token) : List Token → List Token
  | [] => [row]
  | other :: rest =>
    if row.index ≤ other.index then row :: other :: rest else other :: place row rest

/-- The rows in the order of their numbers; rows with one number keep their order. -/
def arrange : List Token → List Token
  | [] => []
  | row :: rest => place row (arrange rest)

/-- The number of cells that a table over the numbers of these rows needs. -/
def tableSize (arranged : List Token) : Nat :=
  (arranged.getLast?.map Token.index).getD rootIndex + 1

/-- A sentence made from rows of annotation. -/
def ofRows (id : Nat) (rows : List Token) (metadata : Std.TreeMap String String) :
    Sentence :=
  let arranged := arrange rows
  let size := tableSize arranged
  let positions := (arranged.zipIdx.filter fun (token, _) => !token.isRoot).map
    fun (token, position) => (token.index, position)
  let relations := (arranged.filter fun token => !token.isRoot).map
    fun token => (token.governor, token.index)
  { id, tokens := arranged.toArray, metadata
    slots := .ofEntries size positions
    governed := .ofEntries size relations }

/-- The number of rows, those numbered 0 included. -/
def size (sentence : Sentence) : Nat := sentence.tokens.size

def isEmpty (sentence : Sentence) : Bool := sentence.tokens.isEmpty

/-- The token that a number stands for; the root is none. -/
def token? (sentence : Sentence) (index : Nat) : Option Token :=
  (sentence.slots.last? index).bind fun position => sentence.tokens[position]?

/-- The number that governs a token. -/
def governor? (sentence : Sentence) (index : Nat) : Option Nat :=
  (sentence.token? index).map Token.governor

/-- The numbers of the tokens that a token, or the root, governs, in sentence order. -/
def dependents (sentence : Sentence) (index : Nat) : List Nat :=
  sentence.governed.all index

/-- Who speaks the sentence: as the sentence says, or else as its first token to say so. -/
def speaker? (sentence : Sentence) : Option String :=
  sentence.metadata["speaker"]? <|> sentence.tokens.toList.findSome? Token.speaker

end Sentence

end Concordancer
