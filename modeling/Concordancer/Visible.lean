import Concordancer.Corpus
import Concordancer.Lexicon
import Concordancer.Regex.Expression

/-!
# The visible part of a corpus

A query may hide punctuation and words of the closed class.  A hidden token keeps its number
and its relations, but nothing leads to it: it is neither found nor shown nor counted.  The
visible tokens of a sentence have positions, counted from 0, on which spans and contexts
rest; the root is always visible and has no position.
-/

namespace Concordancer

/-- Which words a query hides. -/
structure WordFilter where
  /-- What a word has to match somewhere in order not to be punctuation. -/
  punctuation : Option Regex.Expression
  hidesClosedClass : Bool

namespace WordFilter

/-- Hides nothing. -/
def none : WordFilter := ⟨Option.none, false⟩

def keeps (filter : WordFilter) (lexicon : Lexicon) (word : String) : Bool :=
  filter.punctuation.all (·.matchesIn word) &&
    !(filter.hidesClosedClass && lexicon.isClosedClass word)

end WordFilter

/-! ## Sentences -/

structure VisibleSentence where
  sentence : Sentence
  /-- The numbers of the visible tokens, in sentence order. -/
  indices : Array Nat
  /-- For each number, its positions in `indices`. -/
  positions : IndexTable Nat

namespace VisibleSentence

def ofSentence (filter : WordFilter) (lexicon : Lexicon) (sentence : Sentence) :
    VisibleSentence :=
  let tokens := sentence.tokens.toList
  let indices := (tokens.filter fun token => !token.isRoot && filter.keeps lexicon token.word).map
    Token.index
  { sentence, indices := indices.toArray
    positions := .ofEntries (Sentence.tableSize tokens) indices.zipIdx }

/-- The number of visible tokens. -/
def size (visible : VisibleSentence) : Nat := visible.indices.size

def isEmpty (visible : VisibleSentence) : Bool := visible.indices.isEmpty

/-- The position of a visible token; the root has none. -/
def position? (visible : VisibleSentence) (index : Nat) : Option Nat :=
  visible.positions.last? index

/-- The token at a position. -/
def at? (visible : VisibleSentence) (position : Nat) : Option TokenRef :=
  visible.indices[position]?.map fun index => ⟨visible.sentence.id, index⟩

def shows (visible : VisibleSentence) (index : Nat) : Bool :=
  index == rootIndex || (visible.position? index).isSome

end VisibleSentence

/-! ## Corpora -/

structure VisibleCorpus where
  corpus : Corpus
  sentences : Array VisibleSentence

namespace VisibleCorpus

def ofCorpus (filter : WordFilter) (lexicon : Lexicon) (corpus : Corpus) : VisibleCorpus :=
  ⟨corpus, (corpus.sentences.toList.map (.ofSentence filter lexicon)).toArray⟩

def sentence? (visible : VisibleCorpus) (id : Nat) : Option VisibleSentence :=
  (visible.corpus.position? id).bind fun position => visible.sentences[position]?

def shows (visible : VisibleCorpus) (ref : TokenRef) : Bool :=
  (visible.sentence? ref.sentence).any (·.shows ref.index)

end VisibleCorpus

end Concordancer
