import Concordancer.Sentence

/-!
# Corpora

A corpus is a sequence of sentences from one source.  Sentences are addressed by their
identifiers; where two sentences share one, it stands for the later sentence.
-/

namespace Concordancer

structure Corpus where
  /-- Where the text comes from, as concordance lines show it. -/
  source : String
  sentences : Array Sentence
  /-- Where the sentence with an identifier stands. -/
  positions : Std.TreeMap Nat Nat

namespace Corpus

def ofSentences (source : String) (sentences : List Sentence) : Corpus :=
  { source, sentences := sentences.toArray
    positions := sentences.zipIdx.foldl
      (fun positions (sentence, position) => positions.insert sentence.id position) ∅ }

/-- The position of the sentence with this identifier. -/
def position? (corpus : Corpus) (id : Nat) : Option Nat := corpus.positions[id]?

def sentence? (corpus : Corpus) (id : Nat) : Option Sentence :=
  (corpus.position? id).bind fun position => corpus.sentences[position]?

def token? (corpus : Corpus) (ref : TokenRef) : Option Token :=
  (corpus.sentence? ref.sentence).bind (·.token? ref.index)

def size (corpus : Corpus) : Nat := corpus.sentences.size

def isEmpty (corpus : Corpus) : Bool := corpus.sentences.isEmpty

end Corpus

end Concordancer
