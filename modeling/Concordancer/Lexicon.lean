import Concordancer.Text.Lowercase
import Std.Data.TreeMap
import Std.Data.TreeSet

/-!
# Lexicons

What is known of words apart from any corpus: the word class of a tag, the form under which
a base form is listed, and the closed class of words that carry grammar rather than content.
Tags and closed-class words are compared without regard to case.
-/

namespace Concordancer

structure Lexicon where
  /-- The word classes of tags in lower case. -/
  wordClasses : Std.TreeMap String String
  listedForms : Std.TreeMap String String
  /-- The closed class, in lower case. -/
  closedClass : Std.TreeSet String

namespace Lexicon

def empty : Lexicon := ⟨∅, ∅, ∅⟩

/-- Adds word classes of tags; the last class given for a tag holds. -/
def addWordClasses (lexicon : Lexicon) (entries : List (String × String)) : Lexicon :=
  { lexicon with
    wordClasses := entries.foldl
      (fun classes (tag, wordClass) => classes.insert (Text.lowercase tag) wordClass)
      lexicon.wordClasses }

/-- Adds listed forms of base forms; the last form given for a base form holds. -/
def addListedForms (lexicon : Lexicon) (entries : List (String × String)) : Lexicon :=
  { lexicon with
    listedForms := entries.foldl
      (fun forms (baseForm, form) => forms.insert baseForm form) lexicon.listedForms }

def addClosedClass (lexicon : Lexicon) (words : List String) : Lexicon :=
  { lexicon with
    closedClass := words.foldl (fun known word => known.insert (Text.lowercase word))
      lexicon.closedClass }

/-- The word class of a tag; an unknown tag is a class of its own, in lower case. -/
def wordClass (lexicon : Lexicon) (tag : String) : String :=
  lexicon.wordClasses.getD (Text.lowercase tag) (Text.lowercase tag)

/-- The form under which a base form is listed, which is mostly the base form itself. -/
def listedForm (lexicon : Lexicon) (baseForm : String) : String :=
  lexicon.listedForms.getD baseForm baseForm

def isClosedClass (lexicon : Lexicon) (word : String) : Bool :=
  lexicon.closedClass.contains (Text.lowercase word)

/-! ## English with Penn Treebank tags -/

def pennWordClasses : List (String × String) :=
  [("cc", "Coordinator"), ("cd", "Number"), ("dt", "Determiner"), ("ex", "Existential"),
   ("fw", "Foreign"), ("in", "Preposition"), ("jj", "Adjective"), ("jjr", "Adjective"),
   ("jjs", "Adjective"), ("ls", "List"), ("md", "Modal"), ("nn", "Noun"), ("nns", "Noun"),
   ("nnp", "Noun"), ("nnps", "Noun"), ("pdt", "Determiner"), ("pos", "Possessive"),
   ("prp", "Pronoun"), ("prp$", "Pronoun"), ("rb", "Adverb"), ("rbr", "Adverb"),
   ("rbs", "Adverb"), ("rp", "Particle"), ("sym", "Symbol"), ("to", "To"),
   ("uh", "Interjection"), ("vb", "Verb"), ("vbd", "Verb"), ("vbg", "Verb"), ("vbn", "Verb"),
   ("vbp", "Verb"), ("vbz", "Verb"), ("wdt", "Determiner"), ("wp", "Pronoun"),
   ("wp$", "Pronoun"), ("wrb", "Adverb")]

def englishClosedClass : List String :=
  ["a", "about", "above", "after", "all", "am", "an", "and", "any", "are", "as", "at", "be",
   "because", "been", "before", "being", "below", "between", "both", "but", "by", "can",
   "could", "did", "do", "does", "during", "each", "either", "for", "from", "had", "has",
   "have", "he", "her", "hers", "herself", "him", "himself", "his", "i", "if", "in", "into",
   "is", "it", "its", "itself", "may", "me", "might", "mine", "must", "my", "myself",
   "neither", "nor", "of", "on", "or", "our", "ours", "ourselves", "shall", "she", "should",
   "since", "so", "some", "than", "that", "the", "their", "theirs", "them", "themselves",
   "these", "they", "this", "those", "through", "to", "under", "until", "us", "was", "we",
   "were", "what", "when", "where", "which", "while", "who", "whom", "whose", "will", "with",
   "would", "you", "your", "yours", "yourself", "yourselves"]

def penn : Lexicon :=
  (empty.addWordClasses pennWordClasses).addClosedClass englishClosedClass

end Lexicon

end Concordancer
