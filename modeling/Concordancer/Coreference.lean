import Concordancer.Corpus

/-!
# Chains of mentions

Tokens that refer to one thing form a chain, which may run through several sentences.  Here
all chains of a corpus are gathered, with their mentions in corpus order.
-/

namespace Concordancer

structure Coreference where
  /-- The mentions of each chain, in corpus order. -/
  chains : Std.TreeMap String (Array TokenRef)

namespace Coreference

/-- The mentions of a corpus with their chains, in corpus order. -/
def mentions (corpus : Corpus) : List (String × TokenRef) :=
  corpus.sentences.toList.flatMap fun sentence =>
    sentence.tokens.toList.filterMap fun token =>
      token.chain?.map fun chain => (chain, ⟨sentence.id, token.index⟩)

/-- Adds a mention at the end of its chain. -/
def add (coreference : Coreference) (chain : String) (mention : TokenRef) : Coreference :=
  ⟨coreference.chains.insert chain ((coreference.chains.getD chain #[]).push mention)⟩

def ofCorpus (corpus : Corpus) : Coreference :=
  (mentions corpus).foldl (fun coreference (chain, mention) => coreference.add chain mention)
    ⟨∅⟩

/-- The number of chains. -/
def size (coreference : Coreference) : Nat := coreference.chains.size

def isEmpty (coreference : Coreference) : Bool := coreference.chains.isEmpty

/-- The mentions of a chain, in corpus order. -/
def chain (coreference : Coreference) (name : String) : List TokenRef :=
  (coreference.chains.getD name #[]).toList

/-- A token, followed by the other mentions of its chain. -/
def mates (coreference : Coreference) (corpus : Corpus) (ref : TokenRef) : List TokenRef :=
  match (corpus.token? ref).bind Token.chain? with
  | none => [ref]
  | some name => ref :: (coreference.chain name).filter (· ≠ ref)

end Coreference

end Concordancer
