import Concordancer.Proofs.Corpus.Chains

/-!
# Mates

The mates of a token are the token itself and the other mentions of its chain.  They are
looked up in two places: the chain of a token is read from the token that its number stands
for, the mentions of the chain are those of all rows.  In a well-numbered treebank rows and
tokens are the same, and so two different tokens are mates if and only if they have the same
chain (`mem_mates_iff`).  Being mates is then an equivalence on the corpus: every token is a
mate of itself, of its mates (`mates_symm`), and of their mates (`mates_trans`).
-/

namespace Concordancer

/-- The chain of the token that a reference stands for. -/
def Corpus.chain? (corpus : Corpus) (ref : TokenRef) : Option String :=
  (corpus.token? ref).bind Token.chain?

theorem Corpus.chain?_eq_some_iff {corpus : Corpus} {ref : TokenRef} {name : String} :
    corpus.chain? ref = some name ↔
      ∃ token, corpus.token? ref = some token ∧ token.chain? = some name :=
  Option.bind_eq_some_iff

namespace Treebank

variable {treebank : Treebank} {ref mate other : TokenRef}

/-- The tokens that a treebank has mates of. -/
def mates (treebank : Treebank) (ref : TokenRef) : List TokenRef :=
  (Coreference.ofCorpus treebank.corpus).mates treebank.corpus ref

theorem self_mem_mates (treebank : Treebank) (ref : TokenRef) : ref ∈ treebank.mates ref :=
  Coreference.self_mem_mates _ _ ref

namespace WellNumbered

variable (hnumbered : treebank.WellNumbered)

include hnumbered

/-- The tokens of a well-numbered treebank are the rows of its parses. -/
theorem token?_corpus {row : Token} :
    treebank.corpus.token? ref = some row ↔
      ∃ parse ∈ treebank.parses, parse.id = ref.sentence ∧
        row ∈ parse.rows ∧ row.index = ref.index := by
  rw [Corpus.token?, Option.bind_eq_some_iff]
  constructor
  · rintro ⟨sentence, hsentence, htoken⟩
    obtain ⟨parse, hparse, hid, rfl⟩ := hnumbered.sentence?_corpus.mp hsentence
    exact ⟨parse, hparse, hid, (hnumbered.parses parse hparse).token?_sentence.mp htoken⟩
  · rintro ⟨parse, hparse, hid, hrow⟩
    exact ⟨parse.sentence, hnumbered.sentence?_corpus.mpr ⟨parse, hparse, hid, rfl⟩,
      (hnumbered.parses parse hparse).token?_sentence.mpr hrow⟩

theorem mem_mentions_iff_chain? {name : String} :
    (name, ref) ∈ Coreference.mentions treebank.corpus ↔
      treebank.corpus.chain? ref = some name := by
  rw [mem_mentions_corpus, Corpus.chain?, Option.bind_eq_some_iff]
  constructor
  · rintro ⟨parse, hparse, hid, row, hrow, hindex, hchain⟩
    exact ⟨row, hnumbered.token?_corpus.mpr ⟨parse, hparse, hid, hrow, hindex⟩, hchain⟩
  · rintro ⟨row, htoken, hchain⟩
    obtain ⟨parse, hparse, hid, hrow, hindex⟩ := hnumbered.token?_corpus.mp htoken
    exact ⟨parse, hparse, hid, row, hrow, hindex, hchain⟩

/-- Mates are the same token, or have the same chain. -/
theorem mem_mates_iff :
    mate ∈ treebank.mates ref ↔
      mate = ref ∨ ∃ name, treebank.corpus.chain? ref = some name ∧
        treebank.corpus.chain? mate = some name := by
  rw [mates, Coreference.mem_mates]
  refine or_congr_right (exists_congr fun name => and_congr_right fun _ => ?_)
  exact hnumbered.mem_mentions_iff_chain?

theorem mates_symm (hmate : mate ∈ treebank.mates ref) : ref ∈ treebank.mates mate := by
  rw [hnumbered.mem_mates_iff] at hmate ⊢
  rcases hmate with rfl | ⟨name, href, hmate⟩
  · exact .inl rfl
  · exact .inr ⟨name, hmate, href⟩

theorem mates_trans (hmate : mate ∈ treebank.mates ref) (hother : other ∈ treebank.mates mate) :
    other ∈ treebank.mates ref := by
  rw [hnumbered.mem_mates_iff] at hmate hother ⊢
  rcases hmate with rfl | ⟨name, href, hmate⟩
  · exact hother
  · rcases hother with rfl | ⟨same, hsame, hother⟩
    · exact .inr ⟨name, href, hmate⟩
    · -- The one in the middle has one chain only, which is that of all three.
      rw [hmate, Option.some.injEq] at hsame
      exact .inr ⟨name, href, hsame ▸ hother⟩

theorem isRoot_of_mem_mates (hmate : mate ∈ treebank.mates ref) (href : ref.isRoot = false) :
    mate.isRoot = false := by
  rcases hnumbered.mem_mates_iff.mp hmate with rfl | ⟨name, -, hchain⟩
  · exact href
  · obtain ⟨row, htoken, -⟩ := Option.bind_eq_some_iff.mp hchain
    obtain ⟨parse, hparse, -, hrow, hindex⟩ := hnumbered.token?_corpus.mp htoken
    have hroot : row.isRoot = false := (hnumbered.parses parse hparse).isRoot_eq_false hrow
    rw [TokenRef.isRoot, ← hindex]
    exact hroot

end WellNumbered

end Treebank

end Concordancer
