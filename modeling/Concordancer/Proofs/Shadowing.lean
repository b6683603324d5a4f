import Concordancer.Proofs.Corpus.LastRows
import Concordancer.Proofs.Corpus.Mates

/-!
# Mates and shadowed rows

Treebanks that were merged may repeat identifiers and numbers.  A reference then stands for the
last row at its address (`Treebank.StandsLastAt`).  Chains however are gathered from all rows,
the shadowed ones too (`mem_mates_iff_standsAt`).

So a mate is the address of a row of the chain, and it stands for a token of the chain if and
only if such a row is not shadowed (`mates_share_chain`).  In `merged` two of three
mates are shadowed (`mates_shadowed`).
-/

namespace Concordancer

namespace Treebank

variable {treebank : Treebank} {ref mate : TokenRef} {token : Token}

/-- The mentions of a chain are the addresses of the rows that name it, shadowed or not. -/
theorem mem_mentions_iff_standsAt {name : String} :
    (name, ref) ∈ Coreference.mentions treebank.corpus ↔
      ∃ row, treebank.StandsAt row ref ∧ row.chain? = some name := by
  rw [mem_mentions_corpus]
  constructor
  · rintro ⟨parse, hparse, hid, row, hrow, hindex, hchain⟩
    exact ⟨row, ⟨parse, hparse, hid, hrow, hindex⟩, hchain⟩
  · rintro ⟨row, ⟨parse, hparse, hid, hrow, hindex⟩, hchain⟩
    exact ⟨parse, hparse, hid, row, hrow, hindex, hchain⟩

theorem mem_mates_iff_standsAt (htoken : treebank.corpus.token? ref = some token) :
    mate ∈ treebank.mates ref ↔
      mate = ref ∨ ∃ name, token.chain? = some name ∧
        ∃ row, treebank.StandsAt row mate ∧ row.chain? = some name := by
  rw [mates, Coreference.mem_mates, htoken, Option.bind_some]
  simp only [mem_mentions_iff_standsAt]

/-- **Mates share the chain unless they are shadowed.**  In any treebank, let a reference stand
for a token.  Its mates, roots aside, are the reference itself and the addresses of all rows that
have the chain of the token.  Such an address stands for a token of this chain if and only if
such a row is not shadowed, which is so for all mates whose identifier and number are not
repeated. -/
theorem mates_share_chain (htoken : treebank.corpus.token? ref = some token)
    (hplain : mate.isRoot = false) :
    (mate ∈ (Coreference.ofCorpus treebank.corpus).mates treebank.corpus ref ↔
      mate = ref ∨ token.chain?.isSome = true ∧
        ∃ row, treebank.StandsAt row mate ∧ row.chain? = token.chain?) ∧
    ((∃ other, treebank.corpus.token? mate = some other ∧ other.chain? = token.chain?) ↔
      ∃ row, treebank.StandsLastAt row mate ∧ row.chain? = token.chain?) ∧
    (mate ∈ (Coreference.ofCorpus treebank.corpus).mates treebank.corpus ref →
      treebank.IsUnrepeated mate →
        ∃ other, treebank.corpus.token? mate = some other ∧ other.chain? = token.chain?) := by
  have hresolves : ∀ other, treebank.corpus.token? mate = some other ↔
      treebank.StandsLastAt other mate := by
    intro other
    rw [token?_corpus_eq_some_iff, and_iff_right hplain]
  have hmates : mate ∈ (Coreference.ofCorpus treebank.corpus).mates treebank.corpus ref ↔
      mate = ref ∨ token.chain?.isSome = true ∧
        ∃ row, treebank.StandsAt row mate ∧ row.chain? = token.chain? := by
    rw [← mates, mem_mates_iff_standsAt htoken]
    cases token.chain? with
    | none => simp
    | some name => simp
  refine ⟨hmates, ?_, fun hmate hunrepeated => ?_⟩
  · exact exists_congr fun other => and_congr_left fun _ => hresolves other
  · rcases hmates.mp hmate with rfl | ⟨-, row, hrow, hchain⟩
    · exact ⟨token, htoken, rfl⟩
    · exact ⟨row, (hresolves row).mpr (hrow.standsLastAt hunrepeated), hchain⟩

/-- Two parses have the identifier 1, and two rows of the third parse the number 2. -/
def merged : Treebank where
  source := "merged"
  parses := [
    { id := 1
      rows := [{ Token.parsed 1 "Anna" "Anna" "NNP" 0 "root" with coreference := some "c1" }]
      metadata := ∅ },
    { id := 1
      rows := [.parsed 1 "Bob" "Bob" "NNP" 0 "root"]
      metadata := ∅ },
    { id := 2
      rows := [
        { Token.parsed 1 "She" "she" "PRP" 2 "nsubj" with coreference := some "c1" },
        { Token.parsed 2 "her" "her" "PRP" 0 "root" with coreference := some "c1" },
        .parsed 2 "rain" "rain" "NN" 0 "root",
        { Token.parsed 3 "herself" "herself" "PRP" 2 "dep" with coreference := some "c1*" }]
      metadata := ∅ }]

theorem mates_share_chain_merged :
    ∃ token, merged.corpus.token? ⟨2, 1⟩ = some token ∧ token.chain? = some "c1" ∧
      ((TokenRef.mk 1 1).isRoot = false ∧
        ⟨1, 1⟩ ∈ (Coreference.ofCorpus merged.corpus).mates merged.corpus ⟨2, 1⟩ ∧
        ¬ ∃ row, merged.StandsLastAt row ⟨1, 1⟩ ∧ row.chain? = token.chain?) ∧
      (TokenRef.mk 2 3).isRoot = false ∧
        ⟨2, 3⟩ ∈ (Coreference.ofCorpus merged.corpus).mates merged.corpus ⟨2, 1⟩ ∧
        merged.IsUnrepeated ⟨2, 3⟩ ∧
        ∃ other, merged.corpus.token? ⟨2, 3⟩ = some other ∧ other.chain? = token.chain? := by
  obtain ⟨token, htoken, hchain⟩ : ∃ token, merged.corpus.token? ⟨2, 1⟩ = some token ∧
      token.chain? = some "c1" := ⟨_, rfl, by decide +kernel⟩
  have hplain : ∀ mate ∈ [TokenRef.mk 1 1, ⟨2, 3⟩], mate.isRoot = false := by decide
  have hunrepeated : merged.IsUnrepeated ⟨2, 3⟩ := ⟨by decide, by decide⟩
  have hbob : merged.corpus.chain? ⟨1, 1⟩ = none := by decide +kernel
  have hherself : ⟨2, 3⟩ ∈ (Coreference.ofCorpus merged.corpus).mates merged.corpus ⟨2, 1⟩ := by
    decide +kernel
  have hplainAnna := hplain ⟨1, 1⟩ (by decide)
  have hplainHerself := hplain ⟨2, 3⟩ (by decide)
  obtain ⟨hmates, hshadowed, -⟩ := mates_share_chain htoken hplainAnna
  obtain ⟨-, -, hresolves⟩ := mates_share_chain htoken hplainHerself
  refine ⟨token, htoken, hchain, ⟨hplainAnna, hmates.mpr (.inr ⟨?_, ?_⟩), ?_⟩, hplainHerself,
    hherself, hunrepeated, hresolves hherself hunrepeated⟩
  · rw [hchain]
    rfl
  · rw [hchain]
    refine ⟨_, ⟨_, List.mem_cons_self, rfl, List.mem_cons_self, rfl⟩, by decide +kernel⟩
  · rw [← hshadowed, hchain, ← Corpus.chain?_eq_some_iff, hbob]
    exact nofun

/-- Mates need not share the chain: what shadows *Anna* and *her* has none. -/
theorem mates_shadowed :
    ∃ token, merged.corpus.token? ⟨2, 1⟩ = some token ∧ token.chain? = some "c1" ∧
      ∀ mate ∈ [TokenRef.mk 1 1, ⟨2, 2⟩],
        mate ∈ (Coreference.ofCorpus merged.corpus).mates merged.corpus ⟨2, 1⟩ ∧ mate ≠ ⟨2, 1⟩ ∧
        ¬ ∃ other, merged.corpus.token? mate = some other ∧ other.chain? = token.chain? := by
  obtain ⟨token, htoken, hchain⟩ : ∃ token, merged.corpus.token? ⟨2, 1⟩ = some token ∧
      token.chain? = some "c1" := ⟨_, rfl, by decide +kernel⟩
  have hmates : ∀ mate ∈ [TokenRef.mk 1 1, ⟨2, 2⟩],
      mate ∈ (Coreference.ofCorpus merged.corpus).mates merged.corpus ⟨2, 1⟩ ∧ mate ≠ ⟨2, 1⟩ ∧
        merged.corpus.chain? mate = none := by
    decide +kernel
  refine ⟨token, htoken, hchain, fun mate hmate => ?_⟩
  obtain ⟨hmem, hother, hnone⟩ := hmates mate hmate
  refine ⟨hmem, hother, ?_⟩
  rw [hchain, ← Corpus.chain?_eq_some_iff, hnone]
  exact nofun

end Treebank

end Concordancer
