import Concordancer.Coreference
import Concordancer.Proofs.Corpus.Treebank

/-!
# Chains and mentions

The chains of a corpus are gathered mention by mention.  A chain holds the mentions that
have its name, in the order in which the corpus lists them (`chain_ofCorpus`), and the
mentions of a treebank are those of its parses (`mentions_corpus`), which are the rows that
name a chain (`mem_mentions_corpus`).
-/

namespace Concordancer

namespace Coreference

theorem chain_add (coreference : Coreference) (chain : String) (mention : TokenRef)
    (name : String) :
    (coreference.add chain mention).chain name =
      coreference.chain name ++ if chain = name then [mention] else [] := by
  unfold Coreference.chain add
  rw [Std.TreeMap.getD_insert]
  by_cases hname : chain = name
  · subst hname
    simp
  · simp [hname]

private theorem chain_foldl_add (entries : List (String × TokenRef)) (coreference : Coreference)
    (name : String) :
    (entries.foldl (fun coreference (chain, mention) => coreference.add chain mention)
        coreference).chain name =
      coreference.chain name ++ (entries.filter (·.1 = name)).map (·.2) := by
  induction entries generalizing coreference with
  | nil => exact (List.append_nil _).symm
  | cons entry rest ih =>
      rw [List.foldl_cons, ih, chain_add, List.filter_cons, List.append_assoc]
      by_cases hname : entry.1 = name <;> simp [hname]

/-- A chain holds the mentions that have its name, in the order of the corpus. -/
theorem chain_ofCorpus (corpus : Corpus) (name : String) :
    (ofCorpus corpus).chain name = ((mentions corpus).filter (·.1 = name)).map (·.2) := by
  unfold ofCorpus
  rw [chain_foldl_add]
  simp [chain]

theorem mem_chain_ofCorpus {corpus : Corpus} {name : String} {ref : TokenRef} :
    ref ∈ (ofCorpus corpus).chain name ↔ (name, ref) ∈ mentions corpus := by
  rw [chain_ofCorpus, List.mem_map]
  constructor
  · rintro ⟨⟨other, mention⟩, hentry, rfl⟩
    obtain ⟨hentry, hname⟩ := List.mem_filter.mp hentry
    rw [← of_decide_eq_true hname]
    exact hentry
  · intro hentry
    exact ⟨_, List.mem_filter.mpr ⟨hentry, decide_eq_true rfl⟩, rfl⟩

theorem self_mem_mates (coreference : Coreference) (corpus : Corpus) (ref : TokenRef) :
    ref ∈ coreference.mates corpus ref := by
  rw [mates]
  cases (corpus.token? ref).bind Token.chain? with
  | none => exact List.mem_singleton_self ref
  | some name => exact List.mem_cons_self

/-- The mentions of the chain of a token are those of its name, and the token itself. -/
theorem mem_mates {corpus : Corpus} {ref mate : TokenRef} :
    mate ∈ (ofCorpus corpus).mates corpus ref ↔
      mate = ref ∨ ∃ name, (corpus.token? ref).bind Token.chain? = some name ∧
        (name, mate) ∈ mentions corpus := by
  unfold mates
  cases hchain : (corpus.token? ref).bind Token.chain? with
  | none => simp
  | some name =>
      simp only [List.mem_cons, List.mem_filter, mem_chain_ofCorpus, decide_eq_true_eq,
        Option.some.injEq, exists_eq_left']
      by_cases hself : mate = ref
      · simp [hself]
      · simp [hself]

end Coreference

/-- The mentions of a parse with their chains, in sentence order. -/
def Parse.mentions (parse : Parse) : List (String × TokenRef) :=
  (Sentence.arrange parse.rows).filterMap fun row =>
    row.chain?.map fun chain => (chain, ⟨parse.id, row.index⟩)

theorem Treebank.mentions_corpus (treebank : Treebank) :
    Coreference.mentions treebank.corpus = treebank.parses.flatMap Parse.mentions := by
  simp only [Coreference.mentions, corpus, Corpus.ofSentences]
  rw [List.flatMap_map]
  rfl

theorem Parse.mem_mentions {parse : Parse} {name : String} {ref : TokenRef} :
    (name, ref) ∈ parse.mentions ↔
      parse.id = ref.sentence ∧
        ∃ row ∈ parse.rows, row.index = ref.index ∧ row.chain? = some name := by
  rw [mentions, List.mem_filterMap]
  constructor
  · rintro ⟨row, hrow, hmention⟩
    obtain ⟨chain, hchain, hentry⟩ := Option.map_eq_some_iff.mp hmention
    cases hentry
    exact ⟨rfl, row, Sentence.mem_arrange.mp hrow, rfl, hchain⟩
  · rintro ⟨hid, row, hrow, hindex, hchain⟩
    refine ⟨row, Sentence.mem_arrange.mpr hrow, ?_⟩
    rw [hchain, hid, hindex]
    rfl

/-- The mentions of a chain are the rows that name it. -/
theorem Treebank.mem_mentions_corpus {treebank : Treebank} {name : String} {ref : TokenRef} :
    (name, ref) ∈ Coreference.mentions treebank.corpus ↔
      ∃ parse ∈ treebank.parses, parse.id = ref.sentence ∧
        ∃ row ∈ parse.rows, row.index = ref.index ∧ row.chain? = some name := by
  rw [mentions_corpus, List.mem_flatMap]
  exact exists_congr fun parse => and_congr_right fun _ => Parse.mem_mentions

end Concordancer
