import Concordancer.Proofs.Agreement.Answers
import Concordancer.Proofs.Agreement.Searches
import Concordancer.Proofs.Corpus.Chains
import Concordancer.Proofs.Presentation.Outputs
import Concordancer.Proofs.Search.Combination

/-!
# The order of presentation does not matter

A treebank may list its sentences, and the rows of each sentence, in any order
(`Treebank.Reordering`).  A query finds the same tokens in all of these orders, and its
outputs are the same up to order, with and without coreference.

## Strategy

Rows in another order make the very same sentence, since sorting absorbs the order and
all tables are filled from sorted rows (`sentence_eq`).  What remains are sentences in
another order.  Every identifier stands for the same sentence, so that the navigators
agree everywhere.  Chains list their mentions in another order; but a search with the
same mentions reports the same tokens, and combining asks only which tokens these are
(`mem_matched_of_perm`).
-/

namespace Concordancer

/-! ## Reorderings -/

/-- The same sentence with its rows in another order. -/
structure Parse.Reordering (first second : Parse) : Prop where
  id_eq : first.id = second.id
  metadata_eq : first.metadata = second.metadata
  rows_perm : first.rows.Perm second.rows

/-- The same sentences in another order, each with its rows in another order. -/
structure Treebank.Reordering (first second : Treebank) : Prop where
  source_eq : first.source = second.source
  parses_rel : ∃ parses, List.Forall₂ Parse.Reordering first.parses parses ∧
    parses.Perm second.parses

/-- The last sentence first, and in each the last row first. -/
def Treebank.backwards (treebank : Treebank) : Treebank where
  source := treebank.source
  parses := (treebank.parses.map fun parse => { parse with rows := parse.rows.reverse }).reverse

theorem Treebank.reordering_backwards (treebank : Treebank) :
    treebank.Reordering treebank.backwards := by
  refine ⟨rfl, _, ?_, (List.reverse_perm _).symm⟩
  rw [List.forall₂_map_right_iff, List.forall₂_same]
  exact fun parse _ => ⟨rfl, rfl, (List.reverse_perm parse.rows).symm⟩

/-- Rows in another order make the same sentence. -/
theorem Parse.Reordering.sentence_eq {first second : Parse} (hreordering : first.Reordering second)
    (hnumbered : first.WellNumbered) : first.sentence = second.sentence := by
  obtain ⟨hid, hmetadata, hrows⟩ := hreordering
  unfold Parse.sentence Sentence.ofRows
  rw [hid, hmetadata, Sentence.arrange_eq_of_perm hnumbered.distinct hrows]

private theorem map_sentence_eq {parses others : List Parse}
    (hreordering : List.Forall₂ Parse.Reordering parses others)
    (hnumbered : ∀ parse ∈ parses, parse.WellNumbered) :
    parses.map Parse.sentence = others.map Parse.sentence := by
  induction hreordering with
  | nil => rfl
  | cons hparse _ ih =>
      obtain ⟨hfirst, hrest⟩ := List.forall_mem_cons.mp hnumbered
      rw [List.map_cons, List.map_cons, hparse.sentence_eq hfirst, ih hrest]

/-- Reordering a treebank reorders its sentences. -/
theorem Treebank.Reordering.sentences_perm {first second : Treebank}
    (hreordering : first.Reordering second) (hnumbered : first.WellNumbered) :
    (first.parses.map Parse.sentence).Perm (second.parses.map Parse.sentence) := by
  obtain ⟨-, parses, hrows, hperm⟩ := hreordering
  rw [map_sentence_eq hrows hnumbered.parses]
  exact hperm.map _

namespace Corpus

variable (source : String) {first second : List Sentence}

theorem sentence?_of_perm (hperm : first.Perm second) (hdistinct : (first.map Sentence.id).Nodup)
    (id : Nat) :
    (ofSentences source first).sentence? id = (ofSentences source second).sentence? id := by
  refine Option.ext fun sentence => ?_
  rw [sentence?_eq_some_iff hdistinct,
    sentence?_eq_some_iff ((hperm.map Sentence.id).nodup hdistinct), hperm.mem_iff]

theorem mentions_perm (hperm : first.Perm second) :
    (Coreference.mentions (ofSentences source first)).Perm
      (Coreference.mentions (ofSentences source second)) :=
  hperm.flatMap_right _

end Corpus

namespace CompiledQuery

variable {query : CompiledQuery} {lexicon : Lexicon} {source : String}
  {first second : List Sentence} {ref : TokenRef}

section

variable (hperm : first.Perm second) (hdistinct : (first.map Sentence.id).Nodup)

include hperm hdistinct

/-! ## What is found -/

/-- The mentions of a chain are the same in any order of the sentences. -/
theorem mem_mentions_of_perm {criterion : Criterion} {mention : TokenRef}
    (hmem : mention ∈ (query.search lexicon (.ofSentences source first)).mentions criterion ref) :
    mention ∈ (query.search lexicon (.ofSentences source second)).mentions criterion ref := by
  unfold Search.mentions search at hmem ⊢
  cases hcoreference : query.options.coreference with
  | false => simpa [hcoreference] using hmem
  | true =>
      cases hexpands : criterion.expandsCoreference with
      | false => simpa [hcoreference, hexpands] using hmem
      | true =>
          simp only [hcoreference, hexpands, if_true, VisibleCorpus.ofCorpus] at hmem ⊢
          rw [Coreference.mem_mates] at hmem ⊢
          -- The chain has the same name, and its mentions are the same in another order.
          refine hmem.imp_right ?_
          rintro ⟨name, hname, hmention⟩
          refine ⟨name, ?_, ?_⟩
          · unfold Corpus.token? at hname ⊢
            rwa [← Corpus.sentence?_of_perm source hperm hdistinct]
          · exact (Corpus.mentions_perm source hperm).mem_iff.mp hmention

theorem mem_found_of_perm {criterion : Criterion}
    (hmem : ref ∈ (query.search lexicon (.ofSentences source first)).found criterion) :
    ref ∈ (query.search lexicon (.ofSentences source second)).found criterion := by
  have hagrees := agrees_search query lexicon (fun _ => True) fun id _ =>
    Corpus.sentence?_of_perm source hperm hdistinct id
  obtain ⟨visible, hvisible, tested, htested, haccepts, hreport⟩ := Search.mem_found.mp hmem
  obtain ⟨mention, hmention, anchor, hanchor, hresolve⟩ := Search.mem_report.mp hreport
  refine Search.mem_found.mpr ⟨visible, ?_, tested, ?_, ?_, Search.mem_report.mpr
    ⟨mention, mem_mentions_of_perm hperm hdistinct hmention, anchor, ?_, ?_⟩⟩
  · simp only [search, VisibleCorpus.sentences_ofCorpus] at hvisible ⊢
    exact (hperm.map _).mem_iff.mp hvisible
  · rw [← Search.tested_eq hagrees (.refl visible) fun _ _ => trivial]
    exact htested
  · rw [← Search.value_holds_iff, ← Search.holds_eq hagrees trivial trivial]
    exact Search.value_holds_iff.mpr haccepts
  · rw [← Search.anchor?_eq hagrees trivial]
    exact hanchor
  · rw [← hagrees.resolve_eq trivial]
    exact hresolve

/-- A query finds the same tokens in any order of the sentences. -/
theorem mem_matched_of_perm :
    ref ∈ query.matched (query.search lexicon (.ofSentences source first)) ↔
      ref ∈ query.matched (query.search lexicon (.ofSentences source second)) := by
  have hfound : ∀ (criteria : List Criterion), ∀ criterion ∈ criteria, ∀ ref,
      ref ∈ (query.search lexicon (.ofSentences source first)).found criterion ↔
        ref ∈ (query.search lexicon (.ofSentences source second)).found criterion := by
    intro criteria criterion _ ref
    exact ⟨mem_found_of_perm hperm hdistinct,
      mem_found_of_perm hperm.symm ((hperm.map Sentence.id).nodup hdistinct)⟩
  unfold matched
  rw [OrderedSet.mem_difference, OrderedSet.mem_difference, Search.mem_combine_congr _ (hfound _),
    Search.mem_combine_congr _ (hfound _)]

/-! ## What is shown -/

private theorem answer_of_perm :
    (query.answer (query.search lexicon (.ofSentences source first))
        (query.matched (query.search lexicon (.ofSentences source first))).toList).SameUpToOrder
      (query.answer (query.search lexicon (.ofSentences source second))
        (query.matched (query.search lexicon (.ofSentences source second))).toList) := by
  rw [answer_congr fun ref _ => shown_eq query lexicon (fun _ => True)
    (fun id _ => Corpus.sentence?_of_perm source hperm hdistinct id) trivial]
  exact answer_sameUpToOrder (OrderedSet.toList_perm fun _ => mem_matched_of_perm hperm hdistinct)

end

/-- **The order of presentation does not matter.**  With sentences in another order, and rows in
another order within them, a query finds the same tokens, and its output is the same up to
order. -/
theorem answers_reordering (query : CompiledQuery) (lexicon : Lexicon) {first second : Treebank}
    (hreordering : first.Reordering second) (hnumbered : first.WellNumbered) :
    ∃ foundFirst foundSecond outputFirst outputSecond,
      query.Answers lexicon first.corpus foundFirst outputFirst ∧
      query.Answers lexicon second.corpus foundSecond outputSecond ∧
      (∀ ref, ref ∈ foundFirst ↔ ref ∈ foundSecond) ∧
      foundFirst.size = foundSecond.size ∧
      outputFirst.SameUpToOrder outputSecond := by
  have hperm := hreordering.sentences_perm hnumbered
  have hdistinct := hnumbered.distinct_sentences
  have hknows := VisibleCorpus.knowsIds_ofSentences query.filter lexicon second.source
  rw [Treebank.corpus, Treebank.corpus, hreordering.source_eq]
  have hfound : ∀ ref, ref ∈ query.matched (query.search lexicon
      (.ofSentences second.source (first.parses.map Parse.sentence))) ↔
        ref ∈ query.matched (query.search lexicon
          (.ofSentences second.source (second.parses.map Parse.sentence))) :=
    fun _ => mem_matched_of_perm hperm hdistinct
  exact ⟨_, _, _, _, answers_matched (hknows _), answers_matched (hknows _), hfound,
    (OrderedSet.toList_perm hfound).length_eq, answer_of_perm hperm hdistinct⟩

theorem answers_reordering_sample :
    Treebank.sample.Reordering Treebank.sample.backwards ∧ Treebank.sample.WellNumbered ∧
      ∃ foundFirst foundSecond outputFirst outputSecond,
        (sample true).Answers .penn Treebank.sample.corpus foundFirst outputFirst ∧
        (sample true).Answers .penn Treebank.sample.backwards.corpus foundSecond outputSecond ∧
        (∀ ref, ref ∈ foundFirst ↔ ref ∈ foundSecond) ∧
        foundFirst.size = foundSecond.size ∧
        outputFirst.SameUpToOrder outputSecond := by
  have hreordering := Treebank.reordering_backwards Treebank.sample
  have hnumbered : Treebank.sample.WellNumbered := by decide
  exact ⟨hreordering, hnumbered, answers_reordering (sample true) .penn hreordering hnumbered⟩

-- The same tokens are found, in the order of the sentences.
example :
    ((sample true).matched ((sample true).search .penn Treebank.sample.corpus)).toList =
        [⟨7, 3⟩, ⟨7, 5⟩, ⟨2, 2⟩] ∧
      ((sample true).matched
          ((sample true).search .penn Treebank.sample.backwards.corpus)).toList =
        [⟨2, 2⟩, ⟨7, 3⟩, ⟨7, 5⟩] := by
  decide +kernel

end CompiledQuery

end Concordancer
