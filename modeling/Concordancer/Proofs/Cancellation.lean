import Concordancer.Proofs.Corpus.Treebank
import Concordancer.Proofs.Presentation.Outputs

/-!
# Cancellation is all or nothing

A run looks at the signal before each sentence of each criterion, and wherever the
sentence changes among the matches that it shows.  Whenever the signal is set, the run
either is cancelled at its next look or has no look left and ends as if there were no
signal (`execute_cancelled_iff`); nothing is put out of what was found so far.

A signal that is set from the start cancels every run that looks at all.  These are the
runs with a sentence and a criterion (`looks_eq_zero_iff`): without them nothing is
tested, so that nothing is found and nothing is shown either.
-/

namespace Concordancer.CompiledQuery

variable {query : CompiledQuery} {search : Search}

theorem sentences_ne_nil_of_mem_matched {ref : TokenRef} (hmem : ref ∈ query.matched search) :
    search.navigator.visible.sentences.toList ≠ [] := by
  obtain ⟨criterion, -, hfound⟩ := exists_mem_found hmem
  obtain ⟨visible, hvisible, -⟩ := Search.mem_found.mp hfound
  exact List.ne_nil_of_mem hvisible

/-- A run looks at the signal unless it has no sentence or no criterion to look for. -/
theorem looks_eq_zero_iff :
    query.looks search = 0 ↔
      ¬(search.navigator.visible.sentences.toList ≠ [] ∧
        (query.criteria ≠ [] ∨ query.exclusions ≠ [])) := by
  rw [looks, Nat.add_eq_zero_iff, Nat.mul_eq_zero, ← Array.length_toList, List.length_eq_zero_iff,
    Nat.add_eq_zero_iff, List.length_eq_zero_iff, List.length_eq_zero_iff]
  constructor
  · rintro ⟨⟨hcriteria, hexclusions⟩ | hsentences, -⟩ ⟨hsome, hany⟩
    · rcases hany with hany | hany
      · exact hany hcriteria
      · exact hany hexclusions
    · exact hsome hsentences
  · intro hnone
    have hidle : (query.criteria = [] ∧ query.exclusions = []) ∨
        search.navigator.visible.sentences.toList = [] := by
      by_contra hbusy
      rw [not_or, not_and_or] at hbusy
      exact hnone ⟨hbusy.2, hbusy.1⟩
    refine ⟨hidle, ?_⟩
    -- Without a sentence or a criterion there is no match, and so no change of sentence.
    have hmatched : (query.matched search).toList = [] := by
      refine List.eq_nil_iff_forall_not_mem.mpr fun ref hmem => ?_
      rcases hidle with ⟨hcriteria, -⟩ | hsentences
      · obtain ⟨criterion, hcriterion, -⟩ := exists_mem_found hmem
        rw [hcriteria] at hcriterion
        exact List.not_mem_nil hcriterion
      · exact sentences_ne_nil_of_mem_matched hmem hsentences
    rw [hmatched, sentenceChanges, ite_self]

/-- **Cancellation is all or nothing.**  Whatever its looks read, a run over any corpus is cancelled
if one of the looks that it makes reads true, and otherwise ends with the very output of the
run that is never told to stop.  Told to stop from the start, it is cancelled if and only if
there are a sentence and a criterion, be it one that excludes. -/
theorem execute_cancelled_iff (query : CompiledQuery) (lexicon : Lexicon) (source : String)
    (sentences : List Sentence) :
    let run := query.execute lexicon (.ofSentences source sentences)
    ∃ output, run.Yields output ∧
      (∀ reads : Nat → Bool,
        let (result, trace) := run.outcome (.reading reads)
        (result = .error .cancelled ↔ ∃ look < trace.checks, reads look = true) ∧
          (result = .ok output ↔ ∀ look < trace.checks, reads look = false)) ∧
      ((run.outcome .always).1 = .error .cancelled ↔
        sentences ≠ [] ∧ (query.criteria ≠ [] ∨ query.exclusions ≠ [])) ∧
      ((run.outcome .always).1 = .ok output ↔
        ¬(sentences ≠ [] ∧ (query.criteria ≠ [] ∨ query.exclusions ≠ []))) := by
  intro run
  let search := query.search lexicon (.ofSentences source sentences)
  have hlooks : run.Looks (query.looks search)
      (query.answer search (query.matched search).toList) :=
    looks_execute (VisibleCorpus.knowsIds_ofSentences query.filter lexicon source sentences)
  have hsentences : search.navigator.visible.sentences.toList =
      sentences.map (.ofSentence query.filter lexicon) :=
    VisibleCorpus.sentences_ofCorpus query.filter lexicon source sentences
  -- Told to stop from the start, a run goes on only if it never looks.
  have hidle : query.looks search = 0 ↔
      ¬(sentences ≠ [] ∧ (query.criteria ≠ [] ∨ query.exclusions ≠ [])) := by
    rw [looks_eq_zero_iff, hsentences, ne_eq, List.map_eq_nil_iff]
  refine ⟨_, hlooks.yields, hlooks.outcome_reading, ?_⟩
  rw [hlooks.outcome_always, ← hidle]
  by_cases hzero : query.looks search = 0
  · rw [if_pos hzero]
    refine ⟨iff_of_false nofun ?_, iff_of_true rfl hzero⟩
    exact hidle.mp hzero
  · rw [if_neg hzero]
    refine ⟨iff_of_true rfl ?_, iff_of_false nofun hzero⟩
    exact not_not.mp (mt hidle.mpr hzero)

-- The sample query looks at both sentences, and then at each of the two in which it has a match.
example :
    (sample false).looks ((sample false).search .penn Treebank.sample.corpus) = 4 := by
  decide +kernel

end Concordancer.CompiledQuery
