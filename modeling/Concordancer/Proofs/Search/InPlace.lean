import Concordancer.Proofs.Search.Combination
import Concordancer.Proofs.Search.Meaning
import Concordancer.Proofs.Sentence.Positions

/-!
# Criteria that report what they test

A criterion on the match itself, without adjacency and without coreference, reports the very
token on which it is tested.  What it finds are the visible tokens for which it holds, in
corpus order (`toList_found_in_place`).  None of them is lost or repeated, since in a
well-numbered treebank the visible tokens are all different (`nodup_refs`).
-/

namespace Concordancer

/-- The visible tokens of a corpus, in corpus order. -/
def VisibleCorpus.refs (visible : VisibleCorpus) : List TokenRef :=
  visible.sentences.toList.flatMap VisibleSentence.refs

namespace Treebank

variable {treebank : Treebank} {filter : WordFilter} {lexicon : Lexicon}

/-- Listed are the visible tokens other than roots. -/
theorem WellNumbered.mem_refs_iff (hnumbered : treebank.WellNumbered) {ref : TokenRef} :
    ref ∈ (treebank.visible filter lexicon).refs ↔
      (treebank.visible filter lexicon).shows ref = true ∧ ref.isRoot = false := by
  rw [← hnumbered.mem_scanned_iff filter lexicon ref, VisibleCorpus.refs, List.mem_flatMap]
  exact exists_congr fun visible => and_congr_right fun _ => VisibleSentence.mem_refs

theorem WellNumbered.nodup_refs (hnumbered : treebank.WellNumbered) :
    (treebank.visible filter lexicon).refs.Nodup := by
  rw [VisibleCorpus.refs, sentences_visible, List.flatMap_map, List.nodup_flatMap]
  constructor
  · intro parse hparse
    refine List.Nodup.map ?_ (hnumbered.parses parse hparse).nodup_indices
    intro index other hsame
    exact congrArg TokenRef.index hsame
  · -- Tokens of different parses have different identifiers.
    have hids : treebank.parses.Pairwise fun first second => first.id ≠ second.id :=
      List.pairwise_map.mp hnumbered.distinct
    refine hids.imp fun {first second} hne => ?_
    intro ref hfirst hsecond
    have hsame : first.id = second.id :=
      (VisibleSentence.mem_refs.mp hfirst).1.symm.trans (VisibleSentence.mem_refs.mp hsecond).1
    exact hne hsame

end Treebank

namespace Search

variable {search : Search} {criterion : Criterion} {treebank : Treebank} {filter : WordFilter}
  {lexicon : Lexicon}

section

variable (hrole : criterion.role = .self) (hplace : criterion.adjacency = none)
  (hplain : criterion.expandsCoreference = false)

include hplace

theorem tested_eq_refs (visible : VisibleSentence) :
    search.tested criterion visible = visible.refs := by
  rw [tested, hplace]
  show visible.indices.toList.filterMap
    (fun index => some (TokenRef.mk visible.sentence.id index)) = _
  rw [List.filterMap_eq_map', VisibleSentence.refs]

include hrole hplain

theorem report_eq_singleton {ref : TokenRef} (hshows : search.navigator.visible.shows ref = true) :
    search.report criterion ref = [ref] := by
  have hanchor : search.anchor? criterion ref = some ref := by
    rw [anchor?, hplace]
    exact if_pos hshows
  rw [report, mentions_of_not_expandsCoreference hplain, List.filterMap_cons_some hanchor,
    List.filterMap_nil, List.flatMap_singleton, hrole, Role.inverse, Navigator.resolve_self hshows]

/-- A criterion that reports what it tests finds the visible tokens for which it holds, in corpus
order. -/
theorem toList_found_in_place (hnumbered : treebank.WellNumbered)
    (hvisible : search.navigator.visible = treebank.visible filter lexicon) :
    (search.found criterion).toList =
      (treebank.visible filter lexicon).refs.filter
        fun ref => (search.holds criterion ref).value := by
  have hreported : ∀ visible ∈ (treebank.visible filter lexicon).sentences.toList,
      search.reportedIn criterion visible =
        visible.refs.filter fun ref => (search.holds criterion ref).value := by
    intro visible hmem
    have hreport : ∀ ref ∈ visible.refs, search.report criterion ref = [ref] := by
      intro ref href
      have hlisted : ref ∈ (treebank.visible filter lexicon).refs :=
        List.mem_flatMap.mpr ⟨visible, hmem, href⟩
      obtain ⟨hshows, -⟩ := hnumbered.mem_refs_iff.mp hlisted
      exact report_eq_singleton hrole hplace hplain (hvisible ▸ hshows)
    rw [reportedIn, tested_eq_refs hplace]
    calc
      (visible.refs.filter fun ref => (search.holds criterion ref).value).flatMap
          (search.report criterion) =
          (visible.refs.filter fun ref => (search.holds criterion ref).value).flatMap
            fun ref => [ref] :=
        List.flatMap_congr fun ref href => hreport ref (List.mem_of_mem_filter href)
      _ = visible.refs.filter fun ref => (search.holds criterion ref).value :=
        List.flatMap_singleton' _
  rw [found, hvisible, List.flatMap_congr hreported, ← List.filter_flatMap]
  exact OrderedSet.toList_ofList (hnumbered.nodup_refs.filter _)

end

end Search

end Concordancer
