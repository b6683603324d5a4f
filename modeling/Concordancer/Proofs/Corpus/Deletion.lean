import Concordancer.Proofs.Corpus.Chains
import Concordancer.Proofs.Navigation
import Concordancer.Proofs.Sentence.Likeness

/-!
# Deleting the rows that a filter hides

A filter hides rows, but their tokens keep their numbers, their governors and their
places in the tables.  `withoutHidden` deletes these rows instead, so that the tables are
made without them.  For a number that is shown, the two cannot be told apart: the same
numbers are visible at the same positions (`looksLike_withoutHidden`), the token is the
same, and so are those of its governors and dependents that are shown
(`filter_inRole`).  Chains lose the mentions that were hidden (`mates_withoutHidden`).
-/

namespace Concordancer

variable (filter : WordFilter) (lexicon : Lexicon)

@[simp] theorem WordFilter.keeps_none (word : String) :
    WordFilter.none.keeps lexicon word = true := rfl

namespace Parse

/-- The parse without the rows that a filter hides. -/
def withoutHidden (parse : Parse) : Parse :=
  { parse with rows := parse.rows.filter fun row => filter.keeps lexicon row.word }

variable {parse : Parse}

@[simp] theorem id_withoutHidden : (parse.withoutHidden filter lexicon).id = parse.id := rfl

theorem mem_rows_withoutHidden {row : Token} :
    row ∈ (parse.withoutHidden filter lexicon).rows ↔
      row ∈ parse.rows ∧ filter.keeps lexicon row.word = true :=
  List.mem_filter

theorem WellNumbered.withoutHidden (hnumbered : parse.WellNumbered) :
    (parse.withoutHidden filter lexicon).WellNumbered where
  distinct := hnumbered.distinct.sublist (List.filter_sublist.map Token.index)
  positive := fun row hrow =>
    hnumbered.positive row ((mem_rows_withoutHidden filter lexicon).mp hrow).1

/-- The rows that are left stand as they stood. -/
theorem arrange_withoutHidden :
    Sentence.arrange (parse.withoutHidden filter lexicon).rows =
      (Sentence.arrange parse.rows).filter fun row => filter.keeps lexicon row.word :=
  (Sentence.filter_arrange _ _).symm

/-- The same numbers are visible, at the same positions. -/
theorem looksLike_withoutHidden (hnumbered : parse.WellNumbered) :
    (parse.visible filter lexicon).LooksLike
      ((parse.withoutHidden filter lexicon).visible .none lexicon) := by
  have hindices : (parse.visible filter lexicon).indices.toList =
      ((parse.withoutHidden filter lexicon).visible .none lexicon).indices.toList := by
    rw [indices_visible _ _ hnumbered, indices_visible _ _ (hnumbered.withoutHidden filter lexicon),
      arrange_withoutHidden]
    simp
  refine ⟨rfl, Array.toList_inj.mp hindices, fun index => ?_⟩
  rw [position?_visible, position?_visible, hindices]

/-- The number of a row is shown if the filter keeps its word. -/
theorem shows_index_of_mem (hnumbered : parse.WellNumbered) {row : Token}
    (hrow : row ∈ parse.rows) :
    (parse.visible filter lexicon).shows row.index = filter.keeps lexicon row.word := by
  rw [Bool.eq_iff_iff, shows_visible filter lexicon hnumbered]
  constructor
  · rintro (hroot | ⟨other, hother, hindex, hkeeps⟩)
    · have := hnumbered.positive row hrow
      rw [hroot] at this
      contradiction
    · have hsame : other = row := List.inj_on_of_nodup_map hnumbered.distinct hother hrow hindex
      rw [← hsame]
      exact hkeeps
  · exact fun hkeeps => .inr ⟨row, hrow, rfl, hkeeps⟩

theorem token?_withoutHidden (hnumbered : parse.WellNumbered) {index : Nat}
    (hshows : (parse.visible filter lexicon).shows index = true) :
    parse.sentence.token? index = (parse.withoutHidden filter lexicon).sentence.token? index := by
  have hkept := hnumbered.withoutHidden filter lexicon
  refine Option.ext fun row => ?_
  rw [hnumbered.token?_sentence, hkept.token?_sentence, mem_rows_withoutHidden]
  constructor
  · rintro ⟨hrow, rfl⟩
    rw [shows_index_of_mem filter lexicon hnumbered hrow] at hshows
    exact ⟨⟨hrow, hshows⟩, rfl⟩
  · rintro ⟨⟨hrow, -⟩, hindex⟩
    exact ⟨hrow, hindex⟩

/-- A number that is shown governs the same numbers among those that are shown. -/
private theorem filter_dependents (hnumbered : parse.WellNumbered) {index : Nat}
    (hshows : (parse.visible filter lexicon).shows index = true) :
    (parse.sentence.dependents index).filter (parse.visible filter lexicon).shows =
      ((parse.withoutHidden filter lexicon).sentence.dependents index).filter
        (parse.visible filter lexicon).shows := by
  have hkept := hnumbered.withoutHidden filter lexicon
  -- The table without hidden rows may be smaller, but has a cell for what is shown.
  have hbound := lt_tableSize_of_shows hshows
  have hboundKept : index < Sentence.tableSize
      (Sentence.arrange (parse.withoutHidden filter lexicon).rows) := by
    rw [(looksLike_withoutHidden filter lexicon hnumbered).shows_eq] at hshows
    exact lt_tableSize_of_shows hshows
  unfold sentence
  rw [Sentence.dependents_ofRows, Sentence.dependents_ofRows, if_pos hbound, if_pos hboundKept,
    hnumbered.filter_isRoot, hkept.filter_isRoot, arrange_withoutHidden, List.filter_map,
    List.filter_map, List.filter_filter, List.filter_filter, List.filter_filter]
  refine congrArg (List.map Token.index) (List.filter_congr fun row hrow => ?_)
  have hshown := shows_index_of_mem filter lexicon hnumbered (Sentence.mem_arrange.mp hrow)
  simp only [Function.comp_apply, hshown]
  cases filter.keeps lexicon row.word <;> simp

theorem filter_inRole (hnumbered : parse.WellNumbered) (role : Role) {index : Nat}
    (hshows : (parse.visible filter lexicon).shows index = true) :
    (parse.sentence.inRole role index).filter (parse.visible filter lexicon).shows =
      ((parse.withoutHidden filter lexicon).sentence.inRole role index).filter
        (parse.visible filter lexicon).shows := by
  cases role with
  | self => rfl
  | governor =>
      unfold Sentence.inRole Sentence.governor?
      rw [token?_withoutHidden filter lexicon hnumbered hshows]
  | dependent => exact filter_dependents filter lexicon hnumbered hshows

/-- Of the mentions, those are left that are shown. -/
theorem mentions_withoutHidden (hnumbered : parse.WellNumbered) :
    (parse.withoutHidden filter lexicon).mentions =
      parse.mentions.filter fun entry => (parse.visible filter lexicon).shows entry.2.index := by
  unfold mentions
  rw [arrange_withoutHidden, List.filterMap_filter, List.filter_filterMap]
  refine List.filterMap_congr fun row hrow => ?_
  have hshown := shows_index_of_mem filter lexicon hnumbered (Sentence.mem_arrange.mp hrow)
  cases hkeeps : filter.keeps lexicon row.word <;> cases row.chain? <;>
    simp [Option.filter, hshown, hkeeps]

end Parse

namespace Treebank

/-- The treebank without the rows that a filter hides. -/
def withoutHidden (treebank : Treebank) : Treebank :=
  { treebank with parses := treebank.parses.map (Parse.withoutHidden filter lexicon) }

variable {treebank : Treebank}

theorem WellNumbered.withoutHidden (hnumbered : treebank.WellNumbered) :
    (treebank.withoutHidden filter lexicon).WellNumbered where
  distinct := by
    unfold Treebank.withoutHidden
    rw [List.map_map]
    exact hnumbered.distinct
  parses := by
    intro parse hparse
    obtain ⟨parse, hmem, rfl⟩ := List.mem_map.mp hparse
    exact (hnumbered.parses parse hmem).withoutHidden filter lexicon

/-! ## Look-ups from a token that is shown -/

section

variable (hnumbered : treebank.WellNumbered) {ref : TokenRef}

include hnumbered

theorem WellNumbered.exists_parse (href : (treebank.visible filter lexicon).shows ref = true) :
    ∃ parse ∈ treebank.parses, parse.id = ref.sentence ∧
      (parse.visible filter lexicon).shows ref.index = true := by
  obtain ⟨visible, hfound, hshows⟩ := Navigator.shows_iff.mp href
  obtain ⟨parse, hparse, hid, rfl⟩ := (sentence?_visible filter lexicon hnumbered).mp hfound
  exact ⟨parse, hparse, hid, hshows⟩

variable {parse : Parse} (hparse : parse ∈ treebank.parses)

include hparse

theorem WellNumbered.sentence?_of_mem :
    treebank.corpus.sentence? parse.id = some parse.sentence ∧
      (treebank.visible filter lexicon).sentence? parse.id =
        some (parse.visible filter lexicon) :=
  ⟨hnumbered.sentence?_corpus.mpr ⟨parse, hparse, rfl, rfl⟩,
    (sentence?_visible filter lexicon hnumbered).mpr ⟨parse, hparse, rfl, rfl⟩⟩

theorem WellNumbered.sentence?_withoutHidden_of_mem :
    (treebank.withoutHidden filter lexicon).corpus.sentence? parse.id =
        some (parse.withoutHidden filter lexicon).sentence ∧
      ((treebank.withoutHidden filter lexicon).visible .none lexicon).sentence? parse.id =
        some ((parse.withoutHidden filter lexicon).visible .none lexicon) :=
  (hnumbered.withoutHidden filter lexicon).sentence?_of_mem .none lexicon
    (List.mem_map.mpr ⟨parse, hparse, rfl⟩)

end

/-! ## Chains -/

theorem WellNumbered.token?_corpus_withoutHidden (hnumbered : treebank.WellNumbered)
    {ref : TokenRef} (href : (treebank.visible filter lexicon).shows ref = true) :
    (treebank.withoutHidden filter lexicon).corpus.token? ref = treebank.corpus.token? ref := by
  obtain ⟨parse, hparse, hid, hshows⟩ := hnumbered.exists_parse filter lexicon href
  have htoken := Parse.token?_withoutHidden filter lexicon (hnumbered.parses parse hparse) hshows
  unfold Corpus.token?
  rw [← hid, (hnumbered.sentence?_of_mem filter lexicon hparse).1,
    (hnumbered.sentence?_withoutHidden_of_mem filter lexicon hparse).1, Option.bind_some,
    Option.bind_some, htoken]

theorem WellNumbered.mentions_withoutHidden (hnumbered : treebank.WellNumbered) :
    Coreference.mentions (treebank.withoutHidden filter lexicon).corpus =
      (Coreference.mentions treebank.corpus).filter
        fun entry => (treebank.visible filter lexicon).shows entry.2 := by
  rw [mentions_corpus, mentions_corpus, Treebank.withoutHidden, List.flatMap_map,
    List.filter_flatMap]
  refine List.flatMap_congr fun parse hparse => ?_
  rw [Parse.mentions_withoutHidden filter lexicon (hnumbered.parses parse hparse)]
  refine List.filter_congr fun entry hentry => ?_
  obtain ⟨row, -, hrow⟩ := List.mem_filterMap.mp hentry
  obtain ⟨chain, -, rfl⟩ := Option.map_eq_some_iff.mp hrow
  unfold VisibleCorpus.shows
  rw [(hnumbered.sentence?_of_mem filter lexicon hparse).2, Option.any_some]

/-- Of the mates of a token that is shown, those are left that are shown. -/
theorem WellNumbered.mates_withoutHidden (hnumbered : treebank.WellNumbered) {ref : TokenRef}
    (href : (treebank.visible filter lexicon).shows ref = true) :
    (Coreference.ofCorpus (treebank.withoutHidden filter lexicon).corpus).mates
        (treebank.withoutHidden filter lexicon).corpus ref =
      ((Coreference.ofCorpus treebank.corpus).mates treebank.corpus ref).filter
        (treebank.visible filter lexicon).shows := by
  unfold Coreference.mates
  rw [hnumbered.token?_corpus_withoutHidden filter lexicon href]
  cases (treebank.corpus.token? ref).bind Token.chain? with
  | none => simp [href]
  | some name =>
      have hchain :
          (Coreference.ofCorpus (treebank.withoutHidden filter lexicon).corpus).chain name =
            ((Coreference.ofCorpus treebank.corpus).chain name).filter
              (treebank.visible filter lexicon).shows := by
        rw [Coreference.chain_ofCorpus, Coreference.chain_ofCorpus,
          hnumbered.mentions_withoutHidden filter lexicon, List.filter_map, List.filter_comm]
        rfl
      simp only [hchain]
      rw [List.filter_comm, List.filter_cons, if_pos href]

end Treebank

end Concordancer
