import Concordancer.Proofs.Corpus.Lookup
import Concordancer.Proofs.Sentence.Tables

/-!
# Treebanks

Statements about corpora are statements about what they are made from: a treebank, that
is a list of parses, each with its rows in any order.  A treebank is *well numbered* when
no two of its parses share an identifier and each numbers its rows from 1 without
repetition.  Nothing is asked of governors, which may be missing, form circles, or be
the row itself.

## Main statements

* `token?_sentence` and `shows_visible`: in a well-numbered sentence the tokens are
  the rows, and the visible ones are those whose words the filter keeps;
* `sentence?_visible`: the visible sentences of a corpus are the visible parts of its parses.
-/

namespace Concordancer

/-- The parse of one sentence, from which the sentence is made. -/
structure Parse where
  id : Nat
  rows : List Token
  metadata : Std.TreeMap String String

/-- The parses from which a corpus is made. -/
structure Treebank where
  source : String
  parses : List Parse

namespace Parse

def sentence (parse : Parse) : Sentence :=
  .ofRows parse.id parse.rows parse.metadata

/-- The visible part of the sentence. -/
def visible (filter : WordFilter) (lexicon : Lexicon) (parse : Parse) :
    VisibleSentence :=
  .ofSentence filter lexicon parse.sentence

/-- Rows are numbered from 1, and each has a number of its own. -/
structure WellNumbered (parse : Parse) : Prop where
  distinct : (parse.rows.map Token.index).Nodup
  positive : ∀ row ∈ parse.rows, 1 ≤ row.index

instance (parse : Parse) : Decidable parse.WellNumbered :=
  decidable_of_iff ((parse.rows.map Token.index).Nodup ∧ ∀ row ∈ parse.rows, 1 ≤ row.index)
    ⟨fun ⟨hdistinct, hpositive⟩ => ⟨hdistinct, hpositive⟩,
      fun hnumbered => ⟨hnumbered.distinct, hnumbered.positive⟩⟩

variable {parse : Parse}

namespace WellNumbered

theorem isRoot_eq_false (hnumbered : parse.WellNumbered) {row : Token}
    (hrow : row ∈ parse.rows) : row.isRoot = false := by
  have := hnumbered.positive row hrow
  simp only [Token.isRoot, rootIndex, beq_eq_false_iff_ne]
  omega

/-- The tokens of a well-numbered sentence are its rows. -/
theorem token?_sentence (hnumbered : parse.WellNumbered) {index : Nat} {row : Token} :
    parse.sentence.token? index = some row ↔ row ∈ parse.rows ∧ row.index = index :=
  Sentence.token?_ofRows_eq_some_iff _ _ _ hnumbered.distinct
    fun _ hrow => hnumbered.isRoot_eq_false hrow

/-- Without rows numbered 0, leaving these rows out leaves out nothing. -/
theorem filter_isRoot (hnumbered : parse.WellNumbered) (p : Token → Bool) :
    ((Sentence.arrange parse.rows).filter fun row => !row.isRoot && p row) =
      (Sentence.arrange parse.rows).filter p :=
  List.filter_congr fun row hrow => by
    rw [hnumbered.isRoot_eq_false (Sentence.mem_arrange.mp hrow)]
    rfl

end WellNumbered

/-! ## Visible tokens -/

variable (filter : WordFilter) (lexicon : Lexicon)

theorem indices_visible (hnumbered : parse.WellNumbered) :
    (parse.visible filter lexicon).indices.toList =
      ((Sentence.arrange parse.rows).filter fun row => filter.keeps lexicon row.word).map
        Token.index := by
  rw [← hnumbered.filter_isRoot]
  rfl

theorem pos_of_mem_indices {index : Nat}
    (hindex : index ∈ (parse.visible filter lexicon).indices.toList) : 0 < index := by
  obtain ⟨row, hrow, rfl⟩ := List.mem_map.mp hindex
  obtain ⟨hroot, -⟩ := Bool.and_eq_true_iff.mp (List.mem_filter.mp hrow).2
  simp only [Token.isRoot, rootIndex, Bool.not_eq_true', beq_eq_false_iff_ne] at hroot
  omega

/-- The position of a number is the last place where it stands among the visible ones. -/
theorem position?_visible (index : Nat) :
    (parse.visible filter lexicon).position? index =
      (((parse.visible filter lexicon).indices.toList.zipIdx.filter
        (·.1 = index)).map (·.2)).getLast? := by
  simp only [VisibleSentence.position?, IndexTable.last?]
  refine congrArg List.getLast? (IndexTable.all_ofEntries_of_bounded ?_ index)
  intro entry hentry
  obtain ⟨row, hrow, hindex⟩ := List.mem_map.mp (List.fst_mem_of_mem_zipIdx hentry)
  rw [← hindex]
  exact Sentence.index_lt_tableSize (Sentence.arrange_sorted parse.rows)
    (List.mem_of_mem_filter hrow)

/-- Shown are the root and the numbers that are listed as visible. -/
theorem shows_visible_iff_mem {index : Nat} :
    (parse.visible filter lexicon).shows index = true ↔
      index = rootIndex ∨ index ∈ (parse.visible filter lexicon).indices.toList := by
  rw [VisibleSentence.shows, Bool.or_eq_true, beq_iff_eq, position?_visible, List.getLast?_isSome]
  refine or_congr_right ?_
  rw [ne_eq, List.map_eq_nil_iff, List.filter_eq_nil_iff]
  constructor
  · intro hplace
    by_contra hindex
    refine hplace fun entry hentry => ?_
    simp only [decide_eq_true_eq]
    rintro rfl
    exact hindex (List.fst_mem_of_mem_zipIdx hentry)
  · intro hindex hplace
    obtain ⟨position, hposition⟩ := List.mem_iff_getElem?.mp hindex
    exact hplace (index, position) (List.mk_mem_zipIdx_iff_getElem?.mpr hposition) (by simp)

/-- Shown are the root and the rows whose words the filter keeps. -/
theorem shows_visible (hnumbered : parse.WellNumbered) {index : Nat} :
    (parse.visible filter lexicon).shows index = true ↔
      index = rootIndex ∨
        ∃ row ∈ parse.rows, row.index = index ∧ filter.keeps lexicon row.word = true := by
  rw [shows_visible_iff_mem, indices_visible filter lexicon hnumbered]
  refine or_congr_right ?_
  simp only [List.mem_map, List.mem_filter, Sentence.mem_arrange]
  constructor
  · rintro ⟨row, ⟨hrow, hkeeps⟩, hindex⟩
    exact ⟨row, hrow, hindex, hkeeps⟩
  · rintro ⟨row, hrow, hindex, hkeeps⟩
    exact ⟨row, ⟨hrow, hkeeps⟩, hindex⟩

end Parse

/-! ## Corpora -/

namespace Treebank

def corpus (treebank : Treebank) : Corpus :=
  .ofSentences treebank.source (treebank.parses.map Parse.sentence)

/-- The parse that an identifier stands for, the last one if it is repeated. -/
def parse? (treebank : Treebank) (id : Nat) : Option Parse :=
  treebank.parses.reverse.find? fun parse => parse.id = id

theorem sentence?_eq_parse? (treebank : Treebank) (id : Nat) :
    treebank.corpus.sentence? id = (treebank.parse? id).map Parse.sentence := by
  rw [corpus, Corpus.sentence?_ofSentences, ← List.map_reverse, List.find?_map]
  rfl

theorem mem_of_parse? {treebank : Treebank} {id : Nat} {parse : Parse}
    (hparse : treebank.parse? id = some parse) : parse ∈ treebank.parses :=
  List.mem_reverse.mp (List.mem_of_find?_eq_some hparse)

/-- Sentences have identifiers of their own, and rows have numbers of their own. -/
structure WellNumbered (treebank : Treebank) : Prop where
  distinct : (treebank.parses.map Parse.id).Nodup
  parses : ∀ parse ∈ treebank.parses, parse.WellNumbered

instance (treebank : Treebank) : Decidable treebank.WellNumbered :=
  decidable_of_iff ((treebank.parses.map Parse.id).Nodup ∧
      ∀ parse ∈ treebank.parses, parse.WellNumbered)
    ⟨fun ⟨hdistinct, hparses⟩ => ⟨hdistinct, hparses⟩,
      fun hnumbered => ⟨hnumbered.distinct, hnumbered.parses⟩⟩

variable {treebank : Treebank}

theorem WellNumbered.distinct_sentences (hnumbered : treebank.WellNumbered) :
    ((treebank.parses.map Parse.sentence).map Sentence.id).Nodup := by
  rw [List.map_map]
  exact hnumbered.distinct

theorem WellNumbered.sentence?_corpus (hnumbered : treebank.WellNumbered) {id : Nat}
    {sentence : Sentence} :
    treebank.corpus.sentence? id = some sentence ↔
      ∃ parse ∈ treebank.parses, parse.id = id ∧ parse.sentence = sentence := by
  rw [corpus, Corpus.sentence?_eq_some_iff hnumbered.distinct_sentences, List.mem_map]
  constructor
  · rintro ⟨⟨parse, hmem, rfl⟩, hid⟩
    exact ⟨parse, hmem, hid, rfl⟩
  · rintro ⟨parse, hmem, hid, rfl⟩
    exact ⟨⟨parse, hmem, rfl⟩, hid⟩

variable (filter : WordFilter) (lexicon : Lexicon)

/-- The corpus as a filter shows it. -/
def visible (treebank : Treebank) : VisibleCorpus :=
  .ofCorpus filter lexicon treebank.corpus

@[simp] theorem sentences_visible :
    (treebank.visible filter lexicon).sentences.toList =
      treebank.parses.map (Parse.visible filter lexicon) := by
  rw [visible, corpus, VisibleCorpus.sentences_ofCorpus, List.map_map]
  rfl

/-- What an identifier stands for is visible as far as the filter keeps its words. -/
theorem sentence?_visible_eq_parse? (treebank : Treebank) (filter : WordFilter)
    (lexicon : Lexicon) (id : Nat) :
    (treebank.visible filter lexicon).sentence? id =
      (treebank.parse? id).map (Parse.visible filter lexicon) := by
  rw [visible, VisibleCorpus.sentence?_ofCorpus, sentence?_eq_parse?, Option.map_map]
  rfl

/-- The visible sentences are the visible parts of the parsed ones. -/
theorem sentence?_visible (hnumbered : treebank.WellNumbered) {id : Nat}
    {visible : VisibleSentence} :
    (treebank.visible filter lexicon).sentence? id = some visible ↔
      ∃ parse ∈ treebank.parses,
        parse.id = id ∧ parse.visible filter lexicon = visible := by
  rw [Treebank.visible, VisibleCorpus.sentence?_ofCorpus, Option.map_eq_some_iff]
  simp only [hnumbered.sentence?_corpus]
  constructor
  · rintro ⟨sentence, ⟨parse, hmem, hid, rfl⟩, rfl⟩
    exact ⟨parse, hmem, hid, rfl⟩
  · rintro ⟨parse, hmem, hid, rfl⟩
    exact ⟨parse.sentence, ⟨parse, hmem, hid, rfl⟩, rfl⟩

/-- Two sentences.  In the first, rows stand out of order, *cat* and *sat* govern each other,
*he* governs itself, the comma has a governor that is not there, and *cat* and *he* are
mentions of the subject of the second. -/
def sample : Treebank where
  source := "fable"
  parses := [
    { id := 7
      rows := [
        .parsed 6 "," "," "," 11 "punct",
        { Token.parsed 2 "cat" "cat" "NN" 3 "nsubj" with coreference := some "c1*" },
        .parsed 1 "the" "the" "DT" 2 "det",
        .parsed 3 "sat" "sit" "VBD" 2 "root",
        { Token.parsed 5 "he" "he" "PRP" 5 "dep" with coreference := some "c1" }]
      metadata := ∅ },
    { id := 2
      rows := [
        .parsed 2 "slept" "sleep" "VBD" 0 "root",
        { Token.parsed 1 "It" "it" "PRP" 2 "nsubj," with
          coreference := some "c1", speaker := some "narrator" }]
      metadata := ∅ }]

end Treebank

end Concordancer
