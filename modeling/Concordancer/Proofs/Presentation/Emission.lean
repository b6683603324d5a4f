import Concordancer.Proofs.Compiling
import Concordancer.Proofs.Descriptors.Showing
import Concordancer.Proofs.Presentation.Surroundings
import Concordancer.Proofs.Refusals

/-!
# Every match is visible and is shown

A search takes numbers from all visible sentences, and looks tokens up by identifiers.  Where an
identifier is repeated these are not the same sentences, and the wildcard accepts what is no token
of the sentence that the identifier stands for.  Still nothing is found that is not visible
there: whatever is reported has passed a role, and a role leads to visible tokens only
(`sentence?_of_mem_matched`).

So every match has a span, and without grams and windows it has one, which shows it.  A
run renders as many spans as it would count matches (`matches_shown`).

## Strategy

A count changes the layout of a query and nothing that is searched with
(`exists_compile_insert_count`).  The spans of a run are the texts of its state when all matches
have been shown, which are those of the matches, one after the other (`looks_shown`).
-/

namespace Concordancer

/-! ## Asking for a count -/

theorem Layout.exists_compile_insert_count {earlier later : List String} {layout : Layout}
    (hlayout : compile (earlier ++ later) = .ok layout) :
    ∃ counting, counting.count = true ∧ compile (earlier ++ "c" :: later) = .ok counting := by
  obtain ⟨-, columns, hcolumns, -⟩ := compile_eq_ok_iff.mp hlayout
  have hmem : "c" ∈ earlier ++ "c" :: later := List.mem_append_right _ List.mem_cons_self
  have hothers : (earlier ++ "c" :: later).filter (· ≠ "c") =
      (earlier ++ later).filter (· ≠ "c") := by
    rw [List.filter_append, List.filter_cons_of_neg (by simp), List.filter_append]
  refine ⟨⟨true, columns⟩, rfl, compile_eq_ok_iff.mpr ⟨iff_of_true rfl hmem, columns, ?_, ?_⟩⟩
  · rw [hothers]
    exact hcolumns
  · exact (if_neg fun hnone => hnone.2 hmem).symm

namespace Query

variable {source : Query} {query : CompiledQuery} {dialect : Regex.Dialect}

/-- With `c` among its show descriptors, a query searches with the same criteria. -/
theorem exists_compile_insert_count (hcompile : source.compile dialect = .ok query)
    {earlier later : List String} (hshown : source.shown = earlier ++ later) :
    ∃ counting : Layout, counting.count = true ∧
      { source with shown := earlier ++ "c" :: later }.compile dialect =
        .ok { query with layout := counting } := by
  obtain ⟨hcriteria, hexclusions, hlayout, hfilter, hoptions⟩ := compile_eq_ok_iff.mp hcompile
  rw [hshown] at hlayout
  obtain ⟨counting, hcount, hcounting⟩ := Layout.exists_compile_insert_count hlayout
  exact ⟨counting, hcount,
    compile_eq_ok_iff.mpr ⟨hcriteria, hexclusions, hcounting, hfilter, hoptions⟩⟩

end Query

/-! ## Matches -/

namespace CompiledQuery

variable {query : CompiledQuery} {search : Search}

theorem sentence?_of_mem_matched {ref : TokenRef} (hmem : ref ∈ query.matched search) :
    ∃ visible, search.navigator.visible.sentence? ref.sentence = some visible ∧
      visible.shows ref.index = true := by
  obtain ⟨criterion, -, hfound⟩ := exists_mem_found hmem
  exact Navigator.shows_iff.mp (Search.shows_of_mem_found hfound)

/-- Without repetitions, each match has one text. -/
theorem flatMap_textsOf_matched (hexpansion : query.layout.expansion = none) :
    (query.matched search).toList.flatMap (query.textsOf search) =
      (query.matched search).toList.map (query.rendered search) := by
  rw [List.map_eq_flatMap]
  exact List.flatMap_congr fun ref href => textsOf_eq_singleton hexpansion
    (Navigator.shows_iff.mpr (sentence?_of_mem_matched (OrderedSet.mem_iff.mpr href)))

/-- **Every match is visible and is shown.**  Whatever the sentences of a corpus and the filter are,
with coreference or without it: each match of a query that compiles is visible in the sentence
that its identifier stands for.  Without grams and windows it has one span, which shows it.  A
run that shows texts then renders one for each match, in their order, and leaves out those with
nothing to show in the end; and with `c` anywhere among its show descriptors the query counts as
many as are rendered. -/
theorem matches_shown {source : Query} {dialect : Regex.Dialect} {query : CompiledQuery}
    (hcompile : source.compile dialect = .ok query) (lexicon : Lexicon) (origin : String)
    (sentences : List Sentence) :
    let corpus := Corpus.ofSentences origin sentences
    let search := query.search lexicon corpus
    ∃ found, (query.findMatches search).Yields found ∧
      (∀ ref ∈ found, search.navigator.visible.shows ref = true ∧
        ∃ visible, search.navigator.visible.sentence? ref.sentence = some visible ∧
          corpus.sentence? ref.sentence = some visible.sentence ∧
          visible.sentence.id = ref.sentence ∧
          (query.layout.expansion = none →
            ∃ span, query.repetition.spans visible ref = [span] ∧ span.tokens = [ref])) ∧
      (query.layout.expansion = none → query.layout.count = false →
        ∃ shown, (query.showMatches (query.renderer search) none
            ⟨#[], #[], query.concordance? search⟩ found.toList).Yields shown ∧
          (source.run lexicon corpus dialect).Yields
            ⟨.texts (if query.options.concordance = .only then []
              else shown.texts.toList.filter query.showsText), shown.lines.toList⟩ ∧
          shown.texts.toList = found.toList.map (query.rendered search) ∧
          ∀ earlier later, source.shown = earlier ++ later →
            ({ source with shown := earlier ++ "c" :: later }.run lexicon corpus dialect).Yields
              ⟨.count shown.texts.size, []⟩) := by
  intro corpus search
  have hknows : search.navigator.visible.KnowsIds :=
    VisibleCorpus.knowsIds_ofSentences query.filter lexicon origin sentences
  refine ⟨query.matched search, looks_findMatches.yields, ?_, ?_⟩
  · intro ref hmem
    obtain ⟨visible, hfound, hshows⟩ := sentence?_of_mem_matched hmem
    refine ⟨Navigator.shows_iff.mpr ⟨visible, hfound, hshows⟩, visible, hfound, ?_,
      hknows _ _ hfound, fun hexpansion => query.repetition.spans_eq_singleton hexpansion hshows⟩
    obtain ⟨sentence, hsentence, rfl⟩ := Option.map_eq_some_iff.mp
      ((VisibleCorpus.sentence?_ofCorpus query.filter lexicon corpus _).symm.trans hfound)
    exact hsentence
  · -- Without an expansion each match has one text, and as many are counted as are rendered.
    intro hexpansion hcount
    obtain ⟨shown, hlooks, htexts, hlines⟩ := looks_shown hknows (query.matched search).toList
    refine ⟨shown, hlooks.yields, ?_, htexts.trans (flatMap_textsOf_matched hexpansion), ?_⟩
    · rw [← answer_of_shown hcount htexts hlines]
      exact Query.yields_run hcompile lexicon origin sentences
    · intro earlier later hdescriptors
      -- With `c` added, the query compiles to the same but for its layout, and finds the same.
      obtain ⟨counting, hcounts, hcounting⟩ :=
        Query.exists_compile_insert_count hcompile hdescriptors
      have hsize : shown.texts.size = (query.matched search).toList.length := by
        rw [← Array.length_toList, htexts, flatMap_textsOf_matched hexpansion, List.length_map]
      have hanswer : { query with layout := counting }.answer search
          (query.matched search).toList = ⟨.count shown.texts.size, []⟩ := by
        rw [answer, if_pos hcounts, hsize]
      rw [← hanswer]
      exact Query.yields_run hcounting lexicon origin sentences

/-- The search for every word, with coreference. -/
def everyWordSource : Query :=
  { search := [("w", .text wildcard)], shown := ["w", "gf"], options := { coreference := true } }

/-- What the search for every word compiles to. -/
def everyWord : CompiledQuery where
  criteria := [⟨"w", .self, .word, none, true, .any⟩]
  exclusions := []
  layout := ⟨false, [.word, ⟨none, none, [.governor], .function⟩]⟩
  options := { coreference := true }
  filter := .none

/-- Two sentences have one identifier, and only the former has a token 4.  In the latter a
number is repeated, and a row numbered 0 is a mention of the same chain as *It*. -/
def shadowedSentences : List Sentence := [
  .ofRows 5 [.parsed 1 "A" "a" "DT" 4 "det", .parsed 4 "shadow" "shadow" "NN" 0 "root"] ∅,
  .ofRows 5 [
    { Token.parsed 2 "he" "he" "PRP" 1 "nsubj" with coreference := some "c1" },
    .parsed 1 "sat" "sit" "VBD" 0 "root", .parsed 2 "him" "he" "PRP" 1 "obj",
    { Token.parsed 0 "nobody" "nobody" "NN" 0 "dep" with coreference := some "c1" }] ∅,
  .ofRows 6 [{ Token.parsed 3 "It" "it" "PRP" 9 "nsubj" with coreference := some "c1*" }] ∅]

/-- The wildcard accepts token 4 where there is none, which is not found.  Of the four matches the
root renders as placeholders only; it is counted and not among the results. -/
theorem matches_shown_sample :
    let corpus := Corpus.ofSentences "shadows" shadowedSentences
    let search := everyWord.search .penn corpus
    everyWordSource.compile = .ok everyWord ∧ everyWord.layout.expansion = none ∧
      everyWord.layout.count = false ∧
      (∃ criterion ∈ everyWord.criteria, (search.holds criterion ⟨5, 4⟩).value = true) ∧
      search.navigator.visible.shows ⟨5, 4⟩ = false ∧
      ∃ found shown lines, (everyWord.findMatches search).Yields found ∧
        found.toList = [⟨5, 1⟩, ⟨5, 2⟩, ⟨6, 3⟩, ⟨5, 0⟩] ∧
        (everyWord.showMatches (everyWord.renderer search) none
          ⟨#[], #[], everyWord.concordance? search⟩ found.toList).Yields shown ∧
        shown.texts.toList = ["sat/root", "him/root", "It/none", "none/none"] ∧
        (everyWordSource.run .penn corpus).Yields
          ⟨.texts ["sat/root", "him/root", "It/none"], lines⟩ ∧
        ({ everyWordSource with shown := ["w", "c", "gf"] }.run .penn corpus).Yields
          ⟨.count 4, []⟩ := by
  intro corpus search
  have hcompile : everyWordSource.compile = .ok everyWord := rfl
  obtain ⟨found, hfound, -, hshows⟩ := matches_shown hcompile .penn "shadows" shadowedSentences
  obtain ⟨shown, hshown, hrun, htexts, hcounts⟩ := hshows rfl rfl
  obtain rfl := hfound.unique looks_findMatches.yields
  have hrendered : (everyWord.matched search).toList.map (everyWord.rendered search) =
      ["sat/root", "him/root", "It/none", "none/none"] := by
    decide +kernel
  have htexts := htexts.trans hrendered
  have hsize : shown.texts.size = 4 := by
    rw [← Array.length_toList, htexts]
    rfl
  have hkept : (["sat/root", "him/root", "It/none", "none/none"].filter everyWord.showsText) =
      ["sat/root", "him/root", "It/none"] := by
    decide +kernel
  have hcount := hcounts ["w"] ["gf"] rfl
  rw [htexts, if_neg (by decide), hkept] at hrun
  rw [hsize] at hcount
  exact ⟨hcompile, rfl, rfl, by decide +kernel, by decide +kernel, _, shown, _, hfound,
    by decide +kernel, hshown, htexts, hrun, hcount⟩

end CompiledQuery

end Concordancer
