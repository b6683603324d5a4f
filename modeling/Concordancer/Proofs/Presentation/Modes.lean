import Concordancer.Proofs.Corpus.Treebank
import Concordancer.Proofs.Presentation.Outputs

/-!
# Results and concordance agree

A span is rendered once, and its text goes two ways: into the results, from which empty
texts and mere placeholders are taken out when all matches have been shown, and into the
concordance, which looks at each text as it comes and makes no line for such a one.  The
two decide alike.  The texts of the lines are therefore the results, in their order and
as often (`map_matched_linesOf`).

The concordance mode chooses between the two lists and changes neither.  Whether contexts
show words concerns only what stands around the text of a line.  So four runs that differ
in these options show parts of one whole (`answers_presented`).
-/

namespace Concordancer

namespace CompiledQuery

variable {query : CompiledQuery} {search : Search}

/-- The line of a span bears the text of the span, if this is shown at all. -/
theorem map_matched_linesOfSpan (henabled : query.options.concordance.isEnabled = true)
    (visible : VisibleSentence) (span : Span) :
    (query.linesOfSpan search visible span).map ConcordanceLine.matched =
      [query.textOf search span].filter query.showsText := by
  rw [linesOfSpan_eq henabled, List.filter_singleton]
  cases query.showsText (query.textOf search span) with
  | true => rfl
  | false => rfl

theorem map_matched_linesOf (henabled : query.options.concordance.isEnabled = true)
    (ref : TokenRef) :
    (query.linesOf search ref).map ConcordanceLine.matched =
      (query.textsOf search ref).filter query.showsText := by
  unfold linesOf textsOf
  cases search.navigator.visible.sentence? ref.sentence with
  | none => rfl
  | some visible =>
      show ((query.repetition.spans visible ref).flatMap
        (query.linesOfSpan search visible)).map ConcordanceLine.matched =
          ((query.repetition.spans visible ref).map (query.textOf search)).filter query.showsText
      rw [List.map_flatMap, List.map_eq_flatMap, List.filter_flatMap]
      exact List.flatMap_congr fun span _ => map_matched_linesOfSpan henabled visible span

/-! ## Modes -/

/-- The query with this mode of the concordance, and with words as contexts or without. -/
def presented (query : CompiledQuery) (mode : ConcordanceMode) (onlyFormatMatch : Bool) :
    CompiledQuery :=
  { query with options := { query.options with concordance := mode, onlyFormatMatch } }

/-- **Results and concordance agree.**  Let runs of a query that shows more than a count differ in
the mode of the concordance and in whether contexts show words.  There are one list of texts
and, for either kind of contexts, one list of lines whose texts are these, in their order and
as often.  Without a concordance a run puts out the texts, with one the texts and the lines,
and with nothing but a concordance the lines. -/
theorem answers_presented (query : CompiledQuery) (lexicon : Lexicon) (source : String)
    (sentences : List Sentence) (hcount : query.layout.count = false) :
    ∃ found texts, ∃ lines : Bool → List ConcordanceLine, ∀ plain : Bool,
      (lines plain).map ConcordanceLine.matched = texts ∧
      (query.presented .off plain).Answers lexicon (.ofSentences source sentences) found
        ⟨.texts texts, []⟩ ∧
      (query.presented .on plain).Answers lexicon (.ofSentences source sentences) found
        ⟨.texts texts, lines plain⟩ ∧
      (query.presented .only plain).Answers lexicon (.ofSentences source sentences) found
        ⟨.texts [], lines plain⟩ := by
  let search := query.search lexicon (.ofSentences source sentences)
  let found := query.matched search
  let texts := (found.toList.flatMap (query.textsOf search)).filter query.showsText
  let lines := fun plain => found.toList.flatMap ((query.presented .on plain).linesOf search)
  -- Neither option has a say in what is found and how a span is rendered.
  have hanswers : ∀ mode plain, (query.presented mode plain).Answers lexicon
      (.ofSentences source sentences) found
        ((query.presented mode plain).answer search found.toList) :=
    fun mode plain => answers_matched
      (VisibleCorpus.knowsIds_ofSentences query.filter lexicon source sentences)
  have hanswer : ∀ mode plain, (query.presented mode plain).answer search found.toList =
      ⟨.texts (if mode = .only then [] else texts),
        found.toList.flatMap ((query.presented mode plain).linesOf search)⟩ := by
    intro mode plain
    rw [answer, if_neg (by simpa [presented] using hcount)]
    rfl
  refine ⟨found, texts, lines, fun plain => ⟨?_, ?_, ?_, ?_⟩⟩
  · -- Match by match, the lines have the texts that are shown.
    have hmatched : ∀ ref, ((query.presented .on plain).linesOf search ref).map
        ConcordanceLine.matched = (query.textsOf search ref).filter query.showsText :=
      fun ref => map_matched_linesOf rfl ref
    show (found.toList.flatMap ((query.presented .on plain).linesOf search)).map _ =
      (found.toList.flatMap (query.textsOf search)).filter query.showsText
    rw [List.map_flatMap, List.filter_flatMap]
    exact List.flatMap_congr fun ref _ => hmatched ref
  · -- Without a concordance no span gets a line.
    have hnolines : found.toList.flatMap ((query.presented .off plain).linesOf search) = [] :=
      List.flatMap_eq_nil_iff.mpr fun ref _ => linesOf_eq_nil rfl ref
    have hoff := hanswers .off plain
    rw [hanswer, hnolines] at hoff
    exact hoff
  · have hon := hanswers .on plain
    rw [hanswer] at hon
    exact hon
  · have honly := hanswers .only plain
    rw [hanswer] at honly
    exact honly

theorem answers_presented_sample :
    (sample false).layout.count = false ∧
      ∃ found texts, ∃ lines : Bool → List ConcordanceLine, ∀ plain : Bool,
        (lines plain).map ConcordanceLine.matched = texts ∧
        ((sample false).presented .off plain).Answers .penn Treebank.sample.corpus found
          ⟨.texts texts, []⟩ ∧
        ((sample false).presented .on plain).Answers .penn Treebank.sample.corpus found
          ⟨.texts texts, lines plain⟩ ∧
        ((sample false).presented .only plain).Answers .penn Treebank.sample.corpus found
          ⟨.texts [], lines plain⟩ :=
  ⟨rfl, answers_presented (sample false) .penn "fable" (Treebank.sample.parses.map Parse.sentence)
    rfl⟩

end CompiledQuery

end Concordancer
