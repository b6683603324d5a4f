import Concordancer.Proofs.Agreement.Answers
import Concordancer.Proofs.Agreement.Searches
import Concordancer.Proofs.Compiling
import Concordancer.Proofs.Corpus.Deletion
import Concordancer.Proofs.Presentation.Outputs

/-!
# Hiding is deleting

A query may hide words.  Their tokens stay in the corpus, in its tables and in its
chains; but to the query they might as well be deleted.

Two things tell them apart, and are excluded.  The distance from the root counts hidden
governors.  And an adjacency leads from a mention of a chain to its neighbour, which may
be shown although the mention is hidden, while a deleted mention has no neighbours.
Beyond results, the speaker of a line may come from a hidden token.

## Strategy

The navigators over the two treebanks agree on the tokens that are shown
(`agrees_withoutHidden`), since nothing leads from these to hidden ones.  The scan of
both visits the same tokens, and the mentions from which a role can start are the same
(`anchors_unfiltered`), so that the same is found in the same order
(`matched_unfiltered`) and shown alike.
-/

namespace Concordancer

namespace Treebank

variable (filter : WordFilter) (lexicon : Lexicon) {treebank : Treebank}

private theorem WellNumbered.resolve_withoutHidden (hnumbered : treebank.WellNumbered)
    (distanceLimit : Nat) {ref : TokenRef}
    (href : (treebank.visible filter lexicon).shows ref = true) (role : Role) :
    Navigator.resolve ⟨treebank.visible filter lexicon, lexicon, distanceLimit⟩ ref role =
      Navigator.resolve ⟨(treebank.withoutHidden filter lexicon).visible .none lexicon, lexicon,
        distanceLimit⟩ ref role := by
  obtain ⟨parse, hparse, hid, hshows⟩ := hnumbered.exists_parse filter lexicon href
  have hparsed := hnumbered.parses parse hparse
  have hroles := Parse.filter_inRole filter lexicon hparsed role hshows
  have hfirst := (hnumbered.sentence?_of_mem filter lexicon hparse).2
  have hsecond := (hnumbered.sentence?_withoutHidden_of_mem filter lexicon hparse).2
  rw [hid] at hfirst hsecond
  rw [Navigator.resolve_eq_inRole hfirst, Navigator.resolve_eq_inRole hsecond,
    ← (Parse.looksLike_withoutHidden filter lexicon hparsed).shows_eq]
  exact congrArg (List.map _) hroles

private theorem WellNumbered.shift_withoutHidden (hnumbered : treebank.WellNumbered)
    (distanceLimit : Nat) {ref : TokenRef}
    (href : (treebank.visible filter lexicon).shows ref = true) (offset : Int) :
    Navigator.shift ⟨treebank.visible filter lexicon, lexicon, distanceLimit⟩ ref offset =
      Navigator.shift ⟨(treebank.withoutHidden filter lexicon).visible .none lexicon, lexicon,
        distanceLimit⟩ ref offset := by
  obtain ⟨parse, hparse, hid, hshows⟩ := hnumbered.exists_parse filter lexicon href
  have halike := Parse.looksLike_withoutHidden filter lexicon (hnumbered.parses parse hparse)
  have hfirst := (hnumbered.sentence?_of_mem filter lexicon hparse).2
  have hsecond := (hnumbered.sentence?_withoutHidden_of_mem filter lexicon hparse).2
  rw [hid] at hfirst hsecond
  refine Option.ext fun target => ?_
  rw [Navigator.shift_eq_some_iff, Navigator.shift_eq_some_iff]
  constructor
  · rintro ⟨hroot, hsame, hindex, hpositive, visible, hfound, -, hshown⟩
    obtain rfl : visible = _ := Option.some.inj (hfound.symm.trans hfirst)
    rw [halike.shows_eq] at hshown
    exact ⟨hroot, hsame, hindex, hpositive, _, hsecond,
      Treebank.isSome_token? hsecond hpositive hshown, hshown⟩
  · rintro ⟨hroot, hsame, hindex, hpositive, visible, hfound, -, hshown⟩
    obtain rfl : visible = _ := Option.some.inj (hfound.symm.trans hsecond)
    rw [← halike.shows_eq] at hshown
    exact ⟨hroot, hsame, hindex, hpositive, _, hfirst,
      Treebank.isSome_token? hfirst hpositive hshown, hshown⟩

/-- A token that is shown has the same features, but for its distance from the root. -/
private theorem WellNumbered.read_withoutHidden (hnumbered : treebank.WellNumbered)
    (distanceLimit : Nat) {ref : TokenRef}
    (href : (treebank.visible filter lexicon).shows ref = true) {feature : Feature}
    (hfeature : feature ≠ .distance) :
    Navigator.read ⟨treebank.visible filter lexicon, lexicon, distanceLimit⟩ ref feature =
      Navigator.read ⟨(treebank.withoutHidden filter lexicon).visible .none lexicon, lexicon,
        distanceLimit⟩ ref feature := by
  obtain ⟨parse, hparse, hid, hshows⟩ := hnumbered.exists_parse filter lexicon href
  have htoken := Parse.token?_withoutHidden filter lexicon (hnumbered.parses parse hparse) hshows
  have hfirst : (treebank.visible filter lexicon).corpus.sentence? ref.sentence =
      some parse.sentence := hid ▸ (hnumbered.sentence?_of_mem filter lexicon hparse).1
  have hsecond : ((treebank.withoutHidden filter lexicon).visible .none lexicon).corpus.sentence?
      ref.sentence = some (parse.withoutHidden filter lexicon).sentence :=
    hid ▸ (hnumbered.sentence?_withoutHidden_of_mem filter lexicon hparse).1
  unfold Navigator.read
  simp only [hfirst, hsecond, ← htoken]
  cases parse.sentence.token? ref.index with
  | none => rfl
  | some token =>
      cases feature with
      | distance => contradiction
      | _ => rfl

/-- From the tokens that are shown, hiding and deleting lead to the same tokens. -/
theorem WellNumbered.agrees_withoutHidden (hnumbered : treebank.WellNumbered)
    (distanceLimit : Nat) :
    Navigator.Agrees (fun ref => (treebank.visible filter lexicon).shows ref = true)
      (fun feature => feature ≠ .distance) ⟨treebank.visible filter lexicon, lexicon, distanceLimit⟩
      ⟨(treebank.withoutHidden filter lexicon).visible .none lexicon, lexicon, distanceLimit⟩ where
  lexicon_eq := rfl
  sentence?_rel := by
    intro ref href
    obtain ⟨parse, hparse, hid, -⟩ := hnumbered.exists_parse filter lexicon href
    rw [← hid, (hnumbered.sentence?_of_mem filter lexicon hparse).2,
      (hnumbered.sentence?_withoutHidden_of_mem filter lexicon hparse).2]
    exact .some (Parse.looksLike_withoutHidden filter lexicon (hnumbered.parses parse hparse))
  resolve_eq := fun href role =>
    hnumbered.resolve_withoutHidden filter lexicon distanceLimit href role
  shift_eq := fun href offset =>
    hnumbered.shift_withoutHidden filter lexicon distanceLimit href offset
  read_eq := fun href _ hfeature =>
    congrArg Told.value
      (hnumbered.read_withoutHidden filter lexicon distanceLimit href hfeature)
  domain_refs := by
    intro ref visible _ hfound other hother
    obtain ⟨hsame, hindex⟩ := VisibleSentence.mem_refs.mp hother
    obtain ⟨parse, hparse, hid, rfl⟩ := (sentence?_visible filter lexicon hnumbered).mp hfound
    refine Navigator.shows_iff.mpr ⟨_, ?_, (Parse.shows_visible_iff_mem filter lexicon).mpr
      (.inr hindex)⟩
    rw [hsame]
    exact (hnumbered.sentence?_of_mem filter lexicon hparse).2
  domain_resolve := fun _ _ hmem => Navigator.shows_of_mem_resolve hmem
  domain_shift := by
    intro ref target _ offset hshift
    obtain ⟨-, hsame, -, -, visible, hfound, -, hshows⟩ := Navigator.shift_eq_some_iff.mp hshift
    exact Navigator.shows_iff.mpr ⟨visible, hsame ▸ hfound, hshows⟩

end Treebank

/-! ## Queries that hide nothing -/

namespace Options

/-- Both filters off. -/
def unfiltered (options : Options) : Options :=
  { options with stripPunctuation := false, stripClosedClass := false }

end Options

/-- The query with both filters off. -/
def Query.unfiltered (query : Query) : Query := { query with options := query.options.unfiltered }

namespace CompiledQuery

/-- The compiled query with both filters off. -/
def unfiltered (query : CompiledQuery) : CompiledQuery :=
  { query with options := query.options.unfiltered, filter := .none }

/-- Without filters, a query compiles to the same without filters. -/
theorem compile_unfiltered {dialect : Regex.Dialect} {source : Query} {query : CompiledQuery}
    (hcompile : source.compile dialect = .ok query) :
    source.unfiltered.compile dialect = .ok query.unfiltered := by
  obtain ⟨hcriteria, hexclusions, hlayout, -, hoptions⟩ := Query.compile_eq_ok_iff.mp hcompile
  -- Criteria depend on neither of the two options.
  have hcompileAll : ∀ mapping, Criterion.compileAll source.options.unfiltered mapping dialect =
      Criterion.compileAll source.options mapping dialect := fun _ => rfl
  refine Query.compile_eq_ok_iff.mpr ⟨?_, ?_, hlayout, rfl, ?_⟩
  · exact (hcompileAll _).trans hcriteria
  · exact (hcompileAll _).trans hexclusions
  · exact congrArg Options.unfiltered hoptions

/-- No criterion and no column asks for the distance from the root. -/
def AsksNoDistance (query : CompiledQuery) : Prop :=
  (∀ criterion ∈ query.criteria ++ query.exclusions, criterion.feature ≠ .distance) ∧
    ∀ column ∈ query.layout.columns, column.feature ≠ .distance

/-- With coreference, no criterion has an adjacency. -/
def ExpandsInPlace (query : CompiledQuery) : Prop :=
  query.options.coreference = true →
    ∀ criterion ∈ query.criteria ++ query.exclusions, criterion.adjacency = none

variable {query : CompiledQuery} {lexicon : Lexicon} {treebank : Treebank}

section

variable (hnumbered : treebank.WellNumbered)

include hnumbered

private theorem agrees_unfiltered (query : CompiledQuery) (lexicon : Lexicon) :
    (query.search lexicon treebank.corpus).navigator.Agrees
      (fun ref => (treebank.visible query.filter lexicon).shows ref = true)
      (fun feature => feature ≠ .distance)
      (query.unfiltered.search lexicon
        (treebank.withoutHidden query.filter lexicon).corpus).navigator :=
  hnumbered.agrees_withoutHidden query.filter lexicon query.options.maxDistance

/-! ## Searching -/

private theorem mentions_unfiltered {criterion : Criterion}
    (hcoreference : query.options.coreference = true)
    (hexpands : criterion.expandsCoreference = true)
    {ref : TokenRef} (href : (treebank.visible query.filter lexicon).shows ref = true) :
    (query.unfiltered.search lexicon
        (treebank.withoutHidden query.filter lexicon).corpus).mentions criterion ref =
      ((query.search lexicon treebank.corpus).mentions criterion ref).filter
        (treebank.visible query.filter lexicon).shows := by
  have hfirst : (query.search lexicon treebank.corpus).coreference =
      some (.ofCorpus treebank.corpus) := by
    simp [search, hcoreference]
  have hsecond : (query.unfiltered.search lexicon
      (treebank.withoutHidden query.filter lexicon).corpus).coreference =
        some (.ofCorpus (treebank.withoutHidden query.filter lexicon).corpus) := by
    simp [search, unfiltered, Options.unfiltered, hcoreference]
  rw [Search.mentions_of_expandsCoreference hfirst hexpands,
    Search.mentions_of_expandsCoreference hsecond hexpands]
  exact hnumbered.mates_withoutHidden query.filter lexicon href

private theorem anchors_unfiltered {criterion : Criterion}
    (hplace : query.options.coreference = true → criterion.adjacency = none) (ref : TokenRef)
    (href : (treebank.visible query.filter lexicon).shows ref = true) :
    (query.search lexicon treebank.corpus).anchors criterion ref =
        (query.unfiltered.search lexicon
          (treebank.withoutHidden query.filter lexicon).corpus).anchors criterion ref ∧
      ∀ anchor ∈ (query.search lexicon treebank.corpus).anchors criterion ref,
        (treebank.visible query.filter lexicon).shows anchor = true := by
  have hagrees := agrees_unfiltered hnumbered query lexicon
  cases hcoreference : query.options.coreference with
  | false =>
      refine Search.anchors_eq_of_mentions_eq_singleton hagrees ?_ ?_ href
      · exact Search.mentions_of_coreference_eq_none (by simp [search, hcoreference]) ref
      · exact Search.mentions_of_coreference_eq_none
          (by simp [search, unfiltered, Options.unfiltered, hcoreference]) ref
  | true =>
      cases hexpands : criterion.expandsCoreference with
      | false =>
          exact Search.anchors_eq_of_mentions_eq_singleton hagrees
            (Search.mentions_of_not_expandsCoreference hexpands ref)
            (Search.mentions_of_not_expandsCoreference hexpands ref) href
      | true =>
          -- Without an adjacency, roles start at the mentions that are shown, whether the others
          -- are hidden or deleted.
          have hplace := hplace hcoreference
          rw [Search.anchors_of_adjacency_eq_none hplace,
            Search.anchors_of_adjacency_eq_none hplace,
            mentions_unfiltered hnumbered hcoreference hexpands href]
          constructor
          · refine (List.filter_eq_self.mpr fun mention hmention => ?_).symm
            have hshown := (List.mem_filter.mp hmention).2
            rw [← hagrees.shows_eq hshown]
            exact hshown
          · exact fun anchor hanchor => (List.mem_filter.mp hanchor).2

theorem found_unfiltered {criterion : Criterion} (hdistance : criterion.feature ≠ .distance)
    (hplace : query.options.coreference = true → criterion.adjacency = none) :
    (query.search lexicon treebank.corpus).found criterion =
      (query.unfiltered.search lexicon
        (treebank.withoutHidden query.filter lexicon).corpus).found criterion := by
  have hagrees := agrees_unfiltered hnumbered query lexicon
  have hfirst : (query.search lexicon treebank.corpus).navigator.visible.sentences.toList =
      treebank.parses.map (Parse.visible query.filter lexicon) :=
    Treebank.sentences_visible query.filter lexicon
  have hsecond : (query.unfiltered.search lexicon
      (treebank.withoutHidden query.filter lexicon).corpus).navigator.visible.sentences.toList =
        (treebank.parses.map (Parse.withoutHidden query.filter lexicon)).map
          (Parse.visible .none lexicon) :=
    Treebank.sentences_visible .none lexicon
  rw [List.map_map] at hsecond
  refine Search.found_eq hagrees hfirst hsecond ?_ ?_ hdistance
    (anchors_unfiltered hnumbered hplace)
  · intro parse hparse
    exact Parse.looksLike_withoutHidden query.filter lexicon (hnumbered.parses parse hparse)
  · intro parse hparse
    have hparsed := (hnumbered.sentence?_of_mem query.filter lexicon hparse).2
    have hroot : (treebank.visible query.filter lexicon).shows ⟨parse.id, rootIndex⟩ = true :=
      Navigator.shows_iff.mpr ⟨_, hparsed, rfl⟩
    exact hagrees.domain_refs hroot hparsed

/-- Hiding and deleting, a query finds the same tokens in the same order. -/
theorem matched_unfiltered (hdistance : query.AsksNoDistance) (hplace : query.ExpandsInPlace) :
    query.matched (query.search lexicon treebank.corpus) =
      query.unfiltered.matched (query.unfiltered.search lexicon
        (treebank.withoutHidden query.filter lexicon).corpus) := by
  have hfound : ∀ criterion ∈ query.criteria ++ query.exclusions,
      (query.search lexicon treebank.corpus).found criterion =
        (query.unfiltered.search lexicon
          (treebank.withoutHidden query.filter lexicon).corpus).found criterion :=
    fun criterion hmem => found_unfiltered hnumbered (hdistance.1 criterion hmem)
      fun hcoreference => hplace hcoreference criterion hmem
  unfold matched
  rw [List.map_congr_left fun criterion hmem => hfound criterion (List.mem_append_left _ hmem),
    List.map_congr_left fun criterion hmem => hfound criterion (List.mem_append_right _ hmem)]
  rfl

/-! ## Showing -/

/-- Matches are shown alike, but for the speaker. -/
private theorem shown_unfiltered (hdistance : query.AsksNoDistance) {ref : TokenRef}
    (hmem : ref ∈ query.matched (query.search lexicon treebank.corpus)) :
    query.textsOf (query.search lexicon treebank.corpus) ref =
        query.textsOf (query.unfiltered.search lexicon
          (treebank.withoutHidden query.filter lexicon).corpus) ref ∧
      (query.linesOf (query.search lexicon treebank.corpus) ref).map
          ConcordanceLine.withoutSpeaker =
        (query.linesOf (query.unfiltered.search lexicon
          (treebank.withoutHidden query.filter lexicon).corpus) ref).map
            ConcordanceLine.withoutSpeaker := by
  have hagrees := agrees_unfiltered hnumbered query lexicon
  obtain ⟨criterion, -, hfound⟩ := exists_mem_found hmem
  have href : (treebank.visible query.filter lexicon).shows ref = true :=
    Search.shows_of_mem_found hfound
  have hword : Feature.word ≠ .distance := by decide
  exact shown_eq_withoutSpeaker hagrees hdistance.2 href hword rfl

end

/-- **Hiding is deleting.**  If nothing asks for distances, and coreference is not combined with
adjacencies, then a query over a well-numbered treebank finds the same tokens, in the same
order, and puts out the same results and lines, apart from speakers, as the query without
its filters over the treebank without the rows that they hide. -/
theorem answers_withoutHidden (query : CompiledQuery) (lexicon : Lexicon)
    (hnumbered : treebank.WellNumbered) (hdistance : query.AsksNoDistance)
    (hplace : query.ExpandsInPlace) :
    (∀ (dialect : Regex.Dialect) (source : Query), source.compile dialect = .ok query →
      source.unfiltered.compile dialect = .ok query.unfiltered) ∧
    ∃ found hidden deleted,
      query.Answers lexicon treebank.corpus found hidden ∧
      query.unfiltered.Answers lexicon (treebank.withoutHidden query.filter lexicon).corpus found
        deleted ∧
      hidden.results = deleted.results ∧
      hidden.concordance.map ConcordanceLine.withoutSpeaker =
        deleted.concordance.map ConcordanceLine.withoutSpeaker := by
  have hfirst : query.Answers lexicon treebank.corpus _ _ :=
    answers_matched (VisibleCorpus.knowsIds_ofSentences _ _ _ _)
  have hsecond : query.unfiltered.Answers lexicon
      (treebank.withoutHidden query.filter lexicon).corpus _ _ :=
    answers_matched (VisibleCorpus.knowsIds_ofSentences _ _ _ _)
  rw [← matched_unfiltered hnumbered hdistance hplace] at hsecond
  refine ⟨fun _ _ => compile_unfiltered, _, _, _, hfirst, hsecond, ?_⟩
  exact answer_map_congr ConcordanceLine.withoutSpeaker fun ref href =>
    shown_unfiltered hnumbered hdistance href

/-- The sample query without words of the closed class and without words that have no letter. -/
def filteredSample : CompiledQuery :=
  { sample true with
    options := { (sample true).options with stripPunctuation := true, stripClosedClass := true }
    filter := ⟨some (.oneOf Char.isAlpha), true⟩ }

theorem answers_withoutHidden_sample :
    Treebank.sample.WellNumbered ∧ filteredSample.AsksNoDistance ∧
      filteredSample.ExpandsInPlace ∧
      (∀ (dialect : Regex.Dialect) (source : Query), source.compile dialect = .ok filteredSample →
        source.unfiltered.compile dialect = .ok filteredSample.unfiltered) ∧
      ∃ found hidden deleted,
        filteredSample.Answers .penn Treebank.sample.corpus found hidden ∧
        filteredSample.unfiltered.Answers .penn
          (Treebank.sample.withoutHidden filteredSample.filter .penn).corpus found deleted ∧
        hidden.results = deleted.results ∧
        hidden.concordance.map ConcordanceLine.withoutSpeaker =
          deleted.concordance.map ConcordanceLine.withoutSpeaker := by
  have hnumbered : Treebank.sample.WellNumbered := by decide
  have hdistance : filteredSample.AsksNoDistance := by
    constructor <;> decide
  have hplace : filteredSample.ExpandsInPlace := by
    intro _ criterion hcriterion
    obtain rfl := List.mem_singleton.mp hcriterion
    rfl
  exact ⟨hnumbered, hdistance, hplace,
    answers_withoutHidden filteredSample .penn hnumbered hdistance hplace⟩

-- The subject of the second sentence is hidden, and so are other mentions of the first.
example :
    let lexicon := Lexicon.empty.addClosedClass ["he", "it", "the"]
    (filteredSample.matched (filteredSample.search lexicon Treebank.sample.corpus)).toList =
      [⟨7, 3⟩] := by
  decide +kernel

end CompiledQuery

end Concordancer
