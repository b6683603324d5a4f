import Concordancer.Proofs.Descriptors.Spelling
import Concordancer.Proofs.Presentation.Modes
import Concordancer.Proofs.Presentation.Surroundings
import Concordancer.Proofs.Refusals
import Concordancer.Proofs.Search.InPlace
import Concordancer.Proofs.Text.Pieces

/-!
# What is searched is what is shown

The descriptor `m` with the letter of a feature means the same wherever it stands.  Searched
for, it compares the values that tokens have for the feature; shown, it renders them.
`Query.echoing` does both: it searches for listed values and shows what it has found.
What it puts out is read off the corpus (`run_echoing`): the values of the visible tokens in
corpus order, as far as they are listed, with slashes written out.

Base forms are left out, since they are searched as they stand and shown as they are listed
in the lexicon.

## Strategy

Both ways of reading the descriptor are followed through to what they compile to
(`compile_echoing`).  Such a criterion finds the visible tokens for which it holds, in corpus
order (`toList_found_in_place`), and such a column renders a token as its value
(`rendered_echo`).  So searching keeps the tokens with a listed value and showing maps them
to their values; done at once, this is a `filterMap` over the visible tokens
(`texts_echo`).
-/

namespace Concordancer

/-! ## One descriptor, read twice -/

/-- The descriptor of a feature of the match itself. -/
def matchDescriptor (letter : Char) : String := String.ofList ['m', letter]

section

variable {letter : Char} {feature : Feature} (hletter : Feature.ofLetter? letter = some feature)

include hletter

private theorem readFrom_match (nothing : DescriptorFault) :
    Descriptor.readFrom nothing none ['m', letter] = .ok ⟨none, none, ['m', letter]⟩ := by
  have halpha : letter.isAlpha = true :=
    (FeatureSpelling.of_ofLetter? hletter).isAlpha letter (List.mem_singleton.mpr rfl)
  have hletters : ∀ other ∈ ['m', letter], other.isAlpha = true :=
    List.forall_mem_cons.mpr ⟨rfl, List.forall_mem_singleton.mpr halpha⟩
  exact Descriptor.readFrom_eq_ok_iff.mpr ⟨rfl, hletters, [], rfl, .none⟩

/-- Searched for, it asks for the feature of the match itself. -/
theorem readDescriptor_matchDescriptor :
    Criterion.readDescriptor (matchDescriptor letter) =
      .ok (⟨none, none, ['m', letter]⟩, .self, feature) := by
  have hparts : Descriptor.ofSearchText (matchDescriptor letter) =
      .ok ⟨none, none, ['m', letter]⟩ := by
    rw [Descriptor.ofSearchText, matchDescriptor, String.toList_ofList]
    exact readFrom_match hletter _
  have hletters : Criterion.readLetters ['m', letter] = .ok (.self, feature) := by
    rw [Criterion.readLetters, hletter]
    rfl
  exact bind_eq_ok_iff.mpr ⟨_, hparts, bind_eq_ok_iff.mpr ⟨_, hletters, rfl⟩⟩

theorem compile_matchDescriptor :
    Layout.compile [matchDescriptor letter] = .ok ⟨false, [⟨none, none, [], feature⟩]⟩ := by
  have hne : matchDescriptor letter ≠ "c" := by
    intro hsame
    have hchars := congrArg String.toList hsame
    rw [matchDescriptor, String.toList_ofList] at hchars
    cases hchars
  have htext : ShowDescriptor.ofText (matchDescriptor letter) =
      .ok (.column ⟨none, none, ['m', letter]⟩) := by
    rw [ShowDescriptor.ofText, if_neg hne, matchDescriptor, String.toList_ofList]
    show ShowDescriptor.column <$> Descriptor.readFrom _ none ['m', letter] = _
    rw [readFrom_match hletter]
    rfl
  have hletters : Column.readLetters ['m', letter] = .ok ([], feature) := by
    have hlast : ['m', letter].getLast?.bind Feature.ofLetter? = some feature := hletter
    rw [Column.readLetters, hlast]
    rfl
  have hcolumn : Column.ofDescriptor ⟨none, none, ['m', letter]⟩ =
      .ok ⟨none, none, [], feature⟩ :=
    bind_eq_ok_iff.mpr ⟨_, hletters, rfl⟩
  have hadd : ShowDescriptor.ofText (matchDescriptor letter) >>= Layout.add ⟨false, []⟩ =
      .ok ⟨false, [⟨none, none, [], feature⟩]⟩ :=
    bind_eq_ok_iff.mpr ⟨_, htext, bind_eq_ok_iff.mpr ⟨_, hcolumn, rfl⟩⟩
  exact bind_eq_ok_iff.mpr
    ⟨_, bind_eq_ok_iff.mpr ⟨_, mapError_eq_ok_iff.mpr hadd, rfl⟩, rfl⟩

end

/-! ## The query -/

/-- Searches for the listed values of a feature, and shows the feature. -/
def Query.echoing (letter : Char) (items : List Literal) (options : Options) : Query where
  search := [(matchDescriptor letter, .list items)]
  shown := [matchDescriptor letter]
  options

/-- The criterion of this query, where case counts. -/
def Criterion.echo (letter : Char) (feature : Feature) (items : List Literal) : Criterion where
  descriptor := matchDescriptor letter
  role := .self
  feature
  adjacency := none
  expandsCoreference := false
  matcher := .literals (Matcher.literalValues true items) true

/-- What this query compiles to. -/
def CompiledQuery.echo (letter : Char) (feature : Feature) (items : List Literal)
    (options : Options) (filter : WordFilter) : CompiledQuery where
  criteria := [.echo letter feature items]
  exclusions := []
  layout := ⟨false, [⟨none, none, [], feature⟩]⟩
  options
  filter

theorem compile_echoing {letter : Char} {feature : Feature}
    (hletter : Feature.ofLetter? letter = some feature) (items : List Literal) {options : Options}
    (hcase : options.caseSensitive = true) (hcoreference : options.coreference = false)
    {dialect : Regex.Dialect} {filter : WordFilter}
    (hfilter : options.wordFilter dialect = .ok filter) :
    (Query.echoing letter items options).compile dialect =
      .ok (.echo letter feature items options filter) := by
  have hcriterion : Criterion.compile options (matchDescriptor letter) (.list items) dialect =
      .ok (.echo letter feature items) := by
    refine Criterion.compile_eq_ok_iff.mpr
      ⟨_, _, _, _, readDescriptor_matchDescriptor hletter, rfl, ?_⟩
    rw [hcase, hcoreference]
    rfl
  refine Query.compile_eq_ok_iff.mpr ⟨?_, rfl, compile_matchDescriptor hletter, hfilter, rfl⟩
  exact mapM_eq_ok_iff.mpr (.cons hcriterion .nil)

/-! ## What it finds and shows -/

/-- Is this one of the literals, as they are written? -/
def IsListed (items : List Literal) (value : String) : Prop := value ∈ items.map Literal.written

instance (items : List Literal) : DecidablePred (IsListed items) := fun value =>
  inferInstanceAs (Decidable (value ∈ items.map Literal.written))

/-- The values that the visible tokens have for a feature, in corpus order, as far as they are
listed. -/
def Navigator.listedValues (navigator : Navigator) (feature : Feature) (items : List Literal) :
    List String :=
  navigator.visible.refs.filterMap fun ref =>
    (navigator.read ref feature).value.filter (IsListed items ·)

/-- The text is not empty, and some piece of it between blanks is not *none*. -/
def IsTelling (text : String) : Prop :=
  text ≠ "" ∧ ∃ piece ∈ text.toList.splitOn ' ', piece ≠ "none".toList

instance : DecidablePred IsTelling := fun text =>
  inferInstanceAs (Decidable (text ≠ "" ∧ ∃ piece ∈ text.toList.splitOn ' ', piece ≠ "none".toList))

namespace CompiledQuery

variable {letter : Char} {feature : Feature} {items : List Literal} {options : Options}
  {filter : WordFilter} {search : Search}

theorem contains_literalValues (items : List Literal) (value : String) :
    (Matcher.literalValues true items).contains value = decide (IsListed items value) := by
  rw [Bool.eq_iff_iff, List.contains_iff_mem, Matcher.literalValues, List.mem_eraseDups,
    decide_eq_true_iff]
  rfl

/-- The criterion holds for the tokens whose value is listed. -/
theorem value_holds_echo (ref : TokenRef) :
    (search.holds (.echo letter feature items) ref).value =
      ((search.navigator.read ref feature).value.filter (IsListed items ·)).isSome := by
  have hasked : (Criterion.echo letter feature items).feature = feature := rfl
  rw [Search.holds, Told.value_bind, hasked]
  cases (search.navigator.read ref feature).value with
  | none => rfl
  | some value =>
      show (Matcher.literalValues true items).contains value = _
      rw [contains_literalValues, Option.filter_some]
      split
      · next hlisted => exact hlisted
      · next hlisted => exact Bool.not_eq_true _ ▸ hlisted

theorem rendered_echo (hfeature : feature ≠ .baseForm) {ref : TokenRef}
    (href : ref.isRoot = false) :
    (CompiledQuery.echo letter feature items options filter).rendered search ref =
      ((search.navigator.read ref feature).value.map Renderer.clean).getD "" := by
  have hvalue : ∀ columns, ((Renderer.mk search.navigator columns).value feature ref).value =
      (search.navigator.read ref feature).value.map Renderer.clean := by
    intro columns
    unfold Renderer.value
    rw [href]
    cases feature with
    | baseForm => contradiction
    | _ => rfl
  simp only [rendered, renderer, echo, Renderer.token, Renderer.column, Navigator.shiftBy,
    Renderer.reach, Told.value_bind, Told.value_traverse, Told.value_pure, List.map_cons,
    List.map_nil, hvalue]
  cases (search.navigator.read ref feature).value with
  | none => rfl
  | some value =>
      show "/".intercalate ["/".intercalate [Renderer.clean value]] = Renderer.clean value
      rw [String.intercalate_singleton, String.intercalate_singleton]

/-- Without exclusions, one criterion matches what it finds. -/
theorem matched_echo :
    (CompiledQuery.echo letter feature items options filter).matched search =
      search.found (.echo letter feature items) := by
  rw [matched, echo, List.map_nil, combine_nil, difference_empty, List.map_singleton,
    Search.combine_singleton]

/-- Searching keeps the tokens with a listed value, and showing maps them to their values. -/
private theorem flatMap_textsOf_filter (hfeature : feature ≠ .baseForm) {refs : List TokenRef}
    (hrefs : ∀ ref ∈ refs, search.navigator.visible.shows ref = true ∧ ref.isRoot = false) :
    (refs.filter fun ref => (search.holds (.echo letter feature items) ref).value).flatMap
        ((CompiledQuery.echo letter feature items options filter).textsOf search) =
      (refs.filterMap fun ref => (search.navigator.read ref feature).value.filter
        (IsListed items ·)).map Renderer.clean := by
  induction refs with
  | nil => rfl
  | cons ref rest ih =>
      obtain ⟨⟨hshows, hroot⟩, hrest⟩ := List.forall_mem_cons.mp hrefs
      have htexts : (CompiledQuery.echo letter feature items options filter).textsOf search ref =
          [((search.navigator.read ref feature).value.map Renderer.clean).getD ""] := by
        rw [textsOf_eq_singleton rfl hshows, rendered_echo hfeature hroot]
      rw [List.filter_cons, value_holds_echo, List.filterMap_cons]
      cases hread : (search.navigator.read ref feature).value with
      | none => exact ih hrest
      | some value =>
          rw [hread] at htexts
          rw [Option.filter_some]
          cases decide (IsListed items value) with
          | false => exact ih hrest
          | true =>
              show List.flatMap _ (ref :: _) = _
              rw [List.flatMap_cons, htexts, ih hrest]
              rfl

theorem texts_echo {treebank : Treebank} {lexicon : Lexicon} (hnumbered : treebank.WellNumbered)
    (hvisible : search.navigator.visible = treebank.visible filter lexicon)
    (hfeature : feature ≠ .baseForm) :
    ((CompiledQuery.echo letter feature items options filter).matched search).toList.flatMap
        ((CompiledQuery.echo letter feature items options filter).textsOf search) =
      (search.navigator.listedValues feature items).map Renderer.clean := by
  rw [matched_echo, Search.toList_found_in_place rfl rfl rfl hnumbered hvisible,
    Navigator.listedValues, ← hvisible]
  refine flatMap_textsOf_filter hfeature fun ref href => ?_
  rw [hvisible] at href ⊢
  exact hnumbered.mem_refs_iff.mp href

/-- A rendered value is shown if it is telling. -/
theorem showsText_clean (value : String) :
    (CompiledQuery.echo letter feature items options filter).showsText (Renderer.clean value) =
      decide (IsTelling (Renderer.clean value)) := by
  have hseparator : (CompiledQuery.echo letter feature items options filter).separator = " " := rfl
  rw [showsText, hseparator, isAllPlaceholders_eq_all (Renderer.slash_not_mem_clean value),
    Bool.eq_iff_iff, decide_eq_true_iff, Bool.and_eq_true, Bool.not_eq_true', Bool.not_eq_true',
    ← Bool.not_eq_true, ← Bool.not_eq_true, String.isEmpty_iff, List.all_eq_true]
  refine and_congr_right fun _ => ?_
  simp only [beq_iff_eq, not_forall, exists_prop]
  rfl

end CompiledQuery

/-! ## What it puts out -/

/-- **What is searched is what is shown.**  Let a query search for listed values of a feature other
than the base form, with case and without coreference, and show this feature.  Over a
well-numbered treebank it puts out the values that the visible tokens have for the feature,
in corpus order and as far as they are listed, with slashes written out.  Only empty values and
those that are nothing but *none* between blanks are left out. -/
theorem Query.run_echoing {treebank : Treebank} (hnumbered : treebank.WellNumbered)
    (lexicon : Lexicon) {letter : Char} {feature : Feature}
    (hletter : Feature.ofLetter? letter = some feature) (hfeature : feature ≠ .baseForm)
    (items : List Literal) {options : Options} (hcase : options.caseSensitive = true)
    (hcoreference : options.coreference = false) {dialect : Regex.Dialect} {filter : WordFilter}
    (hfilter : options.wordFilter dialect = .ok filter) :
    let navigator : Navigator :=
      ⟨treebank.visible filter lexicon, lexicon, options.maxDistance⟩
    let texts := ((navigator.listedValues feature items).map
      (Text.replaceChar '/' "-slash-".toList)).filter (IsTelling ·)
    ∃ lines, ((Query.echoing letter items options).run lexicon treebank.corpus dialect).Yields
        ⟨.texts (if options.concordance = .only then [] else texts), lines⟩ ∧
      (options.concordance.isEnabled = true → lines.map ConcordanceLine.matched = texts) := by
  intro navigator texts
  let query := CompiledQuery.echo letter feature items options filter
  let search := query.search lexicon treebank.corpus
  have hrun : ((Query.echoing letter items options).run lexicon treebank.corpus dialect).Yields
      (query.answer search (query.matched search).toList) :=
    Query.yields_run (compile_echoing hletter items hcase hcoreference hfilter) lexicon
      treebank.source (treebank.parses.map Parse.sentence)
  -- Which texts are shown is decided for each value alone.
  have htexts : ((query.matched search).toList.flatMap (query.textsOf search)).filter
      query.showsText = texts := by
    rw [CompiledQuery.texts_echo hnumbered rfl hfeature]
    refine List.filter_congr fun text htext => ?_
    obtain ⟨value, -, rfl⟩ := List.mem_map.mp htext
    exact CompiledQuery.showsText_clean value
  refine ⟨(query.matched search).toList.flatMap (query.linesOf search), ?_, ?_⟩
  · rw [← htexts]
    exact hrun
  · intro henabled
    rw [← htexts, List.map_flatMap, List.filter_flatMap]
    exact List.flatMap_congr fun ref _ =>
      CompiledQuery.map_matched_linesOf henabled ref

/-- Functions that are searched for in the sample. -/
def sampleFunctions : List Literal := [.text "nsubj", .text "root"]

theorem Query.run_echoing_sample :
    let options : Options := { caseSensitive := true }
    let navigator : Navigator := ⟨Treebank.sample.visible .none .penn, .penn, options.maxDistance⟩
    let texts := ((navigator.listedValues .function sampleFunctions).map
      (Text.replaceChar '/' "-slash-".toList)).filter (IsTelling ·)
    Treebank.sample.WellNumbered ∧ Feature.ofLetter? 'f' = some .function ∧
      Feature.function ≠ .baseForm ∧ options.caseSensitive = true ∧
      options.coreference = false ∧ options.wordFilter = .ok .none ∧
      ∃ lines, ((Query.echoing 'f' sampleFunctions options).run .penn
          Treebank.sample.corpus).Yields
          ⟨.texts (if options.concordance = .only then [] else texts), lines⟩ ∧
        (options.concordance.isEnabled = true → lines.map ConcordanceLine.matched = texts) := by
  intro options navigator texts
  have hnumbered : Treebank.sample.WellNumbered := by decide
  have hfeature : Feature.function ≠ .baseForm := by decide
  have hfilter : options.wordFilter = .ok .none := rfl
  exact ⟨hnumbered, rfl, hfeature, rfl, rfl, hfilter,
    Query.run_echoing hnumbered .penn rfl hfeature sampleFunctions rfl rfl hfilter⟩

-- The comma at the end of a function is left out on both sides.
example :
    Navigator.listedValues ⟨Treebank.sample.visible .none .empty, .empty, 30⟩ .function
      sampleFunctions = ["nsubj", "root", "nsubj", "root"] := by
  decide +kernel

end Concordancer
