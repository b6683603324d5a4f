import Concordancer.Proofs.Compiling
import Concordancer.Proofs.MatcherEquality
import Concordancer.Proofs.Corpus.Treebank
import Concordancer.Proofs.Presentation.Answer
import Concordancer.Proofs.Search.Combination

/-!
# Ignoring case only adds matches

Literals are lower-cased when a pattern is compiled, and values when they are compared with them,
in two separate places and not at all for an integer that stands alone.  Together this compares
texts by their lower case.  `Pattern.acceptsUpTo` is that comparison for any function on texts in
place of lower-casing, `CompiledQuery.matchedUpTo` is what a query then matches, and
`matches_grow_without_case` is the statement on queries.  With regard to case, a query compares
texts by themselves.  Without, it compares them by their lower case.  And by whatever
function texts are compared, what is equal stays equal.

Expressions are left out: without regard to case, `[^a]` no longer matches `A`.  So are exclusions,
since what is excluded grows as well.
-/

namespace Concordancer

/-! ## Queries with and without regard to case -/

def Options.withCaseSensitive (options : Options) (caseSensitive : Bool) : Options :=
  { options with caseSensitive }

/-- The same query, but for whether case counts. -/
def Query.withCaseSensitive (query : Query) (caseSensitive : Bool) : Query :=
  { query with options := query.options.withCaseSensitive caseSensitive }

/-- What texts are compared by: themselves where case counts, or else their lower case. -/
def Text.comparison (caseSensitive : Bool) : String → String :=
  if caseSensitive then id else Text.lowercase

/-! ## Patterns of literals -/

namespace Pattern

/-- The pattern is an integer, a list of literals or the wildcard. -/
inductive IsLiteral : Pattern → Prop
  | integer (value : Int) : IsLiteral (.integer value)
  | list (items : List Literal) : IsLiteral (.list items)
  | any : IsLiteral (.text wildcard)

def isWildcard : Pattern → Bool
  | text value => value == wildcard
  | _ => false

/-- Is a text accepted if it is compared with literals by what `fold` makes of both?  An integer
that stands alone is compared as it is written. -/
def acceptsUpTo (fold : String → String) : Pattern → String → Bool
  | integer number, value => value == (Literal.integer number).written
  | list items, value => items.any fun item => fold item.written == fold value
  | pattern, _ => pattern.isWildcard

theorem acceptsUpTo_of_id {pattern : Pattern} {value : String} (fold : String → String)
    (haccepts : pattern.acceptsUpTo id value = true) : pattern.acceptsUpTo fold value = true := by
  cases pattern with
  | list items =>
      rw [acceptsUpTo, List.any_eq_true] at haccepts ⊢
      obtain ⟨item, hitem, hsame⟩ := haccepts
      have hsame : item.written = value := eq_of_beq hsame
      exact ⟨item, hitem, beq_iff_eq.mpr (congrArg fold hsame)⟩
  | _ => exact haccepts

end Pattern

/-- A matcher accepts what a pattern does if texts are compared by what `fold` makes of them. -/
structure Matcher.ComparesUpTo (matcher : Matcher) (fold : String → String) (pattern : Pattern) :
    Prop where
  accepts_eq : ∀ value, matcher.accepts value = pattern.acceptsUpTo fold value
  isWildcard_eq : matcher.isWildcard = pattern.isWildcard

/-- Literals compile to a matcher that compares texts by themselves or by their lower case. -/
theorem Matcher.ofPattern_of_isLiteral {pattern : Pattern} (hliteral : pattern.IsLiteral)
    (descriptor : String) (caseSensitive : Bool) (dialect : Regex.Dialect) :
    ∃ matcher, ofPattern descriptor pattern caseSensitive dialect = .ok matcher ∧
      matcher.ComparesUpTo (Text.comparison caseSensitive) pattern := by
  cases hliteral with
  | integer number =>
      refine ⟨literals [(Literal.integer number).written] true, rfl, fun value => ?_, rfl⟩
      rw [Bool.eq_iff_iff, accepts_literals_iff, if_pos rfl, List.mem_toFinset, List.mem_singleton,
        Pattern.acceptsUpTo, beq_iff_eq]
  | any => exact ⟨any, rfl, fun _ => rfl, rfl⟩
  | list items =>
      refine ⟨literals (literalValues caseSensitive items) caseSensitive, rfl, fun value => ?_, rfl⟩
      have hcomparison : ∀ text : String, (if caseSensitive then text else Text.lowercase text) =
          Text.comparison caseSensitive text := by
        intro text
        cases caseSensitive <;> rfl
      rw [Bool.eq_iff_iff, accepts_literals_iff, List.mem_toFinset, literalValues,
        List.mem_eraseDups, List.mem_map, Pattern.acceptsUpTo, List.any_eq_true]
      simp only [hcomparison, beq_iff_eq]

/-! ## What criteria find -/

namespace Search

variable (search : Search) (fold : String → String) (criterion : Criterion) (pattern : Pattern)

/-- Does a criterion hold for a token if texts are compared by what `fold` makes of them?  The
wildcard also accepts what is missing, but never a distance that does not exist. -/
def holdsUpTo (ref : TokenRef) : Bool :=
  match (search.navigator.read ref criterion.feature).value with
  | some text => pattern.acceptsUpTo fold text
  | none => pattern.isWildcard && criterion.feature != .distance

/-- What a criterion finds if texts are compared by what `fold` makes of them. -/
def foundUpTo : TokenSet :=
  .ofList <| search.navigator.visible.sentences.toList.flatMap fun visible =>
    ((search.tested criterion visible).filter (search.holdsUpTo fold criterion pattern)).flatMap
      (search.report criterion)

variable {search fold criterion pattern}

theorem found_eq_foundUpTo (hcompares : criterion.matcher.ComparesUpTo fold pattern) :
    search.found criterion = search.foundUpTo fold criterion pattern := by
  have hholds : (fun ref => (search.holds criterion ref).value) =
      search.holdsUpTo fold criterion pattern := by
    funext ref
    rw [holds, Told.value_bind, holdsUpTo]
    cases (search.navigator.read ref criterion.feature).value with
    | none => exact congrArg (· && _) hcompares.isWildcard_eq
    | some text => exact hcompares.accepts_eq text
  unfold found reportedIn
  rw [hholds, foundUpTo]

/-- By whatever texts are compared, a criterion finds what it finds if they are compared by
themselves. -/
theorem mem_foundUpTo_of_id (fold : String → String) {ref : TokenRef}
    (hmem : ref ∈ search.foundUpTo id criterion pattern) :
    ref ∈ search.foundUpTo fold criterion pattern := by
  simp only [foundUpTo, OrderedSet.mem_ofList, List.mem_flatMap, List.mem_filter] at hmem ⊢
  obtain ⟨visible, hvisible, tested, ⟨htested, hholds⟩, hreport⟩ := hmem
  refine ⟨visible, hvisible, tested, ⟨htested, ?_⟩, hreport⟩
  unfold holdsUpTo at hholds ⊢
  cases hread : (search.navigator.read tested criterion.feature).value with
  | none =>
      rw [hread] at hholds
      exact hholds
  | some text =>
      rw [hread] at hholds
      exact Pattern.acceptsUpTo_of_id fold hholds

end Search

/-! ## Criteria that compile -/

namespace Criterion

variable {options : Options} {dialect : Regex.Dialect}

/-- A descriptor with literals that compiles where case counts also does where it does not, and to
the same criterion but for how texts are compared. -/
theorem compile_withCaseSensitive {descriptor : String} {pattern : Pattern} {exact : Criterion}
    (hcompile : compile (options.withCaseSensitive true) descriptor pattern dialect = .ok exact)
    (hliteral : pattern.IsLiteral) (caseSensitive : Bool) :
    ∃ matcher, compile (options.withCaseSensitive caseSensitive) descriptor pattern dialect =
        .ok { exact with matcher } ∧
      matcher.ComparesUpTo (Text.comparison caseSensitive) pattern := by
  obtain ⟨parts, role, feature, matcher, hmeaning, -, rfl⟩ := compile_eq_ok_iff.mp hcompile
  obtain ⟨other, hother, hcompares⟩ :=
    Matcher.ofPattern_of_isLiteral hliteral descriptor caseSensitive dialect
  exact ⟨other, compile_eq_ok_iff.mpr ⟨parts, role, feature, other, hmeaning, hother, rfl⟩,
    hcompares⟩

/-- So do the criteria of a search mapping, and what they find is what is equal by this
comparison. -/
theorem compileAll_withCaseSensitive {mapping : SearchMapping} {exact : List Criterion}
    (hcompile : compileAll (options.withCaseSensitive true) mapping dialect = .ok exact)
    (hliteral : ∀ entry ∈ mapping.flatten, entry.2.IsLiteral) (caseSensitive : Bool) :
    ∃ criteria,
      compileAll (options.withCaseSensitive caseSensitive) mapping dialect = .ok criteria ∧
      ∀ search : Search, criteria.map search.found =
        (exact.zip (mapping.flatten.map Prod.snd)).map fun (criterion, pattern) =>
          search.foundUpTo (Text.comparison caseSensitive) criterion pattern := by
  simp only [compileAll, mapM_eq_ok_iff] at hcompile ⊢
  generalize mapping.flatten = entries at hcompile hliteral
  induction hcompile with
  | nil => exact ⟨[], .nil, fun _ => rfl⟩
  | @cons entry criterion entries criteria hfirst hrest ih =>
      obtain ⟨further, hfurther, hfound⟩ :=
        ih fun other hother => hliteral other (List.mem_cons_of_mem entry hother)
      obtain ⟨matcher, hsame, hcompares⟩ := compile_withCaseSensitive hfirst
        (hliteral entry List.mem_cons_self) caseSensitive
      refine ⟨_, .cons hsame hfurther, fun search => ?_⟩
      have hentry : search.found { criterion with matcher } =
          search.foundUpTo (Text.comparison caseSensitive) criterion entry.2 :=
        Search.found_eq_foundUpTo hcompares
      rw [List.map_cons, hfound, hentry, List.map_cons, List.zip_cons_cons, List.map_cons]

end Criterion

/-! ## What queries match -/

namespace CompiledQuery

/-- What criteria with these patterns match together if texts are compared by what `fold` makes of
them. -/
def matchedUpTo (query : CompiledQuery) (fold : String → String) (patterns : List Pattern)
    (search : Search) : TokenSet :=
  Search.combine query.options.searchMode <|
    (query.criteria.zip patterns).map fun (criterion, pattern) =>
      search.foundUpTo fold criterion pattern

theorem mem_matchedUpTo_of_id {query : CompiledQuery} (fold : String → String)
    {patterns : List Pattern} {search : Search} {ref : TokenRef}
    (hmem : ref ∈ query.matchedUpTo id patterns search) :
    ref ∈ query.matchedUpTo fold patterns search :=
  Search.mem_combine_mono _ (fun _ _ _ => Search.mem_foundUpTo_of_id fold) hmem

theorem matched_of_exclusions_eq_nil {query : CompiledQuery} (hexclusions : query.exclusions = [])
    (search : Search) :
    query.matched search =
      Search.combine query.options.searchMode (query.criteria.map search.found) := by
  rw [matched, hexclusions, List.map_nil, combine_nil, difference_empty]

section

variable {source : Query} {exact : CompiledQuery} {dialect : Regex.Dialect}
  (hcompile : (source.withCaseSensitive true).compile dialect = .ok exact)
  (hliteral : ∀ entry ∈ source.search.flatten, entry.2.IsLiteral)
  (hexclusions : exact.exclusions = [])

include hcompile hliteral hexclusions

theorem matched_eq_matchedUpTo_id (search : Search) :
    exact.matched search = exact.matchedUpTo id (source.search.flatten.map Prod.snd) search := by
  obtain ⟨hcriteria, -⟩ := Query.compile_eq_ok_iff.mp hcompile
  obtain ⟨others, hothers, hfound⟩ := Criterion.compileAll_withCaseSensitive hcriteria hliteral true
  obtain rfl : exact.criteria = others := Except.ok.inj (hcriteria.symm.trans hothers)
  rw [matched_of_exclusions_eq_nil hexclusions, hfound]
  rfl

/-- The same query compiles where case is ignored, hides the same tokens, and compares literals by
their lower case. -/
theorem exists_compile_ignoringCase :
    ∃ folding, (source.withCaseSensitive false).compile dialect = .ok folding ∧
      (∀ lexicon corpus, folding.search lexicon corpus = exact.search lexicon corpus) ∧
      ∀ search, folding.matched search =
        exact.matchedUpTo Text.lowercase (source.search.flatten.map Prod.snd) search := by
  obtain ⟨hcriteria, hexclude, hlayout, hfilter, hoptions⟩ := Query.compile_eq_ok_iff.mp hcompile
  obtain ⟨criteria, hfolded, hfound⟩ :=
    Criterion.compileAll_withCaseSensitive hcriteria hliteral false
  -- Case plays no part in exclusions that are not there, and none in what is hidden.
  have hnone : Criterion.compileAll (source.options.withCaseSensitive false) source.exclude
      dialect = .ok [] := by
    rw [hexclusions] at hexclude
    have hentries : source.exclude.flatten = [] :=
      List.forall₂_nil_right_iff.mp (mapM_eq_ok_iff.mp hexclude)
    rw [Criterion.compileAll, hentries]
    rfl
  have hother : source.options.withCaseSensitive false =
      exact.options.withCaseSensitive false := by
    rw [← hoptions]
    rfl
  refine ⟨⟨criteria, [], exact.layout, exact.options.withCaseSensitive false, exact.filter⟩,
    Query.compile_eq_ok_iff.mpr ⟨hfolded, hnone, hlayout, hfilter, hother⟩, fun _ _ => rfl,
    fun search => ?_⟩
  rw [matched_of_exclusions_eq_nil rfl, hfound]
  rfl

end

/-- **Ignoring case only adds matches.**  Let a query have no exclusions, and let the leaves of its
search mapping be integers, lists of literals or wildcards.  If it compiles where case counts, it
also does where case is ignored, and hides the same tokens.  Under any filter, with or without
coreference, whatever the corpus looks like, it then matches what it matches where case counts, and
maybe more: the tokens whose values are equal to literals in lower case.

Nothing is special about lower case.  Compared by what any function makes of them, values are at
least as often equal. -/
theorem matches_grow_without_case {source : Query} {exact : CompiledQuery}
    {dialect : Regex.Dialect}
    (hcompile : (source.withCaseSensitive true).compile dialect = .ok exact)
    (hliteral : ∀ entry ∈ source.search.flatten, entry.2.IsLiteral)
    (hexclusions : exact.exclusions = []) :
    let patterns := source.search.flatten.map Prod.snd
    ∃ folding, (source.withCaseSensitive false).compile dialect = .ok folding ∧
      (∀ lexicon corpus, folding.search lexicon corpus = exact.search lexicon corpus) ∧
      ∀ search : Search, ∃ found more,
        (exact.findMatches search).Yields found ∧ (folding.findMatches search).Yields more ∧
        (∀ ref ∈ found, ref ∈ more) ∧
        found = exact.matchedUpTo id patterns search ∧
        more = exact.matchedUpTo Text.lowercase patterns search ∧
        ∀ fold, ∀ ref ∈ found, ref ∈ exact.matchedUpTo fold patterns search := by
  intro patterns
  obtain ⟨folding, hfolding, hsearch, hlower⟩ :=
    exists_compile_ignoringCase hcompile hliteral hexclusions
  refine ⟨folding, hfolding, hsearch, fun search => ?_⟩
  have hexact := matched_eq_matchedUpTo_id hcompile hliteral hexclusions search
  have hgrows : ∀ fold, ∀ ref ∈ exact.matched search,
      ref ∈ exact.matchedUpTo fold patterns search := by
    intro fold ref hmem
    rw [hexact] at hmem
    exact mem_matchedUpTo_of_id fold hmem
  refine ⟨exact.matched search, folding.matched search, looks_findMatches.yields,
    looks_findMatches.yields, fun ref hmem => ?_, hexact, hlower search, hgrows⟩
  rw [hlower]
  exact hgrows Text.lowercase ref hmem

/-- The query for the governors of *It* and of *THE*, mentions included. -/
def capitalSource : Query where
  search := [("d", .nested [("w", .list [.text "THE", .text "It"])])]
  options := { coreference := true }

/-- What this query compiles to where case counts. -/
def capitalSample : CompiledQuery where
  criteria := [⟨"d", .dependent, .word, none, true, .literals ["THE", "It"] true⟩]
  exclusions := []
  layout := ⟨false, [.word]⟩
  options := capitalSource.options.withCaseSensitive true
  filter := .none

theorem matches_grow_without_case_sample :
    (capitalSource.withCaseSensitive true).compile = .ok capitalSample ∧
      (∀ entry ∈ capitalSource.search.flatten, entry.2.IsLiteral) ∧
      capitalSample.exclusions = [] ∧
      ∃ folding, (capitalSource.withCaseSensitive false).compile = .ok folding ∧
        let search := capitalSample.search .penn Treebank.sample.corpus
        folding.search .penn Treebank.sample.corpus = search ∧
        ∃ found more,
          (capitalSample.findMatches search).Yields found ∧
          (folding.findMatches search).Yields more ∧ ∀ ref ∈ found, ref ∈ more := by
  have hcompile : (capitalSource.withCaseSensitive true).compile = .ok capitalSample := rfl
  have hliteral : ∀ entry ∈ capitalSource.search.flatten, entry.2.IsLiteral := by
    intro entry hentry
    obtain rfl := List.mem_singleton.mp hentry
    exact .list _
  obtain ⟨folding, hfolding, hsearch, hgrows⟩ := matches_grow_without_case hcompile hliteral rfl
  obtain ⟨found, more, hfound, hmore, hsubset, -⟩ :=
    hgrows (capitalSample.search .penn Treebank.sample.corpus)
  exact ⟨hcompile, hliteral, rfl, folding, hfolding, hsearch _ _, found, more, hfound, hmore,
    hsubset⟩

-- Without regard to case, *cat* is added, which governs *the*.
example :
    let patterns := capitalSource.search.flatten.map Prod.snd
    let search := capitalSample.search .penn Treebank.sample.corpus
    (capitalSample.matchedUpTo id patterns search).toList = [⟨2, 2⟩, ⟨7, 3⟩, ⟨7, 5⟩] ∧
      (capitalSample.matchedUpTo Text.lowercase patterns search).toList =
        [⟨7, 2⟩, ⟨2, 2⟩, ⟨7, 3⟩, ⟨7, 5⟩] := by
  decide +kernel

end CompiledQuery

end Concordancer
