import Concordancer.Proofs.Compiling
import Concordancer.Proofs.Corpus.Chains
import Concordancer.Proofs.Presentation.Answer
import Concordancer.Proofs.Search.Combination

/-!
# Coreference only adds matches

With coreference, a criterion that holds for a token reports from all mentions of its chain, and
without, from the token alone.  A token is the first of its own mates, whatever the corpus looks
like, so that each criterion finds at least what it finds without coreference
(`mem_found_withCoreference`).  Unions and intersections grow when all of their sets grow, so a
query without exclusions matches at least as much (`matches_grow_with_coreference`).

Exclusions are left out, since what is excluded grows as well.
-/

namespace Concordancer

/-! ## Queries with and without coreference -/

def Options.withCoreference (options : Options) (coreference : Bool) : Options :=
  { options with coreference }

def Criterion.withCoreference (criterion : Criterion) (coreference : Bool) : Criterion :=
  { criterion with expandsCoreference := coreference }

/-- The same query, but for whether criteria hold for all mentions. -/
def Query.withCoreference (query : Query) (coreference : Bool) : Query :=
  { query with options := query.options.withCoreference coreference }

namespace CompiledQuery

/-- The same query, but for whether criteria hold for all mentions. -/
def withCoreference (query : CompiledQuery) (coreference : Bool) : CompiledQuery :=
  { query with
    criteria := query.criteria.map (·.withCoreference coreference)
    exclusions := query.exclusions.map (·.withCoreference coreference)
    options := query.options.withCoreference coreference }

end CompiledQuery

section

variable {options : Options} {dialect : Regex.Dialect} {coreference : Bool}

theorem Criterion.compile_withCoreference {descriptor : String} {pattern : Pattern}
    {criterion : Criterion}
    (hcompile : compile options descriptor pattern dialect = .ok criterion) :
    compile (options.withCoreference coreference) descriptor pattern dialect =
      .ok (criterion.withCoreference coreference) := by
  obtain ⟨parts, role, feature, matcher, hmeaning, hmatcher, rfl⟩ := compile_eq_ok_iff.mp hcompile
  exact compile_eq_ok_iff.mpr ⟨parts, role, feature, matcher, hmeaning, hmatcher, rfl⟩

theorem Criterion.compileAll_withCoreference {mapping : SearchMapping} {criteria : List Criterion}
    (hcompile : compileAll options mapping dialect = .ok criteria) :
    compileAll (options.withCoreference coreference) mapping dialect =
      .ok (criteria.map (·.withCoreference coreference)) := by
  refine mapM_eq_ok_iff.mpr (List.forall₂_map_right_iff.mpr ?_)
  exact (mapM_eq_ok_iff.mp hcompile).imp fun _ _ => compile_withCoreference

theorem Query.compile_withCoreference {source : Query} {query : CompiledQuery}
    (hcompile : source.compile dialect = .ok query) :
    (source.withCoreference coreference).compile dialect =
      .ok (query.withCoreference coreference) := by
  obtain ⟨hcriteria, hexclusions, hlayout, hfilter, hoptions⟩ := compile_eq_ok_iff.mp hcompile
  refine compile_eq_ok_iff.mpr ⟨Criterion.compileAll_withCoreference hcriteria,
    Criterion.compileAll_withCoreference hexclusions, hlayout, hfilter, ?_⟩
  exact congrArg (Options.withCoreference · coreference) hoptions

end

/-! ## What criteria find -/

namespace Search

variable {search : Search} {criterion : Criterion} {ref : TokenRef}

theorem self_mem_mentions (search : Search) (criterion : Criterion) (ref : TokenRef) :
    ref ∈ search.mentions criterion ref := by
  cases hcoreference : search.coreference with
  | none =>
      rw [mentions_of_coreference_eq_none hcoreference]
      exact List.mem_singleton_self ref
  | some coreference =>
      cases hexpands : criterion.expandsCoreference with
      | false =>
          rw [mentions_of_not_expandsCoreference hexpands]
          exact List.mem_singleton_self ref
      | true =>
          rw [mentions_of_expandsCoreference hcoreference hexpands]
          exact coreference.self_mem_mates _ ref

/-- What a criterion finds without coreference, it also finds with any chains. -/
theorem mem_found_withCoreference (coreference : Option Coreference)
    (hmem : ref ∈ search.found (criterion.withCoreference false)) :
    ref ∈ ({ search with coreference } : Search).found (criterion.withCoreference true) := by
  obtain ⟨visible, hvisible, tested, htested, haccepts, hreport⟩ := mem_found.mp hmem
  refine mem_found.mpr ⟨visible, hvisible, tested, htested, haccepts, ?_⟩
  -- Without coreference, the role starts from the tested token itself.
  obtain ⟨mention, hmention, anchor, hanchor, hresolve⟩ := mem_report.mp hreport
  rw [mentions_of_not_expandsCoreference rfl, List.mem_singleton] at hmention
  obtain rfl := hmention
  exact mem_report.mpr ⟨mention, self_mem_mentions _ _ mention, anchor, hanchor, hresolve⟩

end Search

/-! ## What queries match -/

namespace OrderedSet

variable {α : Type} [DecidableEq α]

omit [DecidableEq α] in
theorem size_le_of_forall_mem {set more : OrderedSet α}
    (hmore : ∀ element ∈ set, element ∈ more) : set.size ≤ more.size :=
  (List.subperm_of_subset set.nodup hmore).length_le

end OrderedSet

namespace CompiledQuery

variable {source : Query} {query : CompiledQuery} {dialect : Regex.Dialect}

/-- Without exclusions, what is matched without coreference is also matched with it. -/
theorem mem_matched_withCoreference (hexclusions : query.exclusions = []) {lexicon : Lexicon}
    {corpus : Corpus} {ref : TokenRef}
    (hmem : ref ∈ (query.withCoreference false).matched
      ((query.withCoreference false).search lexicon corpus)) :
    ref ∈ (query.withCoreference true).matched
      ((query.withCoreference true).search lexicon corpus) := by
  have hcriteria : ∀ coreference, (query.withCoreference coreference).criteria =
      query.criteria.map (·.withCoreference coreference) := fun _ => rfl
  have hnone : (query.withCoreference true).exclusions = [] :=
    List.map_eq_nil_iff.mpr hexclusions
  have hsearch : (query.withCoreference true).search lexicon corpus =
      { (query.withCoreference false).search lexicon corpus with
        coreference := some (.ofCorpus corpus) } := rfl
  have hfound := (OrderedSet.mem_difference.mp hmem).1
  rw [hcriteria, List.map_map] at hfound
  rw [matched, hcriteria, List.map_map, hnone, List.map_nil, combine_nil, difference_empty, hsearch]
  refine Search.mem_combine_mono _ (fun criterion _ ref hplain => ?_) hfound
  exact Search.mem_found_withCoreference _ hplain

/-- **Coreference only adds matches.**  Let a query have no exclusions.  Over any corpus, whether
or not its sentences and rows are numbered well, it matches with coreference what it
matches without, and maybe more. -/
theorem matches_grow_with_coreference (hcompile : source.compile dialect = .ok query)
    (hexclusions : query.exclusions = []) (lexicon : Lexicon) (corpus : Corpus) :
    let plain := query.withCoreference false
    let expanding := query.withCoreference true
    (source.withCoreference false).compile dialect = .ok plain ∧
    (source.withCoreference true).compile dialect = .ok expanding ∧
    ∃ found more,
      (plain.findMatches (plain.search lexicon corpus)).Yields found ∧
      (expanding.findMatches (expanding.search lexicon corpus)).Yields more ∧
      (∀ ref ∈ found, ref ∈ more) ∧ found.size ≤ more.size := by
  intro plain expanding
  have hmore : ∀ ref ∈ plain.matched (plain.search lexicon corpus),
      ref ∈ expanding.matched (expanding.search lexicon corpus) :=
    fun _ => mem_matched_withCoreference hexclusions
  exact ⟨Query.compile_withCoreference hcompile, Query.compile_withCoreference hcompile, _, _,
    looks_findMatches.yields, looks_findMatches.yields, hmore,
    OrderedSet.size_le_of_forall_mem hmore⟩

/-- The query for the governors of *he*. -/
def pronounSource : Query where
  search := [("dw", .list [.text "he"])]
  options := { caseSensitive := true }

/-- What this query compiles to. -/
def pronounSample : CompiledQuery where
  criteria := [⟨"dw", .dependent, .word, none, false, .literals ["he"] true⟩]
  exclusions := []
  layout := ⟨false, [.word]⟩
  options := pronounSource.options
  filter := .none

theorem matches_grow_with_coreference_sample :
    pronounSource.compile = .ok pronounSample ∧ pronounSample.exclusions = [] ∧
      let corpus := Treebank.sample.corpus
      let plain := pronounSample.withCoreference false
      let expanding := pronounSample.withCoreference true
      ∃ found more,
        (plain.findMatches (plain.search .penn corpus)).Yields found ∧
        (expanding.findMatches (expanding.search .penn corpus)).Yields more ∧
        ∀ ref ∈ found, ref ∈ more := by
  have hcompile : pronounSource.compile = .ok pronounSample := rfl
  obtain ⟨-, -, found, more, hfound, hmore, hgrows, -⟩ :=
    matches_grow_with_coreference hcompile rfl .penn Treebank.sample.corpus
  exact ⟨hcompile, rfl, found, more, hfound, hmore, hgrows⟩

-- The governors of the other mentions, *sat* and *slept*, are added.
example :
    let corpus := Treebank.sample.corpus
    let plain := pronounSample.withCoreference false
    let expanding := pronounSample.withCoreference true
    (plain.matched (plain.search .penn corpus)).toList = [⟨7, 5⟩] ∧
      (expanding.matched (expanding.search .penn corpus)).toList = [⟨7, 5⟩, ⟨7, 3⟩, ⟨2, 2⟩] := by
  decide +kernel

end CompiledQuery

end Concordancer
