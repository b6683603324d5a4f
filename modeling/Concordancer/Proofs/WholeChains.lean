import Concordancer.Proofs.Compiling
import Concordancer.Proofs.Corpus.Mates
import Concordancer.Proofs.Presentation.Answer
import Concordancer.Proofs.Search.Combination

/-!
# Whole chains

With coreference, what holds of a token holds of all mentions of its chain.  A criterion on
the match itself then reports a chain as a whole, as far as it is visible, or no mention of
it (`closedUnder_found`).

A query combines what its criteria find and takes away what its exclusions find.  Unions
and intersections of sets that are closed under a relation are closed.  Differences are
closed if the relation is symmetric: then what is related to an excluded token is excluded
too.  Being visible mates is symmetric, so that a query matches whole chains
(`findMatches_closed_under_mates`).
-/

namespace Concordancer

/-! ## Sets that are closed under a relation -/

namespace OrderedSet

variable {α : Type}

/-- Whatever is related to an element of the set is in the set. -/
def ClosedUnder (relation : α → α → Prop) (set : OrderedSet α) : Prop :=
  ∀ element ∈ set, ∀ other, relation element other → other ∈ set

namespace ClosedUnder

variable [DecidableEq α] {relation : α → α → Prop} {sets : List (OrderedSet α)}

theorem union (hclosed : ∀ set ∈ sets, set.ClosedUnder relation) :
    (OrderedSet.union sets).ClosedUnder relation := by
  intro element helement other hrelated
  obtain ⟨set, hset, hmem⟩ := mem_union.mp helement
  exact mem_union.mpr ⟨set, hset, hclosed set hset element hmem other hrelated⟩

theorem intersection (hclosed : ∀ set ∈ sets, set.ClosedUnder relation) :
    (OrderedSet.intersection sets).ClosedUnder relation := by
  intro element helement other hrelated
  obtain ⟨⟨first, hfirst, hmem⟩, hall⟩ := mem_intersection.mp helement
  refine mem_intersection.mpr ⟨⟨first, hfirst, ?_⟩, ?_⟩
  · exact hclosed first hfirst element hmem other hrelated
  · intro set hset
    exact hclosed set hset element (hall set hset) other hrelated

theorem difference {set removed : OrderedSet α}
    (hsymm : ∀ element other, relation element other → relation other element)
    (hset : set.ClosedUnder relation) (hremoved : removed.ClosedUnder relation) :
    (set.difference removed).ClosedUnder relation := by
  intro element helement other hrelated
  obtain ⟨hmem, hkept⟩ := mem_difference.mp helement
  refine mem_difference.mpr ⟨hset element hmem other hrelated, ?_⟩
  -- If the other one were removed, so would be the element.
  intro hother
  exact hkept (hremoved other hother element (hsymm element other hrelated))

end ClosedUnder

end OrderedSet

theorem Search.closedUnder_combine {relation : TokenRef → TokenRef → Prop} {sets : List TokenSet}
    (mode : Combination) (hclosed : ∀ set ∈ sets, set.ClosedUnder relation) :
    (Search.combine mode sets).ClosedUnder relation := by
  cases mode with
  | any =>
      rw [combine_any]
      exact .union hclosed
  | all =>
      rw [combine_all]
      exact .intersection hclosed

/-! ## Visible mates -/

/-- Two visible tokens that are mates. -/
structure Treebank.VisibleMates (treebank : Treebank) (visible : VisibleCorpus)
    (ref mate : TokenRef) : Prop where
  shows_ref : visible.shows ref = true
  shows_mate : visible.shows mate = true
  mem_mates : mate ∈ treebank.mates ref

namespace Search

variable {treebank : Treebank} {search : Search} {criterion : Criterion}

/-- A criterion on the match itself that holds for all mentions finds, with a token, its
visible mates. -/
theorem closedUnder_found (hnumbered : treebank.WellNumbered)
    (hcorpus : search.navigator.visible.corpus = treebank.corpus)
    (hcoreference : search.coreference = some (.ofCorpus treebank.corpus))
    (hexpands : criterion.expandsCoreference = true) (hrole : criterion.role = .self)
    (hplace : criterion.adjacency = none) :
    (search.found criterion).ClosedUnder (treebank.VisibleMates search.navigator.visible) := by
  intro ref hfound mate hmates
  obtain ⟨visible, hvisible, tested, htested, haccepts, hreport⟩ := mem_found.mp hfound
  obtain ⟨hmention, -⟩ := (mem_report_self hrole hplace).mp hreport
  have hmentions : search.mentions criterion tested = treebank.mates tested := by
    rw [mentions_of_expandsCoreference hcoreference hexpands, hcorpus]
    rfl
  rw [hmentions] at hmention
  -- What was reported is a mate of the tested token, and so its mates are.
  have hmate : mate ∈ treebank.mates tested := hnumbered.mates_trans hmention hmates.mem_mates
  refine mem_found.mpr ⟨visible, hvisible, tested, htested, haccepts, ?_⟩
  refine (mem_report_self hrole hplace).mpr ⟨?_, hmates.shows_mate⟩
  rw [hmentions]
  exact hmate

end Search

/-! ## Queries -/

namespace CompiledQuery

variable {treebank : Treebank} {source : Query} {query : CompiledQuery} {dialect : Regex.Dialect}

/-- **Matches are whole chains.**  Let a query with coreference have only criteria and exclusions
on the match itself, without adjacency.  Over a well-numbered treebank, however they are
combined, it matches with a token all visible mates of the token. -/
theorem findMatches_closed_under_mates (hnumbered : treebank.WellNumbered) (lexicon : Lexicon)
    (hcompile : source.compile dialect = .ok query)
    (hcoreference : source.options.coreference = true)
    (hself : ∀ criterion ∈ query.criteria ++ query.exclusions,
      criterion.role = .self ∧ criterion.adjacency = none) :
    let search := query.search lexicon treebank.corpus
    ∃ found, (query.findMatches search).Yields found ∧
      ∀ ref ∈ found, ∀ mate ∈ treebank.mates ref,
        search.navigator.visible.shows mate = true → mate ∈ found := by
  intro search
  refine ⟨query.matched search, looks_findMatches.yields, ?_⟩
  have hoptions : query.options.coreference = true := by
    obtain ⟨-, -, -, -, hsame⟩ := Query.compile_eq_ok_iff.mp hcompile
    rw [← hsame]
    exact hcoreference
  have hchains : search.coreference = some (.ofCorpus treebank.corpus) := if_pos hoptions
  have hclosed : ∀ criterion ∈ query.criteria ++ query.exclusions,
      (search.found criterion).ClosedUnder (treebank.VisibleMates search.navigator.visible) := by
    intro criterion hmem
    obtain ⟨hrole, hplace⟩ := hself criterion hmem
    have hexpands := Query.expandsCoreference_of_compile hcompile hmem
    exact Search.closedUnder_found hnumbered rfl hchains (hexpands.trans hcoreference) hrole hplace
  have hmatched : (query.matched search).ClosedUnder
      (treebank.VisibleMates search.navigator.visible) := by
    -- Exclusions may be taken away, since being visible mates is symmetric.
    refine .difference ?_ (Search.closedUnder_combine _ ?_) (Search.closedUnder_combine _ ?_)
    · intro ref mate hmates
      exact ⟨hmates.shows_mate, hmates.shows_ref, hnumbered.mates_symm hmates.mem_mates⟩
    · exact List.forall_mem_map.mpr fun criterion hmem =>
        hclosed criterion (List.mem_append_left _ hmem)
    · exact List.forall_mem_map.mpr fun criterion hmem =>
        hclosed criterion (List.mem_append_right _ hmem)
  intro ref hmem mate hmate hshows
  obtain ⟨criterion, -, hfound⟩ := exists_mem_found hmem
  exact hmatched ref hmem mate ⟨Search.shows_of_mem_found hfound, hshows, hmate⟩

/-- The query for *cat*, but for finite verbs, with coreference. -/
def chainSource : Query where
  search := [("w", .list [.text "cat"])]
  exclude := [("p", .list [.text "VBD"])]
  options := { coreference := true, caseSensitive := true }

/-- What this query compiles to. -/
def chainSample : CompiledQuery where
  criteria := [⟨"w", .self, .word, none, true, .literals ["cat"] true⟩]
  exclusions := [⟨"p", .self, .tag, none, true, .literals ["VBD"] true⟩]
  layout := ⟨false, [.word]⟩
  options := chainSource.options
  filter := .none

theorem findMatches_closed_under_mates_sample :
    Treebank.sample.WellNumbered ∧ chainSource.compile = .ok chainSample ∧
      chainSource.options.coreference = true ∧
      (∀ criterion ∈ chainSample.criteria ++ chainSample.exclusions,
        criterion.role = .self ∧ criterion.adjacency = none) ∧
      let search := chainSample.search .penn Treebank.sample.corpus
      ∃ found, (chainSample.findMatches search).Yields found ∧
        ∀ ref ∈ found, ∀ mate ∈ Treebank.sample.mates ref,
          search.navigator.visible.shows mate = true → mate ∈ found := by
  have hnumbered : Treebank.sample.WellNumbered := by decide
  have hcompile : chainSource.compile = .ok chainSample := rfl
  have hself : ∀ criterion ∈ chainSample.criteria ++ chainSample.exclusions,
      criterion.role = .self ∧ criterion.adjacency = none := by
    decide
  exact ⟨hnumbered, hcompile, rfl, hself,
    findMatches_closed_under_mates hnumbered .penn hcompile rfl hself⟩

-- The pronouns are found although only their mate is what the criterion says.
example :
    (chainSample.matched (chainSample.search .penn Treebank.sample.corpus)).toList =
      [⟨7, 2⟩, ⟨7, 5⟩, ⟨2, 1⟩] := by
  decide +kernel

end CompiledQuery

end Concordancer
