import Concordancer.Proofs.Presentation.Answer
import Concordancer.Proofs.Search.Combination

/-!
# Combining and excluding are set algebra

Criteria are combined by counting and exclusions are removed one by one.  Both are said here
without counters: what all criteria find is what the first of them finds, as far as the
others find it too; what any of them finds is what they find one after the other, without
later repetitions; and an exclusion takes away its tokens and moves no other.

Which tokens a combination has depends only on which sets are combined (`mem_combine_of_same`).
So criteria may be given in another order and more than once, and a query matches the
same tokens (`findMatches_set_algebra`).
-/

namespace Concordancer

namespace Search

/-- What all criteria find is in the order of the first. -/
theorem toList_combine_all (sets : List TokenSet) :
    (combine .all sets).toList =
      ((sets.head?.map OrderedSet.toList).getD []).filter fun ref =>
        sets.all (·.contains ref) := by
  rw [combine_all]
  cases sets with
  | nil => rfl
  | cons first rest =>
    rw [OrderedSet.intersection_cons]
    refine List.filter_congr fun ref href => ?_
    have hfirst : first.contains ref = true := OrderedSet.contains_iff.mpr href
    rw [List.all_cons, hfirst, Bool.true_and]

theorem mem_combine_of_same (mode : Combination) {sets others : List TokenSet}
    (hsame : ∀ set, set ∈ others ↔ set ∈ sets) (ref : TokenRef) :
    ref ∈ combine mode others ↔ ref ∈ combine mode sets := by
  cases mode with
  | any => simp only [combine_any, OrderedSet.mem_union, hsame]
  | all => simp only [combine_all, OrderedSet.mem_intersection, hsame]

theorem difference_combine_perm (mode excludeMode : Combination)
    {sets others excluded excludedOthers : List TokenSet}
    (hsame : ∀ set, set ∈ others ↔ set ∈ sets)
    (hexcluded : ∀ set, set ∈ excludedOthers ↔ set ∈ excluded) :
    ((combine mode others).difference (combine excludeMode excludedOthers)).toList.Perm
      ((combine mode sets).difference (combine excludeMode excluded)).toList := by
  apply OrderedSet.toList_perm
  intro ref
  rw [OrderedSet.mem_difference, OrderedSet.mem_difference, mem_combine_of_same mode hsame,
    mem_combine_of_same excludeMode hexcluded]

end Search

namespace CompiledQuery

open Search

/-- **Combination is set algebra in order.**  What all of some sets have in common is the first
of them, in its order, less what is not in all of them; of no sets, it is nothing.  What any of
them has is what they have one after the other, each token where it comes first.  When the
combination of exclusions is subtracted, exactly its tokens go, and the others keep their order.

A query matches the difference of the two combinations.  With the same criteria and exclusions in
any order and however often each is given, it matches the same tokens up to their order. -/
theorem findMatches_set_algebra (mode excludeMode : Combination) (sets excluded : List TokenSet) :
    (combine .all sets).toList =
        ((sets.head?.map OrderedSet.toList).getD []).filter (fun ref =>
          sets.all (·.contains ref)) ∧
      (combine .any sets).toList = (sets.flatMap OrderedSet.toList).eraseDups ∧
      ((combine mode sets).difference (combine excludeMode excluded)).toList =
        (combine mode sets).toList.filter (fun ref =>
          !(combine excludeMode excluded).contains ref) ∧
      (∀ others excludedOthers, (∀ set, set ∈ others ↔ set ∈ sets) →
        (∀ set, set ∈ excludedOthers ↔ set ∈ excluded) →
          ((combine mode others).difference (combine excludeMode excludedOthers)).toList.Perm
            ((combine mode sets).difference (combine excludeMode excluded)).toList) ∧
      ∀ (search : Search) (query : CompiledQuery),
        ∃ found : Criterion → TokenSet,
          (∀ criterion, (search.find criterion).Yields (found criterion)) ∧
          (query.findMatches search).Yields
            ((combine query.options.searchMode (query.criteria.map found)).difference
              (combine query.options.excludeMode (query.exclusions.map found))) ∧
          ∀ other : CompiledQuery, other.options = query.options →
            (∀ criterion, criterion ∈ other.criteria ↔ criterion ∈ query.criteria) →
            (∀ criterion, criterion ∈ other.exclusions ↔ criterion ∈ query.exclusions) →
              ∃ matched others, (query.findMatches search).Yields matched ∧
                (other.findMatches search).Yields others ∧ others.toList.Perm matched.toList := by
  have hmap : ∀ {found : Criterion → TokenSet} {first second : List Criterion},
      (∀ criterion, criterion ∈ first ↔ criterion ∈ second) →
        ∀ set, set ∈ first.map found ↔ set ∈ second.map found := by
    intro found first second hsame set
    simp only [List.mem_map, hsame]
  refine ⟨toList_combine_all sets, ?_, ?_, fun _ _ => difference_combine_perm mode excludeMode,
    fun search query => ⟨search.found, fun _ => looks_find.yields, looks_findMatches.yields, ?_⟩⟩
  · rw [combine_any]
    rfl
  · rw [OrderedSet.difference_eq_filter]
    rfl
  · intro other hoptions hcriteria hexclusions
    refine ⟨query.matched search, other.matched search, looks_findMatches.yields,
      looks_findMatches.yields, ?_⟩
    rw [matched, matched, hoptions]
    exact difference_combine_perm _ _ (hmap hcriteria) (hmap hexclusions)

end CompiledQuery

end Concordancer
