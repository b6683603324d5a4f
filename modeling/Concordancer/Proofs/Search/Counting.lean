import Concordancer.Search

/-!
# Combining by counting

Criteria are combined by counting in how many of their results a token stands.  A set has no
repetitions, so each criterion counts a token at most once.  What has been counted is then
the union of the results (`elements_ofSets`), and what has been counted as often as there
are criteria is their intersection (`countedAs_length`), both in the order of first sight.

## Strategy

`Tally.Counts` is the invariant of the two nested loops: a tally lists the elements seen so
far, each where it was seen first, with the number of its occurrences.  One more element
keeps it (`counts_add`), and so do all elements of all sets (`counts_ofSets`).
-/

namespace Concordancer

namespace Tally

variable {α : Type} [DecidableEq α]

/-- The tally lists these elements without repetitions, each with how often it occurs. -/
def Counts (tally : Tally α) (elements : List α) : Prop :=
  tally.counts = elements.eraseDups.map fun element => (element, elements.count element)

/-! ## One more element -/

/-- An element that is listed is counted where it stands. -/
private theorem increment_of_mem {element : α} {listed : List α} (hmem : element ∈ listed)
    (hnodup : listed.Nodup) (occurrences : α → Nat) :
    increment element (listed.map fun other => (other, occurrences other)) =
      listed.map fun other => (other, occurrences other + if other = element then 1 else 0) := by
  induction listed with
  | nil => contradiction
  | cons first rest ih =>
    obtain ⟨hfirst, hrest⟩ := List.nodup_cons.mp hnodup
    rw [List.map_cons, List.map_cons, increment]
    by_cases hsame : first = element
    · -- The others are different, and keep their counts.
      rw [if_pos hsame, if_pos hsame]
      refine congrArg _ (List.map_congr_left fun other hother => ?_)
      have hne : other ≠ element := by
        rintro rfl
        exact hfirst (hsame ▸ hother)
      rw [if_neg hne, Nat.add_zero]
    · have hlater : element ∈ rest := (List.mem_cons.mp hmem).resolve_left (Ne.symm hsame)
      rw [if_neg hsame, if_neg hsame, Nat.add_zero, ih hlater hrest]

private theorem increment_of_not_mem {element : α} {listed : List α} (hnew : element ∉ listed)
    (occurrences : α → Nat) :
    increment element (listed.map fun other => (other, occurrences other)) =
      listed.map (fun other => (other, occurrences other)) ++ [(element, 1)] := by
  induction listed with
  | nil => rfl
  | cons first rest ih =>
    obtain ⟨hne, hrest⟩ := not_or.mp (mt List.mem_cons.mpr hnew)
    rw [List.map_cons, increment, if_neg (Ne.symm hne), ih hrest, List.cons_append]

/-- The step: one more element is counted once more. -/
theorem counts_add {tally : Tally α} {seen : List α} (hcounts : tally.Counts seen)
    (element : α) : (tally.add element).Counts (seen ++ [element]) := by
  have hcount : ∀ other, (seen ++ [element]).count other =
      seen.count other + if other = element then 1 else 0 := by
    intro other
    by_cases hsame : other = element
    · simp [hsame]
    · simp [hsame, Ne.symm hsame]
  show increment element tally.counts = _
  rw [hcounts, List.eraseDups_append]
  by_cases hmem : element ∈ seen
  · -- Seen before: the list of the counted stays as it is, and one count grows.
    have hnone : [element].removeAll seen = [] := by simp [List.removeAll, hmem]
    rw [hnone, List.eraseDups_nil, List.append_nil,
      increment_of_mem (List.mem_eraseDups.mpr hmem) (nodup_eraseDups seen)]
    refine List.map_congr_left fun other _ => ?_
    rw [hcount]
  · -- Seen for the first time: it is put at the end, and no count grows.
    have hnew : ([element].removeAll seen).eraseDups = [element] := by
      simp [List.removeAll, hmem, List.eraseDups_cons]
    rw [hnew, List.map_append, List.map_singleton,
      increment_of_not_mem (mt List.mem_eraseDups.mp hmem), hcount element, if_pos rfl,
      List.count_eq_zero_of_not_mem hmem]
    refine congrArg (· ++ [(element, 1)]) (List.map_congr_left fun other hother => ?_)
    have hne : other ≠ element := by
      rintro rfl
      exact hmem (List.mem_eraseDups.mp hother)
    rw [hcount, if_neg hne, Nat.add_zero]

/-! ## All elements of all sets -/

private theorem counts_foldl_add {tally : Tally α} {seen : List α} (hcounts : tally.Counts seen)
    (elements : List α) : (elements.foldl add tally).Counts (seen ++ elements) := by
  induction elements generalizing tally seen with
  | nil => simpa using hcounts
  | cons first rest ih =>
    have hrest := ih (counts_add hcounts first)
    rwa [List.append_assoc] at hrest

/-- The run: all elements of all sets are counted. -/
theorem counts_ofSets (sets : List (OrderedSet α)) :
    (ofSets sets).Counts (sets.flatMap OrderedSet.toList) := by
  have hempty : (empty : Tally α).Counts [] := rfl
  have hall := counts_foldl_add hempty (sets.flatMap OrderedSet.toList)
  rwa [List.foldl_flatMap] at hall

/-- In sets without repetitions, an element occurs as often as there are sets that have it. -/
private theorem count_flatMap_toList (sets : List (OrderedSet α)) (element : α) :
    (sets.flatMap OrderedSet.toList).count element = sets.countP (·.contains element) := by
  induction sets with
  | nil => rfl
  | cons first rest ih =>
    rw [List.flatMap_cons, List.count_append, ih, List.countP_cons, first.nodup.count, Nat.add_comm]
    simp only [OrderedSet.contains_iff, OrderedSet.mem_iff]

/-- Whatever has been counted is in the union. -/
theorem elements_ofSets (sets : List (OrderedSet α)) :
    (ofSets sets).elements = OrderedSet.union sets := by
  apply OrderedSet.eq_of_toList_eq
  show (ofSets sets).counts.map Prod.fst = _
  rw [counts_ofSets sets, List.map_map]
  exact List.map_id _

theorem countedAs_length (sets : List (OrderedSet α)) :
    (ofSets sets).countedAs sets.length = OrderedSet.intersection sets := by
  apply OrderedSet.eq_of_toList_eq
  show ((ofSets sets).counts.filter fun entry => entry.2 = sets.length).map Prod.fst = _
  rw [counts_ofSets sets, List.filter_map, List.map_map]
  refine (List.map_id _).trans (List.filter_congr fun element _ => ?_)
  -- A count is the length of the list of sets if it is that of all of them.
  rw [Function.comp_apply, count_flatMap_toList, Bool.eq_iff_iff, decide_eq_true_iff,
    List.countP_eq_length, List.all_eq_true]

end Tally

namespace Search

theorem combine_any (sets : List TokenSet) : combine .any sets = OrderedSet.union sets :=
  Tally.elements_ofSets sets

theorem combine_all (sets : List TokenSet) : combine .all sets = OrderedSet.intersection sets :=
  Tally.countedAs_length sets

end Search

end Concordancer
