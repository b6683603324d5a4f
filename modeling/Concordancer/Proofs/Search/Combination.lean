import Concordancer.Proofs.Search.Found
import Mathlib.Data.List.Nodup

/-!
# Combining what criteria find

Which tokens a combination contains, and in what order.  Both ways of combining look
at one token at a time, so that they commute with leaving tokens out
(`filter_combine`, `filter_difference`), and sets with the same tokens combine to
sets with the same tokens (`mem_combine_congr`).

The order is that of first sight.  What all criteria find stands as the first of
them finds it (`intersection_cons`), while what any of them finds may be scattered;
so only the former keeps tokens of one kind in front of the others (`Grouped`).
-/

namespace Concordancer

namespace OrderedSet

variable {α : Type} [DecidableEq α]

omit [DecidableEq α] in
/-- Sets with the same elements list them in some order each. -/
theorem toList_perm {first second : OrderedSet α}
    (hsame : ∀ element, element ∈ first ↔ element ∈ second) :
    first.toList.Perm second.toList :=
  (List.perm_ext_iff_of_nodup first.nodup second.nodup).mpr hsame

/-! ## Leaving elements out -/

private theorem filter_eraseDups (keeps : α → Bool) (elements : List α) :
    elements.eraseDups.filter keeps = (elements.filter keeps).eraseDups := by
  match elements with
  | [] => rfl
  | first :: rest =>
      -- The rest loses what repeats the first element and what is not kept, in either order.
      have ih := filter_eraseDups keeps (rest.filter fun other => !other == first)
      rw [List.filter_comm] at ih
      rw [List.eraseDups_cons, List.filter_cons, List.filter_cons, ih]
      cases hfirst : keeps first with
      | true => rw [if_pos rfl, if_pos rfl, List.eraseDups_cons]
      | false =>
          rw [if_neg Bool.false_ne_true, if_neg Bool.false_ne_true]
          refine congrArg List.eraseDups (List.filter_eq_self.mpr fun other hother => ?_)
          have hkept : keeps other = true := (List.mem_filter.mp hother).2
          have hne : other ≠ first := by
            rintro rfl
            rw [hfirst] at hkept
            contradiction
          simpa using hne
termination_by elements.length
decreasing_by
  have := List.length_filter_le (fun other => !other == first) rest
  simp only [List.length_cons]
  omega

variable (keeps : α → Bool)

theorem filter_ofList (elements : List α) :
    (ofList elements).filter keeps = ofList (elements.filter keeps) :=
  eq_of_toList_eq (filter_eraseDups keeps elements)

theorem filter_union (sets : List (OrderedSet α)) :
    (union sets).filter keeps = union (sets.map (filter keeps)) := by
  rw [union, filter_ofList, List.filter_flatMap, union, List.flatMap_map]
  rfl

private theorem contains_filter (set : OrderedSet α) (element : α) :
    (set.filter keeps).contains element = (set.contains element && keeps element) := by
  rw [Bool.eq_iff_iff, contains_iff, mem_filter, Bool.and_eq_true, contains_iff]

theorem filter_intersection (sets : List (OrderedSet α)) :
    (intersection sets).filter keeps = intersection (sets.map (filter keeps)) := by
  have hunion := congrArg toList (filter_union keeps sets)
  refine eq_of_toList_eq ?_
  simp only [intersection, filter, List.all_map] at hunion ⊢
  rw [List.filter_comm, hunion]
  refine List.filter_congr fun element helement => ?_
  have hkept : keeps element = true := by
    rw [← hunion] at helement
    exact (List.mem_filter.mp helement).2
  refine congrArg (List.all sets) (funext fun set => ?_)
  rw [Function.comp_apply, contains_filter, hkept, Bool.and_true]

theorem filter_difference (set removed : OrderedSet α) :
    (set.difference removed).filter keeps =
      (set.filter keeps).difference (removed.filter keeps) := by
  rw [difference_eq_filter, difference_eq_filter]
  refine eq_of_toList_eq ?_
  simp only [filter]
  rw [List.filter_comm]
  refine List.filter_congr fun element helement => ?_
  change _ = !(removed.filter keeps).contains element
  rw [contains_filter, (List.mem_filter.mp helement).2, Bool.and_true]

/-! ## Order -/

private theorem eraseDups_sublist (elements : List α) : elements.eraseDups.Sublist elements := by
  match elements with
  | [] => exact List.Sublist.refl []
  | first :: rest =>
      rw [List.eraseDups_cons]
      exact (eraseDups_sublist _).trans List.filter_sublist |>.cons_cons first
termination_by elements.length
decreasing_by
  have := List.length_filter_le (fun other => !other == first) rest
  simp only [List.length_cons]
  omega

private theorem eraseDups_of_nodup {elements : List α} (hnodup : elements.Nodup) :
    elements.eraseDups = elements := by
  induction elements with
  | nil => rfl
  | cons first rest ih =>
      obtain ⟨hfirst, hrest⟩ := List.nodup_cons.mp hnodup
      have hothers : rest.filter (fun other => !other == first) = rest := by
        refine List.filter_eq_self.mpr fun other hother => ?_
        have hne : other ≠ first := fun heq => hfirst (heq ▸ hother)
        simpa using hne
      rw [List.eraseDups_cons, hothers, ih hrest]

/-- Without repetitions, a list is the list of its set. -/
theorem toList_ofList {elements : List α} (hnodup : elements.Nodup) :
    (ofList elements).toList = elements :=
  eraseDups_of_nodup hnodup

/-- What is common to all sets stands as in the first of them. -/
theorem intersection_cons (first : OrderedSet α) (rest : List (OrderedSet α)) :
    intersection (first :: rest) =
      first.filter fun element => rest.all fun set => set.contains element := by
  refine eq_of_toList_eq ?_
  -- What the other sets add at the end is not in the first one, hence not common to all.
  have hlater : ((rest.flatMap toList).removeAll first.toList).eraseDups.filter
      (fun element => first.contains element && rest.all fun set => set.contains element) = [] := by
    refine List.filter_eq_nil_iff.mpr fun element helement => ?_
    rw [List.mem_eraseDups, List.removeAll, List.mem_filter] at helement
    have hnew : first.contains element = false := by simpa [contains] using helement.2
    simp [hnew]
  simp only [intersection, union, ofList, filter, List.flatMap_cons, List.all_cons]
  rw [List.eraseDups_append, List.filter_append, hlater, List.append_nil,
    eraseDups_of_nodup first.nodup]
  refine List.filter_congr fun element helement => ?_
  rw [contains_iff.mpr helement, Bool.true_and]

@[simp] theorem mem_intersection {sets : List (OrderedSet α)} {element : α} :
    element ∈ intersection sets ↔
      (∃ set ∈ sets, element ∈ set) ∧ ∀ set ∈ sets, element ∈ set := by
  simp only [intersection, mem_filter, mem_union, List.all_eq_true, contains_iff]

/-- Elements of a kind stand in front of all others. -/
def Grouped (kind : α → Bool) (set : OrderedSet α) : Prop :=
  set.toList.Pairwise fun earlier later => kind later = true → kind earlier = true

variable {kind : α → Bool}

theorem grouped_ofList_append {early late : List α}
    (hearly : ∀ element ∈ early, kind element = true)
    (hlate : ∀ element ∈ late, kind element = false) :
    (ofList (early ++ late)).Grouped kind := by
  refine List.Pairwise.sublist (eraseDups_sublist _) (List.pairwise_append.mpr ⟨?_, ?_, ?_⟩)
  · exact List.pairwise_of_forall_mem_list fun element helement _ _ _ => hearly element helement
  · refine List.pairwise_of_forall_mem_list fun _ _ element helement hkind => ?_
    rw [hlate element helement] at hkind
    contradiction
  · exact fun element helement _ _ _ => hearly element helement

omit [DecidableEq α] in
theorem Grouped.filter {set : OrderedSet α} (hgrouped : set.Grouped kind) (keeps : α → Bool) :
    (set.filter keeps).Grouped kind :=
  List.Pairwise.sublist List.filter_sublist hgrouped

omit [DecidableEq α] in
/-- Grouped elements are those of the kind followed by the others. -/
theorem Grouped.toList_eq {set : OrderedSet α} (hgrouped : set.Grouped kind) :
    set.toList = (set.filter kind).toList ++ (set.filter fun element => !kind element).toList := by
  obtain ⟨elements, hnodup⟩ := set
  simp only [Grouped, OrderedSet.filter] at hgrouped ⊢
  clear hnodup
  induction elements with
  | nil => rfl
  | cons first rest ih =>
      obtain ⟨hfirst, hrest⟩ := List.pairwise_cons.mp hgrouped
      have hsplit := ih hrest
      cases hkind : kind first with
      | true => simpa [hkind] using hsplit
      | false =>
          -- An element of the kind would have to stand in front of this one.
          have hnone : ∀ later ∈ rest, kind later = false := by
            intro later hlater
            by_contra hlater'
            rw [hfirst later hlater (by simpa using hlater')] at hkind
            contradiction
          have hall : rest.filter kind = [] :=
            List.filter_eq_nil_iff.mpr fun later hlater => by simp [hnone later hlater]
          rw [hall, List.nil_append] at hsplit
          simpa [hkind, hall] using hsplit

end OrderedSet

/-! ## Combinations of criteria -/

namespace Search

theorem filter_combine (keeps : TokenRef → Bool) (mode : Combination) (sets : List TokenSet) :
    (combine mode sets).filter keeps = combine mode (sets.map (OrderedSet.filter keeps)) := by
  cases mode with
  | any =>
      rw [combine_any, combine_any]
      exact OrderedSet.filter_union keeps sets
  | all =>
      rw [combine_all, combine_all]
      exact OrderedSet.filter_intersection keeps sets

/-- One criterion finds the same alone and under either combination. -/
theorem combine_singleton (mode : Combination) (set : TokenSet) : combine mode [set] = set := by
  refine OrderedSet.eq_of_toList_eq ?_
  cases mode with
  | any =>
      rw [combine_any, OrderedSet.union, List.flatMap_singleton]
      exact OrderedSet.toList_ofList set.nodup
  | all =>
      rw [combine_all, OrderedSet.intersection_cons]
      exact List.filter_eq_self.mpr fun _ _ => rfl

/-- Sets with more tokens combine to sets with more tokens. -/
theorem mem_combine_mono {α : Type} (mode : Combination) {criteria : List α}
    {first second : α → TokenSet}
    (hmore : ∀ criterion ∈ criteria, ∀ ref ∈ first criterion, ref ∈ second criterion)
    {ref : TokenRef} (hmem : ref ∈ combine mode (criteria.map first)) :
    ref ∈ combine mode (criteria.map second) := by
  have hany : (∃ criterion ∈ criteria, ref ∈ first criterion) →
      ∃ criterion ∈ criteria, ref ∈ second criterion := by
    rintro ⟨criterion, hcriterion, hfirst⟩
    exact ⟨criterion, hcriterion, hmore criterion hcriterion ref hfirst⟩
  cases mode with
  | any =>
      simp only [combine_any, OrderedSet.mem_union, List.mem_map, exists_exists_and_eq_and]
        at hmem ⊢
      exact hany hmem
  | all =>
      simp only [combine_all, OrderedSet.mem_intersection, List.mem_map, exists_exists_and_eq_and,
        forall_exists_index, and_imp, forall_apply_eq_imp_iff₂] at hmem ⊢
      obtain ⟨hsome, hall⟩ := hmem
      exact ⟨hany hsome, fun criterion hcriterion =>
        hmore criterion hcriterion ref (hall criterion hcriterion)⟩

/-- Sets with the same tokens combine to sets with the same tokens. -/
theorem mem_combine_congr {α : Type} (mode : Combination) {criteria : List α}
    {first second : α → TokenSet}
    (hsame : ∀ criterion ∈ criteria, ∀ ref, ref ∈ first criterion ↔ ref ∈ second criterion)
    (ref : TokenRef) :
    ref ∈ combine mode (criteria.map first) ↔ ref ∈ combine mode (criteria.map second) := by
  constructor
  · exact mem_combine_mono mode fun criterion hmem ref => (hsame criterion hmem ref).mp
  · exact mem_combine_mono mode fun criterion hmem ref => (hsame criterion hmem ref).mpr

/-- If each criterion finds tokens of a kind first, so do all of them together. -/
theorem grouped_combine_all {kind : TokenRef → Bool} {sets : List TokenSet}
    (hgrouped : ∀ set ∈ sets, set.Grouped kind) : (combine .all sets).Grouped kind := by
  cases sets with
  | nil => exact List.Pairwise.nil
  | cons first rest =>
      rw [combine_all, OrderedSet.intersection_cons]
      exact (hgrouped first List.mem_cons_self).filter _

end Search

end Concordancer
