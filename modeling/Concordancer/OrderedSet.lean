/-!
# Ordered sets

A set that remembers the order in which its elements were first seen.  Search results are
ordered sets: a token is reported once, where it was found first, and results are shown in
that order.
-/

namespace Concordancer

structure OrderedSet (α : Type) where
  toList : List α
  nodup : toList.Nodup

/-- Leaving out repetitions leaves none. -/
theorem nodup_eraseDups {α : Type} [BEq α] [LawfulBEq α] (elements : List α) :
    elements.eraseDups.Nodup := by
  match elements with
  | [] => simp
  | first :: rest =>
    rw [List.eraseDups_cons]
    refine List.nodup_cons.mpr ⟨?_, nodup_eraseDups _⟩
    simp [List.mem_eraseDups]
termination_by elements.length
decreasing_by
  have := List.length_filter_le (fun other => !other == first) rest
  simp only [List.length_cons]
  omega

namespace OrderedSet

variable {α : Type} [DecidableEq α]

def empty : OrderedSet α := ⟨[], List.nodup_nil⟩

/-- The elements of a list, each where it stands first. -/
def ofList (elements : List α) : OrderedSet α :=
  ⟨elements.eraseDups, nodup_eraseDups elements⟩

def size (set : OrderedSet α) : Nat := set.toList.length

def contains (set : OrderedSet α) (element : α) : Bool := set.toList.contains element

/-- The elements that satisfy a condition, in their order. -/
def filter (keeps : α → Bool) (set : OrderedSet α) : OrderedSet α :=
  ⟨set.toList.filter keeps, set.nodup.filter keeps⟩

/-- The set without an element, if it is there; the others keep their order. -/
def remove (set : OrderedSet α) (element : α) : OrderedSet α :=
  ⟨set.toList.erase element, set.nodup.erase element⟩

/-- What is left of a set when the elements of another one are removed, one by one. -/
def difference (set removed : OrderedSet α) : OrderedSet α :=
  removed.toList.foldl remove set

/-- The elements of all sets, in the order in which they are first seen. -/
def union (sets : List (OrderedSet α)) : OrderedSet α :=
  ofList (sets.flatMap toList)

/-- The elements that all sets have in common, in the order in which they are first seen.
Of no sets at all, nothing is common. -/
def intersection (sets : List (OrderedSet α)) : OrderedSet α :=
  (union sets).filter fun element => sets.all fun set => set.contains element

instance : Membership α (OrderedSet α) := ⟨fun set element => element ∈ set.toList⟩

omit [DecidableEq α] in
theorem mem_iff {set : OrderedSet α} {element : α} : element ∈ set ↔ element ∈ set.toList :=
  Iff.rfl

@[simp] theorem contains_iff {set : OrderedSet α} {element : α} :
    set.contains element = true ↔ element ∈ set := by
  simp [contains, mem_iff]

@[simp] theorem mem_ofList {elements : List α} {element : α} :
    element ∈ ofList elements ↔ element ∈ elements := by
  simp [ofList, mem_iff]

omit [DecidableEq α] in
@[simp] theorem mem_filter {keeps : α → Bool} {set : OrderedSet α} {element : α} :
    element ∈ set.filter keeps ↔ element ∈ set ∧ keeps element = true := by
  simp [filter, mem_iff]

omit [DecidableEq α] in
theorem eq_of_toList_eq {first second : OrderedSet α} (hsame : first.toList = second.toList) :
    first = second := by
  cases first
  cases second
  cases hsame
  rfl

private theorem toList_foldl_remove (removed : List α) (set : OrderedSet α) :
    (removed.foldl remove set).toList =
      set.toList.filter fun element => !removed.contains element := by
  induction removed generalizing set with
  | nil => exact (List.filter_eq_self.mpr fun _ _ => rfl).symm
  | cons first rest ih =>
    have hremove : (set.remove first).toList = set.toList.filter (· != first) :=
      set.nodup.erase_eq_filter first
    rw [List.foldl_cons, ih, hremove, List.filter_filter]
    refine List.filter_congr fun element _ => ?_
    by_cases hfirst : element = first <;> simp [hfirst]

/-- What is left are the elements that are not removed, in their order. -/
theorem difference_eq_filter (set removed : OrderedSet α) :
    set.difference removed = set.filter fun element => !removed.contains element :=
  eq_of_toList_eq (toList_foldl_remove removed.toList set)

@[simp] theorem mem_difference {set removed : OrderedSet α} {element : α} :
    element ∈ set.difference removed ↔ element ∈ set ∧ element ∉ removed := by
  rw [difference_eq_filter, mem_filter, Bool.not_eq_true', ← Bool.not_eq_true, contains_iff]

@[simp] theorem mem_union {sets : List (OrderedSet α)} {element : α} :
    element ∈ union sets ↔ ∃ set ∈ sets, element ∈ set := by
  rw [union, mem_ofList, List.mem_flatMap]
  rfl

end OrderedSet

end Concordancer
