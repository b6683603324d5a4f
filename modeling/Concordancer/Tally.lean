import Concordancer.OrderedSet

/-!
# Tallies

A tally says how often each of some elements has been counted.  Elements keep the order in
which they were first counted, whatever is counted later.
-/

namespace Concordancer

structure Tally (α : Type) where
  counts : List (α × Nat)
  nodup : (counts.map Prod.fst).Nodup

namespace Tally

variable {α : Type} [DecidableEq α]

/-- Counts an element once more; one that has not been counted comes last. -/
def increment (element : α) : List (α × Nat) → List (α × Nat)
  | [] => [(element, 1)]
  | (other, count) :: rest =>
    if other = element then (other, count + 1) :: rest else (other, count) :: increment element rest

theorem mem_map_fst_increment {element other : α} {counts : List (α × Nat)} :
    other ∈ (increment element counts).map Prod.fst ↔
      other = element ∨ other ∈ counts.map Prod.fst := by
  induction counts with
  | nil => simp [increment]
  | cons entry rest ih =>
    rw [increment]
    split
    · next hsame => simp [hsame]
    · simp only [List.map_cons, List.mem_cons, ih, or_left_comm]

theorem nodup_increment (element : α) {counts : List (α × Nat)}
    (hnodup : (counts.map Prod.fst).Nodup) : ((increment element counts).map Prod.fst).Nodup := by
  induction counts with
  | nil => simp [increment]
  | cons entry rest ih =>
    obtain ⟨hentry, hrest⟩ := List.nodup_cons.mp hnodup
    rw [increment]
    split
    · exact List.nodup_cons.mpr ⟨hentry, hrest⟩
    · next hne =>
        refine List.nodup_cons.mpr ⟨fun hmem => ?_, ih hrest⟩
        rcases mem_map_fst_increment.mp hmem with hsame | hmem
        · exact hne hsame
        · exact hentry hmem

def empty : Tally α := ⟨[], List.nodup_nil⟩

def add (tally : Tally α) (element : α) : Tally α :=
  ⟨increment element tally.counts, nodup_increment element tally.nodup⟩

/-- Counts each element of some sets, set by set. -/
def ofSets (sets : List (OrderedSet α)) : Tally α :=
  sets.foldl (fun tally set => set.toList.foldl add tally) empty

/-- The elements that have been counted. -/
def elements (tally : Tally α) : OrderedSet α := ⟨tally.counts.map Prod.fst, tally.nodup⟩

/-- The elements that have been counted so many times. -/
def countedAs (tally : Tally α) (count : Nat) : OrderedSet α :=
  ⟨(tally.counts.filter fun entry => entry.2 = count).map Prod.fst,
    tally.nodup.sublist (List.filter_sublist.map Prod.fst)⟩

end Tally

end Concordancer
