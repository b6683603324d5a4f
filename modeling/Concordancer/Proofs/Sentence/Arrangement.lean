import Concordancer.Sentence
import Mathlib.Data.List.Sort

/-!
# The rows of a sentence in the order of their numbers

`Sentence.arrange` sorts rows by insertion.  It keeps all rows, puts no row in
front of one with a smaller number, and commutes with leaving rows out
(`filter_arrange`), so that rows that share a number keep their order.  Where every row
has a number of its own, the arrangement does not depend on the order in which the rows
were given (`arrange_eq_of_perm`).

`index_lt_tableSize` bounds the numbers of arranged rows by the size of the tables
that are filled from them, so that no entry of a table is lost.
-/

namespace Concordancer.Sentence

/-! ## Sorting by insertion -/

private theorem place_eq_orderedInsert (row : Token) (rows : List Token) :
    place row rows = rows.orderedInsert (fun a b => a.index ≤ b.index) row := by
  induction rows with
  | nil => rfl
  | cons other rest ih => rw [place, List.orderedInsert_cons, ih]

private theorem arrange_eq_insertionSort (rows : List Token) :
    arrange rows = rows.insertionSort fun a b => a.index ≤ b.index := by
  induction rows with
  | nil => rfl
  | cons row rest ih => rw [arrange, ih, place_eq_orderedInsert, List.insertionSort_cons]

theorem arrange_perm (rows : List Token) : (arrange rows).Perm rows := by
  rw [arrange_eq_insertionSort]
  exact List.perm_insertionSort _ rows

@[simp] theorem mem_arrange {row : Token} {rows : List Token} :
    row ∈ arrange rows ↔ row ∈ rows :=
  (arrange_perm rows).mem_iff

theorem arrange_sorted (rows : List Token) :
    (arrange rows).Pairwise fun a b => a.index ≤ b.index := by
  have htotal : Std.Total fun a b : Token => a.index ≤ b.index :=
    ⟨fun a b => Nat.le_total a.index b.index⟩
  have htrans : IsTrans Token fun a b => a.index ≤ b.index :=
    ⟨fun _ _ _ hab hbc => Nat.le_trans hab hbc⟩
  rw [arrange_eq_insertionSort]
  exact List.pairwise_insertionSort _ rows

/-! ## Leaving rows out -/

private theorem place_eq_cons {row : Token} {rows : List Token}
    (hfirst : ∀ other ∈ rows, row.index ≤ other.index) : place row rows = row :: rows := by
  cases rows with
  | nil => rfl
  | cons other rest => rw [place, if_pos (hfirst other List.mem_cons_self)]

private theorem filter_place (keeps : Token → Bool) (row : Token) {rows : List Token}
    (hsorted : rows.Pairwise fun a b => a.index ≤ b.index) :
    (place row rows).filter keeps =
      if keeps row then place row (rows.filter keeps) else rows.filter keeps := by
  induction rows with
  | nil => cases hkeeps : keeps row <;> simp [place, hkeeps]
  | cons other rest ih =>
      obtain ⟨hother, hrest⟩ := List.pairwise_cons.mp hsorted
      by_cases hle : row.index ≤ other.index
      · -- The row goes to the front here, and also in front of those that are kept.
        have hfirst : ∀ later ∈ (other :: rest).filter keeps, row.index ≤ later.index := by
          intro later hlater
          rcases List.mem_cons.mp (List.mem_of_mem_filter hlater) with rfl | hlater
          · exact hle
          · exact hle.trans (hother later hlater)
        rw [place, if_pos hle, List.filter_cons, place_eq_cons hfirst]
      · rw [place, if_neg hle, List.filter_cons, ih hrest]
        cases hkeeps : keeps row <;> cases hkept : keeps other <;>
          simp [hkept, place, hle]

/-- Rows that are left out do not change how the others stand. -/
theorem filter_arrange (keeps : Token → Bool) (rows : List Token) :
    (arrange rows).filter keeps = arrange (rows.filter keeps) := by
  induction rows with
  | nil => rfl
  | cons row rest ih =>
      rw [arrange, filter_place keeps row (arrange_sorted rest), ih, List.filter_cons]
      cases keeps row <;> rfl

theorem arrange_eq_self {rows : List Token}
    (hsorted : rows.Pairwise fun a b => a.index ≤ b.index) : arrange rows = rows := by
  rw [arrange_eq_insertionSort]
  exact hsorted.insertionSort_eq

/-- Rows that share a number keep the order in which they were given. -/
theorem filter_index_arrange (index : Nat) (rows : List Token) :
    (arrange rows).filter (fun row => row.index = index) =
      rows.filter fun row => row.index = index := by
  rw [filter_arrange]
  refine arrange_eq_self (List.pairwise_of_forall_mem_list fun row hrow other hother => ?_)
  have hrow := of_decide_eq_true (List.mem_filter.mp hrow).2
  have hother := of_decide_eq_true (List.mem_filter.mp hother).2
  omega

/-! ## Rows with numbers of their own -/

theorem arrange_strict {rows : List Token} (hdistinct : (rows.map Token.index).Nodup) :
    (arrange rows).Pairwise fun a b => a.index < b.index := by
  have harranged : ((arrange rows).map Token.index).Nodup :=
    ((arrange_perm rows).map Token.index).nodup_iff.mpr hdistinct
  refine ((arrange_sorted rows).and (List.pairwise_map.mp harranged)).imp ?_
  rintro row other ⟨hle, hne⟩
  exact Nat.lt_of_le_of_ne hle hne

/-- The arrangement of rows with distinct numbers forgets the order they were given in. -/
theorem arrange_eq_of_perm {rows others : List Token}
    (hdistinct : (rows.map Token.index).Nodup) (hperm : rows.Perm others) :
    arrange rows = arrange others := by
  refine List.Perm.eq_of_pairwise ?_ (arrange_sorted rows) (arrange_sorted others)
    ((arrange_perm rows).trans (hperm.trans (arrange_perm others).symm))
  intro row other hrow hother hle hge
  exact List.inj_on_of_nodup_map hdistinct (mem_arrange.mp hrow)
    (hperm.mem_iff.mpr (mem_arrange.mp hother)) (Nat.le_antisymm hle hge)

/-! ## The size of the tables -/

/-- A table over arranged rows has a cell for each of their numbers. -/
theorem index_lt_tableSize {arranged : List Token}
    (hsorted : arranged.Pairwise fun a b => a.index ≤ b.index) {row : Token}
    (hrow : row ∈ arranged) : row.index < tableSize arranged := by
  obtain ⟨front, last, rfl⟩ : ∃ front last, arranged = front ++ [last] :=
    ⟨_, _, (List.dropLast_append_getLast (List.ne_nil_of_mem hrow)).symm⟩
  have hle : row.index ≤ last.index := by
    rcases List.mem_append.mp hrow with hfront | hlast
    · exact (List.pairwise_append.mp hsorted).2.2 row hfront last (List.mem_singleton.mpr rfl)
    · rw [List.mem_singleton.mp hlast]
  simpa [tableSize] using Nat.lt_succ_of_le hle

end Concordancer.Sentence
