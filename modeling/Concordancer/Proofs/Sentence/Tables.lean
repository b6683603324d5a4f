import Concordancer.Proofs.Sentence.Arrangement

/-!
# The tables of a sentence

A sentence made from rows holds two tables over numbers: where each number stands,
and which numbers each number governs.  This file reads both back in terms of the
rows alone:

* `token?_ofRows`: a number stands for the last of its rows;
* `dependents_ofRows`: a number governs those whose rows name it, in sentence order.

Neither statement asks anything of the rows.  Where the rows are numbered from 1
and no number is repeated, `token?_ofRows_eq_some_iff` says that the rows and the
tokens are the same.
-/

namespace Concordancer

/-! ## Tables whose entries all have a cell -/

namespace IndexTable

variable {α : Type}

theorem all_ofEntries_of_bounded {size : Nat} {entries : List (Nat × α)}
    (hbounded : ∀ entry ∈ entries, entry.1 < size) (index : Nat) :
    (ofEntries size entries).all index = (entries.filter (·.1 = index)).map (·.2) := by
  by_cases hindex : index < size
  · exact all_ofEntries size entries hindex
  · have hnone : entries.filter (·.1 = index) = [] := by
      refine List.filter_eq_nil_iff.mpr fun entry hentry => ?_
      have := hbounded entry hentry
      simp only [decide_eq_true_eq]
      omega
    rw [hnone, all_of_size_le _ (by simpa using hindex)]
    rfl

end IndexTable

namespace Sentence

variable (id : Nat) (rows : List Token) (metadata : Std.TreeMap String String)

/-! ## Numbers and the tokens they stand for -/

private theorem getLast?_filter_zipIdx_bind {α : Type} (elements : List α) (p : α → Bool) :
    (((elements.zipIdx.filter fun entry => p entry.1).map (·.2)).getLast?.bind
        fun position => elements[position]?) = (elements.filter p).getLast? := by
  have helements : elements.filter p =
      (elements.zipIdx.filter fun entry => p entry.1).map (·.1) := by
    conv_lhs => rw [← List.zipIdx_map_fst 0 elements, List.filter_map]
    rfl
  rw [helements, List.getLast?_map, List.getLast?_map]
  cases hlast : (elements.zipIdx.filter fun entry => p entry.1).getLast? with
  | none => rfl
  | some entry =>
      have hentry : entry ∈ elements.zipIdx :=
        List.mem_of_mem_filter (List.mem_of_getLast? hlast)
      simpa using List.mem_zipIdx_iff_getElem?.mp hentry

/-- A number stands for the last of its rows; the number of the root stands for none. -/
theorem token?_ofRows (index : Nat) :
    (ofRows id rows metadata).token? index =
      ((arrange rows).filter fun row => !row.isRoot && decide (row.index = index)).getLast? := by
  rw [← getLast?_filter_zipIdx_bind]
  simp only [token?, ofRows, IndexTable.last?]
  rw [IndexTable.all_ofEntries_of_bounded]
  · simp only [List.filter_map, List.map_map, List.filter_filter]
    simp [Function.comp_def, Bool.and_comm]
  · intro entry hentry
    obtain ⟨⟨row, position⟩, hrow, rfl⟩ := List.mem_map.mp hentry
    exact index_lt_tableSize (arrange_sorted rows)
      (List.fst_mem_of_mem_zipIdx (List.mem_of_mem_filter hrow))

/-- Numbered from 1 and without repetition, rows and tokens are the same. -/
theorem token?_ofRows_eq_some_iff (hdistinct : (rows.map Token.index).Nodup)
    (hroot : ∀ row ∈ rows, row.isRoot = false) {index : Nat} {row : Token} :
    (ofRows id rows metadata).token? index = some row ↔ row ∈ rows ∧ row.index = index := by
  have hmem : ∀ other, other ∈ ((arrange rows).filter fun row =>
      !row.isRoot && decide (row.index = index)) ↔ other ∈ rows ∧ other.index = index := by
    intro other
    rw [List.mem_filter, mem_arrange]
    constructor
    · rintro ⟨hother, hindex⟩
      exact ⟨hother, by simpa using And.right (Bool.and_eq_true_iff.mp hindex)⟩
    · rintro ⟨hother, hindex⟩
      exact ⟨hother, by simp [hroot other hother, hindex]⟩
  rw [token?_ofRows]
  constructor
  · intro hlast
    exact (hmem row).mp (List.mem_of_getLast? hlast)
  · intro hrow
    have hne := List.ne_nil_of_mem ((hmem row).mpr hrow)
    obtain ⟨hlast, hindex⟩ := (hmem _).mp (List.getLast_mem hne)
    rw [List.getLast?_eq_some_getLast hne, List.inj_on_of_nodup_map hdistinct hlast hrow.1
      (hindex.trans hrow.2.symm)]

/-! ## Governors and dependents -/

/-- A number governs those whose rows name it; a governor beyond the last row is no one. -/
theorem dependents_ofRows (index : Nat) :
    (ofRows id rows metadata).dependents index =
      if index < tableSize (arrange rows) then
        ((arrange rows).filter fun row => !row.isRoot && decide (row.governor = index)).map
          Token.index
      else [] := by
  simp only [dependents, ofRows]
  split
  · next hindex =>
      rw [IndexTable.all_ofEntries _ _ hindex]
      simp [List.filter_map, Function.comp_def, Bool.and_comm]
  · next hindex => exact IndexTable.all_of_size_le _ (by simpa using hindex)

theorem dependents_sublist (index : Nat) :
    ((ofRows id rows metadata).dependents index).Sublist ((arrange rows).map Token.index) := by
  rw [dependents_ofRows]
  split
  · exact List.filter_sublist.map Token.index
  · exact List.nil_sublist _

end Sentence

end Concordancer
