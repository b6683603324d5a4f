/-!
# Tables over token indices

Tokens are addressed by indices that may have gaps and repetitions.  An index table has one
cell for every index up to the largest one and holds, in each cell, the values recorded for
that index, in the order in which they were recorded.
-/

namespace Concordancer

structure IndexTable (α : Type) where
  cells : Array (List α)

namespace IndexTable

variable {α : Type}

/-- The table with so many cells, all of them empty. -/
def blank (size : Nat) : IndexTable α := ⟨Array.replicate size []⟩

/-- Adds a value to the cell of an index; an index beyond the table has no cell. -/
def record (table : IndexTable α) (index : Nat) (value : α) : IndexTable α :=
  ⟨table.cells.modify index (· ++ [value])⟩

/-- The table of so many cells that holds these entries. -/
def ofEntries (size : Nat) (entries : List (Nat × α)) : IndexTable α :=
  entries.foldl (fun table (index, value) => table.record index value) (blank size)

/-- All values recorded for an index. -/
def all (table : IndexTable α) (index : Nat) : List α := table.cells[index]?.getD []

/-- The value recorded last for an index. -/
def last? (table : IndexTable α) (index : Nat) : Option α := (table.all index).getLast?

@[simp] theorem size_blank (size : Nat) : (blank size : IndexTable α).cells.size = size := by
  simp [blank]

@[simp] theorem size_record (table : IndexTable α) (index : Nat) (value : α) :
    (table.record index value).cells.size = table.cells.size := by
  simp [record]

@[simp] theorem all_blank (size index : Nat) : (blank size : IndexTable α).all index = [] := by
  simp only [all, blank, Array.getElem?_replicate]
  split <;> rfl

theorem all_record (table : IndexTable α) (recorded index : Nat) (value : α) :
    (table.record recorded value).all index =
      table.all index ++ if recorded = index ∧ index < table.cells.size then [value] else [] := by
  simp only [all, record, Array.getElem?_modify]
  by_cases hsame : recorded = index
  · by_cases hbound : index < table.cells.size <;> simp [hsame, hbound]
  · simp [hsame]

private theorem size_foldl_record (entries : List (Nat × α)) (table : IndexTable α) :
    (entries.foldl (fun table (index, value) => table.record index value) table).cells.size =
      table.cells.size := by
  induction entries generalizing table with
  | nil => rfl
  | cons entry rest ih => rw [List.foldl_cons, ih, size_record]

private theorem all_foldl_record (entries : List (Nat × α)) (table : IndexTable α)
    (index : Nat) (hbound : index < table.cells.size) :
    (entries.foldl (fun table (index, value) => table.record index value) table).all index =
      table.all index ++ (entries.filter (·.1 = index)).map (·.2) := by
  induction entries generalizing table with
  | nil => simp
  | cons entry rest ih =>
    rw [List.foldl_cons, ih _ (by simpa using hbound), all_record]
    by_cases hsame : entry.1 = index <;> simp [hsame, hbound]

@[simp] theorem size_ofEntries (size : Nat) (entries : List (Nat × α)) :
    (ofEntries size entries).cells.size = size := by
  rw [ofEntries, size_foldl_record, size_blank]

/-- A table holds, for each index it has a cell for, exactly the values of its entries. -/
theorem all_ofEntries (size : Nat) (entries : List (Nat × α)) {index : Nat}
    (hbound : index < size) :
    (ofEntries size entries).all index = (entries.filter (·.1 = index)).map (·.2) := by
  rw [ofEntries, all_foldl_record _ _ _ (by simpa using hbound), all_blank, List.nil_append]

/-- An index beyond the table has no values. -/
theorem all_of_size_le (table : IndexTable α) {index : Nat}
    (hbound : table.cells.size ≤ index) : table.all index = [] := by
  simp [all, hbound]

end IndexTable

end Concordancer
