import Concordancer.Proofs.Corpus.LastRows

/-!
# The table of dependents

A sentence says twice who governs whom.  The governor of a number is read from the token that
the number stands for, which is the last of its rows.  The dependents of a number are listed in a
table, and into that table every row was entered.

So a number is listed once for each of its rows that names the governor (`count_dependents`).
The shadowed rows are among them, although nobody reads a governor from them
(`count_dependents_eq_add`).  The table is the inverse of the governors where no shadowed row
names one in range, and nowhere else (`listsDependents_iff`).  In particular it is where no two
rows share a number.  The order of the rows, gaps between their numbers, rows numbered 0 and
governors without a row do no harm.

## Strategy

Each cell of the table is in order because the rows are arranged before they are entered
(`dependents_sorted`).  All else is counting: a list in order is strictly increasing if nothing
is in it twice, and what is in it is what is counted at least once.
-/

namespace Concordancer

namespace Parse

/-! ## Numbers in range and shadowed rows -/

/-- Some row has this number or a larger one. -/
def InRange (parse : Parse) (index : Nat) : Prop :=
  ∃ row ∈ parse.rows, index ≤ row.index

instance (parse : Parse) (index : Nat) : Decidable (parse.InRange index) :=
  inferInstanceAs (Decidable (∃ row ∈ parse.rows, index ≤ row.index))

/-- The rows of a number without the one that it stands for. -/
def shadowed (parse : Parse) (index : Nat) : List Token :=
  (parse.rowsOf index).dropLast

/-- No two rows share a number, other than 0. -/
def DistinctlyNumbered (parse : Parse) : Prop :=
  ((parse.rows.filter fun row => !row.isRoot).map Token.index).Nodup

instance (parse : Parse) : Decidable parse.DistinctlyNumbered :=
  inferInstanceAs (Decidable (List.Nodup _))

/-- The dependents of a number are those whose governor it is, each listed once and in
increasing order. -/
structure ListsDependents (parse : Parse) (governor : Nat) : Prop where
  increasing : (parse.sentence.dependents governor).Pairwise (· < ·)
  mem_iff : ∀ index, index ∈ parse.sentence.dependents governor ↔
    parse.sentence.governor? index = some governor

variable {parse : Parse} {governor : Nat}

theorem DistinctlyNumbered.shadowed_eq_nil (hdistinct : parse.DistinctlyNumbered) (index : Nat) :
    parse.shadowed index = [] := by
  have hlength : (parse.rowsOf index).length ≤ 1 := by
    calc (parse.rowsOf index).length
        = ((parse.rows.filter fun row => !row.isRoot).map Token.index).count index := by
          rw [rowsOf, ← List.countP_eq_length_filter, List.count, List.countP_map,
            List.countP_filter]
          exact List.countP_congr fun row _ => by simp [and_comm]
      _ ≤ 1 := List.nodup_iff_count_le_one.mp hdistinct index
  apply List.eq_nil_of_length_eq_zero
  rw [shadowed, List.length_dropLast]
  omega

/-! ## What the table lists -/

/-- In range, the table has a cell into which all rows with this governor were entered. -/
theorem dependents_of_inRange (hrange : parse.InRange governor) :
    parse.sentence.dependents governor =
      ((Sentence.arrange parse.rows).filter fun row =>
        !row.isRoot && decide (row.governor = governor)).map Token.index := by
  obtain ⟨row, hrow, hle⟩ := hrange
  have hcell : governor < Sentence.tableSize (Sentence.arrange parse.rows) :=
    hle.trans_lt (Sentence.index_lt_tableSize (Sentence.arrange_sorted parse.rows)
      (Sentence.mem_arrange.mpr hrow))
  rw [sentence, Sentence.dependents_ofRows, if_pos hcell]

theorem dependents_of_not_inRange (hrange : ¬ parse.InRange governor) :
    parse.sentence.dependents governor = [] := by
  rw [sentence, Sentence.dependents_ofRows]
  cases hlast : (Sentence.arrange parse.rows).getLast? with
  | none => simp [List.getLast?_eq_none_iff.mp hlast]
  | some row =>
      have hrow : row ∈ parse.rows := Sentence.mem_arrange.mp (List.mem_of_getLast? hlast)
      have hbeyond : row.index < governor := by
        by_contra hle
        exact hrange ⟨row, hrow, Nat.le_of_not_lt hle⟩
      -- The table ends with the last row in order, which has the largest number.
      have hsize : Sentence.tableSize (Sentence.arrange parse.rows) = row.index + 1 := by
        simp [Sentence.tableSize, hlast]
      rw [if_neg (by omega)]

theorem dependents_sorted (parse : Parse) (governor : Nat) :
    (parse.sentence.dependents governor).Pairwise (· ≤ ·) := by
  have hsorted : ((Sentence.arrange parse.rows).map Token.index).Pairwise (· ≤ ·) :=
    List.pairwise_map.mpr (Sentence.arrange_sorted parse.rows)
  exact hsorted.sublist (Sentence.dependents_sublist _ _ _ governor)

/-! ## How often it lists them -/

/-- A number is listed once for each of its rows that names the governor. -/
theorem count_dependents (hrange : parse.InRange governor) (index : Nat) :
    (parse.sentence.dependents governor).count index =
      (parse.rowsOf index).countP fun row => row.governor = governor := by
  rw [dependents_of_inRange hrange, List.count, List.countP_map, List.countP_filter,
    (Sentence.arrange_perm parse.rows).countP_eq, rowsOf, List.countP_filter]
  refine List.countP_congr fun row _ => ?_
  simp only [Function.comp_apply, beq_iff_eq, Bool.and_eq_true, decide_eq_true_eq]
  tauto

private theorem countP_eq_countP_dropLast_add {α : Type} (p : α → Bool) (xs : List α) :
    xs.countP p = xs.dropLast.countP p + if xs.getLast?.any p then 1 else 0 := by
  rcases xs.eq_nil_or_concat' with rfl | ⟨front, last, rfl⟩
  · rfl
  · rw [List.countP_append, List.countP_singleton, List.dropLast_concat, List.getLast?_concat,
      Option.any_some]

/-- It is listed for its token, if that has the governor, and once more for each shadowed row
that names it. -/
theorem count_dependents_eq_add (hrange : parse.InRange governor) (index : Nat) :
    (parse.sentence.dependents governor).count index =
      ((parse.shadowed index).countP fun row => row.governor = governor) +
        if parse.sentence.governor? index = some governor then 1 else 0 := by
  have htoken : ((parse.rowsOf index).getLast?.any fun row => row.governor = governor) = true ↔
      parse.sentence.governor? index = some governor := by
    rw [Sentence.governor?, token?_sentence_eq_getLast?, Option.any_eq_true,
      Option.map_eq_some_iff]
    simp only [decide_eq_true_eq]
  rw [count_dependents hrange, countP_eq_countP_dropLast_add, shadowed]
  simp only [htoken]

/-! ## When it is the inverse of the governors -/

/-- The table is right about a number if and only if no shadowed row names that number. -/
theorem listsDependents_iff (hrange : parse.InRange governor) :
    parse.ListsDependents governor ↔
      ∀ index, ∀ row ∈ parse.shadowed index, row.governor ≠ governor := by
  constructor
  · -- A shadowed row is listed, so its number has that governor and is listed for its token, too.
    rintro ⟨hincreasing, hmem⟩ index row hrow rfl
    have honce : (parse.sentence.dependents row.governor).count index ≤ 1 :=
      List.nodup_iff_count_le_one.mp (hincreasing.imp Nat.ne_of_lt) index
    have hshadowed : 0 < (parse.shadowed index).countP fun other =>
        other.governor = row.governor :=
      List.countP_pos_iff.mpr ⟨row, hrow, by simp⟩
    have hcount := count_dependents_eq_add hrange index
    have hlisted : index ∈ parse.sentence.dependents row.governor :=
      List.count_pos_iff.mp (by omega)
    rw [if_pos ((hmem index).mp hlisted)] at hcount
    omega
  · -- With no shadowed row to count, a number is listed just where it has the governor.
    intro hnone
    have hcount : ∀ index, (parse.sentence.dependents governor).count index =
        if parse.sentence.governor? index = some governor then 1 else 0 := by
      intro index
      have hshadowed : ((parse.shadowed index).countP fun row => row.governor = governor) = 0 :=
        List.countP_eq_zero.mpr fun row hrow => by simpa using hnone index row hrow
      rw [count_dependents_eq_add hrange, hshadowed, Nat.zero_add]
    constructor
    · have hnodup : (parse.sentence.dependents governor).Nodup := by
        refine List.nodup_iff_count_le_one.mpr fun index => ?_
        rw [hcount]
        split <;> omega
      exact ((parse.dependents_sorted governor).and hnodup).imp fun ⟨hle, hne⟩ =>
        Nat.lt_of_le_of_ne hle hne
    · intro index
      rw [← List.count_pos_iff, hcount]
      by_cases hgovernor : parse.sentence.governor? index = some governor <;> simp [hgovernor]

/-- **Dependents and governors.**  Let the rows of a parse come in any order, with gaps between
their numbers, repeated numbers and rows numbered 0.  Beyond the largest number no dependents are
listed, and what is listed is in the order of the numbers.  In range of the numbers, a number is
listed with a governor once if that is the governor of its token, and once more for each shadowed
row that names it.

Hence the dependents of a number in range are exactly those whose governor it is, listed once and
in increasing order, if and only if no shadowed row names it.  This holds of all numbers in range
where no two rows share a number. -/
theorem listsDependents_unless_shadowed (parse : Parse) :
    (∀ governor, ¬ parse.InRange governor → parse.sentence.dependents governor = []) ∧
    (∀ governor, (parse.sentence.dependents governor).Pairwise (· ≤ ·)) ∧
    (∀ governor, parse.InRange governor →
      (∀ index, (parse.sentence.dependents governor).count index =
        ((parse.shadowed index).countP fun row => row.governor = governor) +
          if parse.sentence.governor? index = some governor then 1 else 0) ∧
      (parse.ListsDependents governor ↔
        ∀ index, ∀ row ∈ parse.shadowed index, row.governor ≠ governor)) ∧
    (parse.DistinctlyNumbered →
      ∀ governor, parse.InRange governor → parse.ListsDependents governor) := by
  refine ⟨fun governor => dependents_of_not_inRange, parse.dependents_sorted,
    fun governor hrange => ⟨count_dependents_eq_add hrange, listsDependents_iff hrange⟩, ?_⟩
  intro hdistinct governor hrange
  rw [listsDependents_iff hrange]
  intro index row hrow
  rw [hdistinct.shadowed_eq_nil] at hrow
  exact absurd hrow List.not_mem_nil

/-- Rows out of order, without a row 2, with two rows numbered 0 and a governor that no row has. -/
def swimming : Parse where
  id := 1
  rows := [
    Token.parsed 3 "swims" "swim" "VBZ" 0 "root",
    Token.parsed 0 "ROOT" "root" "ROOT" 3 "root",
    Token.parsed 4 "fast" "fast" "RB" 9 "advmod",
    Token.parsed 1 "He" "he" "PRP" 3 "nsubj",
    Token.parsed 0 "ROOT" "root" "ROOT" 1 "root"]
  metadata := ∅

theorem listsDependents_unless_shadowed_swimming :
    swimming.DistinctlyNumbered ∧ swimming.InRange 3 ∧ swimming.ListsDependents 3 ∧
      swimming.sentence.dependents 3 = [1] ∧ swimming.sentence.dependents 0 = [3] ∧
      ¬ swimming.InRange 9 ∧ swimming.sentence.dependents 9 = [] := by
  have hdistinct : swimming.DistinctlyNumbered := by decide
  have hrange : swimming.InRange 3 := by decide
  have hbeyond : ¬ swimming.InRange 9 := by decide
  obtain ⟨hnone, -, -, hlists⟩ := listsDependents_unless_shadowed swimming
  exact ⟨hdistinct, hrange, hlists hdistinct 3 hrange, by decide +kernel, by decide +kernel,
    hbeyond, hnone 9 hbeyond⟩

/-- Two rows are repeated, one as it was and one with another governor. -/
def repeatedSwimming : Parse where
  id := 1
  rows := [
    Token.parsed 1 "He" "he" "PRP" 3 "nsubj",
    Token.parsed 1 "He" "he" "PRP" 3 "nsubj",
    Token.parsed 2 "can" "can" "MD" 1 "aux",
    Token.parsed 2 "can" "can" "MD" 3 "aux",
    Token.parsed 3 "swim" "swim" "VB" 0 "root"]
  metadata := ∅

/-- *He* is listed twice, and *can* also with a governor that it does not have. -/
theorem dependents_repeatedSwimming :
    repeatedSwimming.InRange 3 ∧ repeatedSwimming.sentence.dependents 3 = [1, 1, 2] ∧
      repeatedSwimming.sentence.dependents 1 = [2] ∧
      repeatedSwimming.sentence.governor? 2 = some 3 ∧
      ¬ repeatedSwimming.ListsDependents 3 ∧ ¬ repeatedSwimming.ListsDependents 1 := by
  have hthree : repeatedSwimming.sentence.dependents 3 = [1, 1, 2] := by decide +kernel
  have hone : repeatedSwimming.sentence.dependents 1 = [2] := by decide +kernel
  have hgovernor : repeatedSwimming.sentence.governor? 2 = some 3 := by decide +kernel
  refine ⟨by decide, hthree, hone, hgovernor, fun hlists => ?_, fun hlists => ?_⟩
  · have hincreasing := hlists.increasing
    rw [hthree] at hincreasing
    exact absurd hincreasing (by decide)
  · have hlisted : 2 ∈ repeatedSwimming.sentence.dependents 1 := by
      rw [hone]
      exact List.mem_singleton_self 2
    rw [hlists.mem_iff, hgovernor] at hlisted
    exact absurd hlisted (by decide)

end Parse

end Concordancer
