import Concordancer.Proofs.Corpus.Treebank
import Mathlib.Data.List.Count

/-!
# The rows that stand for tokens

Nothing keeps two parses from sharing an identifier, or two rows of a parse from sharing a
number.  A number stands for the last row that has it (`token?_sentence_eq_some_iff`), and a
reference for the last such row of the last such parse (`token?_corpus_eq_some_iff`).  The
others are shadowed.  Where the identifier and the number are not repeated, nothing is
(`StandsAt.standsLastAt`).
-/

namespace Concordancer

/-! ## The last of its kind -/

/-- The last in a list that has a property. -/
def LastWith {α : Type} (has : α → Prop) (x : α) (xs : List α) : Prop :=
  has x ∧ ∃ before after, xs = before ++ x :: after ∧ ∀ y ∈ after, ¬ has y

section LastWith

variable {α : Type} {has : α → Prop} {x : α} {xs : List α}

/-- A search from the end finds it. -/
theorem find?_reverse_eq_some_iff_lastWith [DecidablePred has] :
    xs.reverse.find? (fun y => has y) = some x ↔ LastWith has x xs := by
  simp only [LastWith, List.find?_eq_some_iff_append, decide_eq_true_eq, Bool.not_eq_true',
    decide_eq_false_iff_not]
  refine and_congr_right fun _ => ?_
  constructor
  · rintro ⟨behind, front, hxs, hbehind⟩
    refine ⟨front.reverse, behind.reverse, ?_, fun y hy => hbehind y (List.mem_reverse.mp hy)⟩
    rw [← List.reverse_reverse xs, hxs]
    simp
  · rintro ⟨before, after, rfl, hafter⟩
    refine ⟨after.reverse, before.reverse, ?_, fun y hy => hafter y (List.mem_reverse.mp hy)⟩
    simp

theorem LastWith.mem (hlast : LastWith has x xs) : x ∈ xs := by
  obtain ⟨-, before, after, rfl, -⟩ := hlast
  exact List.mem_append_right before List.mem_cons_self

theorem lastWith_of_count_le_one {key : α → Nat} {wanted : Nat} (hx : x ∈ xs)
    (hkey : key x = wanted) (hcount : (xs.map key).count wanted ≤ 1) :
    LastWith (key · = wanted) x xs := by
  obtain ⟨before, after, rfl⟩ := List.append_of_mem hx
  refine ⟨hkey, before, after, rfl, fun y hy hsame => ?_⟩
  have hafter : 0 < (after.map key).count wanted :=
    List.count_pos_iff.mpr (List.mem_map.mpr ⟨y, hy, hsame⟩)
  rw [List.map_append, List.map_cons, List.count_append, hkey, List.count_cons_self] at hcount
  omega

end LastWith

/-! ## Rows of a parse -/

namespace Parse

variable {parse : Parse} {index : Nat} {row : Token}

/-- The rows of a number, in the order in which they are given.  Those numbered 0 stand for
nothing. -/
def rowsOf (parse : Parse) (index : Nat) : List Token :=
  parse.rows.filter fun row => !row.isRoot && decide (row.index = index)

/-- A number stands for the last of its rows. -/
theorem token?_sentence_eq_getLast? (parse : Parse) (index : Nat) :
    parse.sentence.token? index = (parse.rowsOf index).getLast? := by
  -- Sorting is stable, so that the rows of one number stay in their order.
  calc
    parse.sentence.token? index
      = (((Sentence.arrange parse.rows).filter fun row => row.index = index).filter
          fun row => !row.isRoot).getLast? := by
        rw [sentence, Sentence.token?_ofRows, List.filter_filter]
    _ = ((parse.rows.filter fun row => row.index = index).filter
          fun row => !row.isRoot).getLast? := by
        rw [Sentence.filter_index_arrange]
    _ = (parse.rowsOf index).getLast? := by
        rw [List.filter_filter, rowsOf]

/-- A number other than 0 stands for the last row that has it. -/
theorem token?_sentence_eq_some_iff :
    parse.sentence.token? index = some row ↔
      index ≠ rootIndex ∧ LastWith (fun other => other.index = index) row parse.rows := by
  have hroot : ∀ row : Token, (row.isRoot = false ∧ row.index = index) ↔
      (index ≠ rootIndex ∧ row.index = index) := by
    intro row
    simp only [Token.isRoot, beq_eq_false_iff_ne]
    constructor <;> rintro ⟨hne, rfl⟩ <;> exact ⟨hne, rfl⟩
  have hrows : parse.sentence.token? index =
      parse.rows.reverse.find? fun row : Token => row.isRoot = false ∧ row.index = index := by
    rw [token?_sentence_eq_getLast?, rowsOf, List.getLast?_filter]
    simp
  rw [hrows, find?_reverse_eq_some_iff_lastWith]
  simp only [LastWith, hroot]
  by_cases hindex : index = rootIndex <;> simp [hindex]

theorem token?_root (parse : Parse) : parse.sentence.token? rootIndex = none := by
  rw [Option.eq_none_iff_forall_ne_some]
  intro row htoken
  obtain ⟨hroot, -⟩ := token?_sentence_eq_some_iff.mp htoken
  exact hroot rfl

end Parse

namespace Treebank

/-! ## Rows of a treebank -/

/-- The row has this address, whether or not it is shadowed. -/
def StandsAt (treebank : Treebank) (row : Token) (ref : TokenRef) : Prop :=
  ∃ parse ∈ treebank.parses, parse.id = ref.sentence ∧ row ∈ parse.rows ∧ row.index = ref.index

/-- The row has this address, and is not shadowed: no later parse has the identifier, and no
later row of its parse has the number. -/
def StandsLastAt (treebank : Treebank) (row : Token) (ref : TokenRef) : Prop :=
  ∃ parse, LastWith (fun other => other.id = ref.sentence) parse treebank.parses ∧
    LastWith (fun other => other.index = ref.index) row parse.rows

/-- No two parses share the identifier, and no two rows there share the number. -/
structure IsUnrepeated (treebank : Treebank) (ref : TokenRef) : Prop where
  sentence : (treebank.parses.map Parse.id).count ref.sentence ≤ 1
  index : ∀ parse ∈ treebank.parses, parse.id = ref.sentence →
    (parse.rows.map Token.index).count ref.index ≤ 1

variable {treebank : Treebank} {ref : TokenRef} {row : Token}

theorem StandsLastAt.standsAt (hrow : treebank.StandsLastAt row ref) :
    treebank.StandsAt row ref := by
  obtain ⟨parse, hparse, hlast⟩ := hrow
  exact ⟨parse, hparse.mem, hparse.1, hlast.mem, hlast.1⟩

theorem StandsAt.standsLastAt (hrow : treebank.StandsAt row ref)
    (hunrepeated : treebank.IsUnrepeated ref) : treebank.StandsLastAt row ref := by
  obtain ⟨parse, hparse, hid, hmem, hindex⟩ := hrow
  refine ⟨parse, ?_, ?_⟩
  · exact lastWith_of_count_le_one hparse hid hunrepeated.sentence
  · exact lastWith_of_count_le_one hmem hindex (hunrepeated.index parse hparse hid)

/-- A reference stands for the row that is not shadowed. -/
theorem token?_corpus_eq_some_iff :
    treebank.corpus.token? ref = some row ↔
      ref.isRoot = false ∧ treebank.StandsLastAt row ref := by
  have hroot : ref.isRoot = false ↔ ref.index ≠ rootIndex := by
    simp [TokenRef.isRoot]
  have hparse : ∀ parse, treebank.parse? ref.sentence = some parse ↔
      LastWith (fun other => other.id = ref.sentence) parse treebank.parses :=
    fun parse => find?_reverse_eq_some_iff_lastWith
  rw [Corpus.token?, sentence?_eq_parse?, StandsLastAt, hroot, Option.bind_eq_some_iff]
  simp only [Option.map_eq_some_iff, hparse]
  constructor
  · rintro ⟨-, ⟨parse, hlast, rfl⟩, htoken⟩
    obtain ⟨hne, hrow⟩ := Parse.token?_sentence_eq_some_iff.mp htoken
    exact ⟨hne, parse, hlast, hrow⟩
  · rintro ⟨hne, parse, hlast, hrow⟩
    exact ⟨parse.sentence, ⟨parse, hlast, rfl⟩,
      Parse.token?_sentence_eq_some_iff.mpr ⟨hne, hrow⟩⟩

end Treebank

end Concordancer
