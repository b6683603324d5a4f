import Concordancer.Proofs.Presentation.Columns
import Concordancer.Proofs.Presentation.Repetitions

/-!
# Visible numbers and their positions

A visible sentence keeps two tables: the numbers of the visible tokens in sentence order, and for
each number the positions that it has among them.  Rows may stand in any order, their numbers may
leave gaps, and a filter may hide tokens anywhere, also the first, the last, or all of them.  As
long as each row has a number of its own, the tables take each other back: numbers that are kept
correspond one to one to the positions below the size (`visible_numbers_and_positions`).

Steps to the next token count positions.  So many of them lead from a position to the one that is
so much larger, if there is one, and else nowhere; none of them leads elsewhere on the way.

## Strategy

Arranged rows have strictly increasing numbers, and leaving rows out keeps this, so that the
numbers listed are distinct and `Sentence.Positions` has the two tables inverse to each other.  A
step to the next token is one position (`follow_next`); several are as many, by induction from
the last of them.  Once there is no next token there is none later, since positions have no gaps.
-/

namespace Concordancer

/-! ## The numbers that are listed -/

theorem VisibleSentence.at?_eq_none_iff {visible : VisibleSentence} {position : Nat} :
    visible.at? position = none ↔ visible.size ≤ position := by
  rw [← Nat.not_lt, ← exists_at?_iff, ← Option.ne_none_iff_exists', not_not]

namespace Parse.WellNumbered

variable {parse : Parse} {filter : WordFilter} {lexicon : Lexicon} {index position : Nat}

/-- Listed are the numbers of the rows whose words the filter keeps. -/
theorem mem_indices_iff (hnumbered : parse.WellNumbered) :
    index ∈ (parse.visible filter lexicon).indices.toList ↔
      ∃ row ∈ parse.rows, row.index = index ∧ filter.keeps lexicon row.word = true := by
  simp only [indices_visible filter lexicon hnumbered, List.mem_map, List.mem_filter,
    Sentence.mem_arrange]
  constructor
  · rintro ⟨row, ⟨hrow, hkeeps⟩, hindex⟩
    exact ⟨row, hrow, hindex, hkeeps⟩
  · rintro ⟨row, hrow, hindex, hkeeps⟩
    exact ⟨row, ⟨hrow, hkeeps⟩, hindex⟩

theorem indices_strict (hnumbered : parse.WellNumbered) :
    (parse.visible filter lexicon).indices.toList.Pairwise (· < ·) := by
  have hstrict := Sentence.arrange_strict hnumbered.distinct
  rw [indices_visible filter lexicon hnumbered]
  exact List.pairwise_map.mpr (hstrict.sublist List.filter_sublist)

/-- Positions are counted from 0 and leave no gap. -/
theorem exists_position?_iff (hnumbered : parse.WellNumbered) :
    (∃ index, (parse.visible filter lexicon).position? index = some position) ↔
      position < (parse.visible filter lexicon).size := by
  constructor
  · rintro ⟨index, hposition⟩
    exact hnumbered.lt_size_of_position? hposition
  · intro hbound
    obtain ⟨ref, hat⟩ := VisibleSentence.exists_at?_iff.mpr hbound
    exact ⟨ref.index, (hnumbered.at?_eq_some_iff.mp hat).2⟩

end Parse.WellNumbered

/-! ## Steps to the next token -/

namespace Navigator

/-- The tokens that so many steps to the next token lead to, one step after the other. -/
def onwards (navigator : Navigator) (ref : TokenRef) (steps : Nat) : List TokenRef :=
  (fun refs => refs.flatMap (navigator.follow · .next))^[steps] [ref]

theorem onwards_succ (navigator : Navigator) (ref : TokenRef) (steps : Nat) :
    navigator.onwards ref (steps + 1) =
      (navigator.onwards ref steps).flatMap (navigator.follow · .next) :=
  Function.iterate_succ_apply' _ steps [ref]

end Navigator

namespace Treebank

variable {treebank : Treebank} {parse : Parse} {navigator : Navigator} {filter : WordFilter}
  {lexicon : Lexicon} {ref : TokenRef} {position : Nat}

section

variable (hnumbered : parse.WellNumbered) (hparse : treebank.parse? parse.id = some parse)
  (hvisible : navigator.visible = treebank.visible filter lexicon)
  (hat : (parse.visible filter lexicon).at? position = some ref)

include hnumbered hparse hvisible hat

theorem follow_next :
    navigator.follow ref .next = ((parse.visible filter lexicon).at? (position + 1)).toList := by
  obtain ⟨hsentence, hposition⟩ := hnumbered.at?_eq_some_iff.mp hat
  have hfound : navigator.visible.sentence? ref.sentence =
      some (parse.visible filter lexicon) := by
    rw [hvisible, sentence?_visible_eq_parse?, hsentence, hparse, Option.map_some]
  have hnext : navigator.next? ref = (parse.visible filter lexicon).at? (position + 1) := by
    rw [Navigator.next?, hfound, Option.bind_eq_bind, Option.bind_some, hposition,
      Option.bind_eq_bind, Option.bind_some]
  rw [Navigator.follow, hnext]

/-- So many steps lead so many positions on. -/
theorem onwards_eq (steps : Nat) :
    navigator.onwards ref steps =
      ((parse.visible filter lexicon).at? (position + steps)).toList := by
  induction steps with
  | zero =>
      rw [Nat.add_zero, hat]
      rfl
  | succ steps ih =>
      rw [Navigator.onwards_succ, ih]
      cases hreached : (parse.visible filter lexicon).at? (position + steps) with
      | none =>
          -- Positions have no gaps: what lies beyond the last one is beyond it later, too.
          have hsize : (parse.visible filter lexicon).size ≤ position + (steps + 1) :=
            Nat.le_succ_of_le (VisibleSentence.at?_eq_none_iff.mp hreached)
          rw [VisibleSentence.at?_eq_none_iff.mpr hsize]
          rfl
      | some target =>
          rw [Option.toList_some, List.flatMap_singleton,
            follow_next hnumbered hparse hvisible hreached, Nat.add_assoc]

theorem reach_replicate_next {renderer : Renderer} (hnavigator : renderer.navigator = navigator)
    (steps : Nat) :
    renderer.reach [ref] (List.replicate steps .next) = navigator.onwards ref steps := by
  rw [Renderer.reach_eq_image, hnavigator]
  induction steps with
  | zero => rfl
  | succ steps ih =>
      rw [List.replicate_succ', Navigator.image_append, ih, Navigator.onwards_succ]
      show ((navigator.onwards ref steps).flatMap (navigator.follow · .next)).eraseDups = _
      -- At most one token is reached, so none is repeated.
      rw [← Navigator.onwards_succ, onwards_eq hnumbered hparse hvisible hat]
      cases (parse.visible filter lexicon).at? (position + (steps + 1)) <;> rfl

end

end Treebank

/-! ## Both tables -/

/-- **Visible numbers and positions correspond one to one.**  Let the rows of a sentence be
numbered from 1 without repetition, and stand in any order.  Whatever is hidden:

* the numbers listed increase strictly, and they are those of the rows that the filter keeps;
* a token stands at a position if and only if it is one of this sentence and its number has the
  position;
* the positions of numbers are those below the size of the visible sentence, and no others;
* from the token at a position, so many steps to the next token lead to the one at the position
  that is so much larger, and nowhere if there is no such position.  A column with these steps
  comes to the same. -/
theorem Parse.visible_numbers_and_positions (parse : Parse) (hnumbered : parse.WellNumbered)
    (filter : WordFilter) (lexicon : Lexicon) :
    let visible := parse.visible filter lexicon
    (visible.indices.toList.Pairwise (· < ·) ∧
      ∀ index, index ∈ visible.indices.toList ↔
        ∃ row ∈ parse.rows, row.index = index ∧ filter.keeps lexicon row.word = true) ∧
    (∀ position ref, visible.at? position = some ref ↔
      ref.sentence = parse.id ∧ visible.position? ref.index = some position) ∧
    (∀ position, (∃ index, visible.position? index = some position) ↔ position < visible.size) ∧
    ∀ (treebank : Treebank) (renderer : Renderer) (ref : TokenRef) (position steps : Nat),
      treebank.parse? parse.id = some parse →
      renderer.navigator.visible = treebank.visible filter lexicon →
      visible.at? position = some ref →
      renderer.reach [ref] (List.replicate steps .next) = renderer.navigator.onwards ref steps ∧
        (position + steps < visible.size →
          ∃ target, visible.at? (position + steps) = some target ∧
            renderer.navigator.onwards ref steps = [target]) ∧
        (visible.size ≤ position + steps → renderer.navigator.onwards ref steps = []) := by
  intro visible
  refine ⟨⟨hnumbered.indices_strict, fun _ => hnumbered.mem_indices_iff⟩,
    fun _ _ => hnumbered.at?_eq_some_iff, fun _ => hnumbered.exists_position?_iff, ?_⟩
  intro treebank renderer ref position steps hparse hvisible hat
  -- Steps on lead to what stands at the position that is so much larger, if anything does.
  have honwards := Treebank.onwards_eq hnumbered hparse hvisible hat steps
  refine ⟨Treebank.reach_replicate_next hnumbered hparse hvisible hat rfl steps, ?_, ?_⟩
  · intro hbound
    obtain ⟨target, htarget⟩ := VisibleSentence.exists_at?_iff.mpr hbound
    rw [htarget] at honwards
    exact ⟨target, htarget, honwards⟩
  · intro hbound
    rw [VisibleSentence.at?_eq_none_iff.mpr hbound] at honwards
    exact honwards

/-- Where *the* and the comma are hidden, the first and the last number are, and no row has the
number 4.  Two steps lead from *cat* to *he*, and a third one leads nowhere. -/
theorem Parse.visible_numbers_and_positions_sample :
    let parse := Repetition.sampleParse
    let lexicon := Repetition.sampleLexicon.addClosedClass [","]
    let navigator : Navigator := ⟨Treebank.sample.visible ⟨none, true⟩ lexicon, lexicon, 30⟩
    let visible := parse.visible ⟨none, true⟩ lexicon
    parse.WellNumbered ∧ Treebank.sample.parse? parse.id = some parse ∧
      visible.indices.toList = [2, 3, 5] ∧ visible.indices.toList.Pairwise (· < ·) ∧
      visible.at? 0 = some ⟨7, 2⟩ ∧ visible.position? 2 = some 0 ∧
      (∀ position, visible.at? position ≠ some ⟨7, 4⟩) ∧
      navigator.onwards ⟨7, 2⟩ 2 = [⟨7, 5⟩] ∧ navigator.onwards ⟨7, 2⟩ 3 = [] := by
  intro parse lexicon navigator visible
  have hnumbered : parse.WellNumbered := by decide
  have hparse : Treebank.sample.parse? parse.id = some parse := rfl
  have hcat : visible.at? 0 = some ⟨7, 2⟩ := by decide +kernel
  have hhe : visible.at? 2 = some ⟨7, 5⟩ := by decide +kernel
  have hsize : visible.size = 3 := by decide +kernel
  obtain ⟨⟨hstrict, -⟩, hinverse, -, hnext⟩ :=
    visible_numbers_and_positions parse hnumbered ⟨none, true⟩ lexicon
  have honwards := fun steps =>
    (hnext Treebank.sample ⟨navigator, []⟩ ⟨7, 2⟩ 0 steps hparse rfl hcat).2
  refine ⟨hnumbered, hparse, by decide +kernel, hstrict, hcat, ((hinverse _ _).mp hcat).2, ?_, ?_,
    (honwards 3).2 (Nat.le_of_eq hsize)⟩
  · intro position hat
    have hmissing : visible.position? 4 = none := by decide +kernel
    cases hmissing.symm.trans ((hinverse _ _).mp hat).2
  · obtain ⟨target, htarget, hreached⟩ := (honwards 2).1 (by rw [hsize]; decide)
    obtain rfl := Option.some.inj (htarget.symm.trans hhe)
    exact hreached

end Concordancer
