import Concordancer.Proofs.Navigation

/-!
# Governors and dependents

From a token, a role leads to its governor or to its dependents.  The two are found in
different ways.  The governor is read from the row that stands at the number of the token;
dependents are listed in a table that was filled from all rows when the sentence was made,
and that has no cell for a governor beyond the last number.

Both say the same among tokens that are shown (`resolve_converse`), in a sentence whose rows
are numbered from 1 without repetition.  Nothing is asked of the governors in the rows.
They may name the row itself, form circles, or name a number that no row has.

## Strategy

`Navigation` has the converse for the numbers of one sentence.  What remains is the lists
that a role gives: dependents are a part of the arranged rows, which are in strictly
increasing order (`dependents_strict`), and what is hidden is filtered out of the list
without moving the others.
-/

namespace Concordancer

/-! ## Lists of numbers in one sentence -/

namespace Parse.WellNumbered

variable {parse : Parse}

/-- Dependents are listed by increasing numbers. -/
theorem dependents_strict (hnumbered : parse.WellNumbered) (index : Nat) :
    (parse.sentence.dependents index).Pairwise (· < ·) := by
  have hstrict : ((Sentence.arrange parse.rows).map Token.index).Pairwise (· < ·) :=
    List.pairwise_map.mpr (Sentence.arrange_strict hnumbered.distinct)
  exact hstrict.sublist (Sentence.dependents_sublist _ _ _ index)

theorem nodup_inRole (hnumbered : parse.WellNumbered) (role : Role) (index : Nat) :
    (parse.sentence.inRole role index).Nodup := by
  cases role with
  | self => exact List.nodup_singleton index
  | governor =>
      rw [Sentence.inRole]
      cases parse.sentence.governor? index with
      | none => exact List.nodup_nil
      | some governor => exact List.nodup_singleton governor
  | dependent => exact (hnumbered.dependents_strict index).imp Nat.ne_of_lt

theorem mem_inRole_governor (hnumbered : parse.WellNumbered) {index other : Nat} :
    other ∈ parse.sentence.inRole .governor index ↔
      ∃ row ∈ parse.rows, row.index = index ∧ row.governor = other := by
  rw [Sentence.inRole, Option.mem_toList, Sentence.governor?, Option.map_eq_some_iff]
  simp only [hnumbered.token?_sentence, and_assoc]

end Parse.WellNumbered

/-! ## Lists of tokens that are shown -/

namespace Treebank

variable {treebank : Treebank} {filter : WordFilter} {lexicon : Lexicon} {navigator : Navigator}
  {parse : Parse} {ref other : TokenRef}

section

variable (hvisible : navigator.visible = treebank.visible filter lexicon)
  (hparse : treebank.parse? ref.sentence = some parse) (hnumbered : parse.WellNumbered)

include hvisible hparse hnumbered

theorem nodup_resolve (role : Role) : (navigator.resolve ref role).Nodup := by
  rw [resolve_of_parse? hvisible hparse]
  apply List.Nodup.map
  · intro first second heq
    exact congrArg TokenRef.index heq
  · exact (hnumbered.nodup_inRole role ref.index).filter _

theorem resolve_dependent_strict :
    (navigator.resolve ref .dependent).Pairwise fun first second =>
      first.index < second.index := by
  rw [resolve_of_parse? hvisible hparse, List.pairwise_map]
  exact (hnumbered.dependents_strict ref.index).filter _

omit hnumbered in
theorem length_resolve_governor_le : (navigator.resolve ref .governor).length ≤ 1 := by
  rw [resolve_of_parse? hvisible hparse, List.length_map]
  calc ((parse.sentence.governor? ref.index).toList.filter
          (parse.visible filter lexicon).shows).length
      ≤ (parse.sentence.governor? ref.index).toList.length := List.length_filter_le _ _
    _ ≤ 1 := Option.length_toList_le

/-- A shown token of the sentence is the governor if the row says so. -/
theorem mem_resolve_governor (hsame : other.sentence = ref.sentence)
    (hshows : navigator.visible.shows other = true) :
    other ∈ navigator.resolve ref .governor ↔
      ∃ row ∈ parse.rows, row.index = ref.index ∧ row.governor = other.index := by
  rw [mem_resolve_of_parse? hvisible hparse, ← hnumbered.mem_inRole_governor]
  simp only [hsame, hshows, true_and, and_true]

end

/-- **Governors and dependents are converses among what is shown.**  Let an identifier stand
for a well-numbered parse, whatever its governors are.  Of two tokens of the sentence that are
shown, its root included, one is in a role to the other if and only if the other is in the
inverse role to it.  One is the governor of the other if the row of the other names it.

A role to a token leads to tokens of the same sentence that are shown, to each once; it
lists dependents by increasing numbers, and no more than one governor. -/
theorem resolve_converse (treebank : Treebank) (filter : WordFilter) (lexicon : Lexicon)
    (distanceLimit : Nat) {id : Nat} {parse : Parse}
    (hparse : treebank.parse? id = some parse) (hnumbered : parse.WellNumbered) :
    let navigator : Navigator := ⟨treebank.visible filter lexicon, lexicon, distanceLimit⟩
    (∀ ref other : TokenRef, ref.sentence = id → other.sentence = id →
      navigator.visible.shows ref = true → navigator.visible.shows other = true →
        (∀ role, other ∈ navigator.resolve ref role ↔
          ref ∈ navigator.resolve other role.inverse) ∧
        (other ∈ navigator.resolve ref .governor ↔
          ∃ row ∈ parse.rows, row.index = ref.index ∧ row.governor = other.index)) ∧
    ∀ ref : TokenRef, ref.sentence = id →
      (∀ role, (navigator.resolve ref role).Nodup ∧
        ∀ other ∈ navigator.resolve ref role,
          other.sentence = id ∧ navigator.visible.shows other = true) ∧
      (navigator.resolve ref .dependent).Pairwise (fun first second => first.index < second.index) ∧
      (navigator.resolve ref .governor).length ≤ 1 := by
  intro navigator
  constructor
  · -- For a pair of tokens the number of the row is enough, as no two rows share it.
    rintro ref other rfl hsame href hother
    constructor
    · intro role
      exact mem_resolve_inverse rfl hparse hnumbered role href hother
    · exact mem_resolve_governor rfl hparse hnumbered hsame hother
  · rintro ref rfl
    refine ⟨fun role => ⟨nodup_resolve rfl hparse hnumbered role, fun other hother => ?_⟩,
      resolve_dependent_strict rfl hparse hnumbered, length_resolve_governor_le rfl hparse⟩
    obtain ⟨hsame, -, hshows⟩ := (mem_resolve_of_parse? rfl hparse).mp hother
    exact ⟨hsame, hshows⟩

/-- *cat* and *sat* govern each other, and both ways back are there; *the* is hidden and is not
listed with the dependents of *cat*. -/
theorem resolve_converse_circle :
    ∃ parse, sample.parse? 7 = some parse ∧ parse.WellNumbered ∧
      let lexicon := Lexicon.empty.addClosedClass ["the"]
      let navigator : Navigator := ⟨sample.visible ⟨none, true⟩ lexicon, lexicon, 30⟩
      navigator.visible.shows ⟨7, 2⟩ = true ∧ navigator.visible.shows ⟨7, 3⟩ = true ∧
        ⟨7, 3⟩ ∈ navigator.resolve ⟨7, 2⟩ .governor ∧
        ⟨7, 2⟩ ∈ navigator.resolve ⟨7, 3⟩ .dependent ∧
        ⟨7, 2⟩ ∈ navigator.resolve ⟨7, 3⟩ .governor ∧
        navigator.resolve ⟨7, 2⟩ .dependent = [⟨7, 3⟩] ∧
        (navigator.resolve ⟨7, 2⟩ .governor).length ≤ 1 := by
  obtain ⟨parse, hparse⟩ : ∃ parse, sample.parse? 7 = some parse := ⟨_, rfl⟩
  have hnumbered : parse.WellNumbered := by
    have hall : sample.WellNumbered := by decide
    exact hall.parses parse (mem_of_parse? hparse)
  obtain ⟨hconverse, hlists⟩ := resolve_converse sample ⟨none, true⟩
    (Lexicon.empty.addClosedClass ["the"]) 30 hparse hnumbered
  have hshown : ∀ index ∈ [2, 3], (sample.visible ⟨none, true⟩
      (Lexicon.empty.addClosedClass ["the"])).shows ⟨7, index⟩ = true := by
    decide +kernel
  have hcat := hshown 2 (by decide)
  have hsat := hshown 3 (by decide)
  obtain ⟨hroles, -⟩ := hconverse ⟨7, 2⟩ ⟨7, 3⟩ rfl rfl hcat hsat
  obtain ⟨-, -, hgovernors⟩ := hlists ⟨7, 2⟩ rfl
  refine ⟨parse, hparse, hnumbered, hcat, hsat, ?_, ?_, ?_, ?_, hgovernors⟩
  · decide +kernel
  · apply (hroles .governor).mp
    decide +kernel
  · apply (hroles .dependent).mp
    decide +kernel
  · decide +kernel

end Treebank

end Concordancer
