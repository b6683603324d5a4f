import Concordancer.Navigator
import Concordancer.Proofs.Corpus.Treebank

/-!
# Where a navigator leads

`mem_resolve` and `shift_eq_some_iff` say for every navigator which tokens a role and
a shift lead to.  Two moves can be taken back:

* a role by its inverse (`mem_resolve_inverse`).  Forwards a role reads the governor
  of a row, backwards the table of dependents, which was filled from all rows at
  once; the two agree on every number the table has a cell for
  (`mem_dependents_iff`), and shown numbers have one;
* a shift by the opposite shift (`shift_neg`), from a token that is shown.  A shift leads to
  the token that is so far apart if only this one is shown (`shift_eq_some_iff_apart`).

The first needs a well-numbered treebank: a repeated number has one token and many rows.
-/

namespace Concordancer

/-! ## Relations inside a sentence -/

/-- The numbers in a role to a number, whether they are shown or not. -/
def Sentence.inRole (sentence : Sentence) (role : Role) (index : Nat) : List Nat :=
  match role with
  | .self => [index]
  | .governor => (sentence.governor? index).toList
  | .dependent => sentence.dependents index

theorem Sentence.walk_congr {first second : Sentence}
    (hgovernor : ∀ index, first.governor? index = second.governor? index) (steps index : Nat) :
    first.walk steps index = second.walk steps index := by
  induction steps generalizing index with
  | zero => cases index <;> rfl
  | succ steps ih =>
      cases index with
      | zero => rfl
      | succ index =>
          rw [walk, walk, hgovernor]
          cases second.governor? (index + 1) with
          | none => rfl
          | some governor => exact ih governor

namespace Parse

variable {parse : Parse}

/-- Dependents are listed where the table has a cell for their governor. -/
theorem WellNumbered.mem_dependents_iff (hnumbered : parse.WellNumbered) {index dependent : Nat}
    (hbound : index < Sentence.tableSize (Sentence.arrange parse.rows)) :
    dependent ∈ parse.sentence.dependents index ↔
      parse.sentence.governor? dependent = some index := by
  rw [sentence, Sentence.dependents_ofRows, if_pos hbound, hnumbered.filter_isRoot,
    Sentence.governor?, Option.map_eq_some_iff, ← sentence]
  simp only [List.mem_map, List.mem_filter, Sentence.mem_arrange, decide_eq_true_eq,
    hnumbered.token?_sentence]
  constructor
  · rintro ⟨row, ⟨hrow, hgovernor⟩, hindex⟩
    exact ⟨row, ⟨hrow, hindex⟩, hgovernor⟩
  · rintro ⟨row, ⟨hrow, hindex⟩, hgovernor⟩
    exact ⟨row, ⟨hrow, hgovernor⟩, hindex⟩

/-- The tables of a sentence have a cell for every number that is shown. -/
theorem lt_tableSize_of_shows {filter : WordFilter} {lexicon : Lexicon} {index : Nat}
    (hshows : (parse.visible filter lexicon).shows index = true) :
    index < Sentence.tableSize (Sentence.arrange parse.rows) := by
  rcases (shows_visible_iff_mem filter lexicon).mp hshows with rfl | hmem
  · exact Nat.succ_pos _
  · obtain ⟨row, hrow, rfl⟩ := List.mem_map.mp hmem
    exact Sentence.index_lt_tableSize (Sentence.arrange_sorted parse.rows)
      (List.mem_of_mem_filter hrow)

/-- Among shown numbers, a role is taken back by its inverse. -/
theorem WellNumbered.mem_inRole_inverse (hnumbered : parse.WellNumbered) {filter : WordFilter}
    {lexicon : Lexicon} (role : Role) {index other : Nat}
    (hindex : (parse.visible filter lexicon).shows index = true)
    (hother : (parse.visible filter lexicon).shows other = true) :
    other ∈ parse.sentence.inRole role index ↔
      index ∈ parse.sentence.inRole role.inverse other := by
  cases role with
  | self => simp only [Sentence.inRole, Role.inverse, List.mem_singleton, eq_comm]
  | governor =>
      simp only [Sentence.inRole, Role.inverse, Option.mem_toList]
      exact (hnumbered.mem_dependents_iff (lt_tableSize_of_shows hother)).symm
  | dependent =>
      simp only [Sentence.inRole, Role.inverse, Option.mem_toList]
      exact hnumbered.mem_dependents_iff (lt_tableSize_of_shows hindex)

end Parse

/-! ## Tokens that are so far apart -/

namespace TokenRef

variable {ref target : TokenRef} {offset : Int}

theorem isRoot_eq_false_iff : ref.isRoot = false ↔ 0 < ref.index := by
  simp only [isRoot, rootIndex, beq_eq_false_iff_ne]
  omega

/-- The target stands in the same sentence, and its number is larger by the offset. -/
structure Apart (ref target : TokenRef) (offset : Int) : Prop where
  sentence_eq : target.sentence = ref.sentence
  index_eq : (target.index : Int) = ref.index + offset

theorem Apart.symm (hapart : ref.Apart target offset) : target.Apart ref (-offset) where
  sentence_eq := hapart.sentence_eq.symm
  index_eq := by
    have := hapart.index_eq
    omega

/-- Only the token itself is no place apart from it. -/
theorem apart_zero_iff : ref.Apart target 0 ↔ target = ref := by
  constructor
  · rintro ⟨hsentence, hindex⟩
    cases ref
    cases target
    simp only [TokenRef.mk.injEq] at hsentence hindex ⊢
    omega
  · rintro rfl
    exact ⟨rfl, by omega⟩

end TokenRef

/-! ## Moves of a navigator -/

namespace Navigator

variable {navigator : Navigator} {ref target : TokenRef}

theorem resolve_eq_inRole {role : Role} {visible : VisibleSentence}
    (hfound : navigator.visible.sentence? ref.sentence = some visible) :
    navigator.resolve ref role =
      ((visible.sentence.inRole role ref.index).filter visible.shows).map (⟨ref.sentence, ·⟩) := by
  rw [resolve, hfound]
  rfl

theorem mem_resolve {role : Role} :
    target ∈ navigator.resolve ref role ↔
      ∃ visible, navigator.visible.sentence? ref.sentence = some visible ∧
        target.sentence = ref.sentence ∧
        target.index ∈ visible.sentence.inRole role ref.index ∧
        visible.shows target.index = true := by
  cases hvisible : navigator.visible.sentence? ref.sentence with
  | none => simp [resolve, hvisible]
  | some visible =>
      rw [resolve_eq_inRole hvisible, List.mem_map]
      constructor
      · rintro ⟨index, hindex, rfl⟩
        obtain ⟨hrole, hshows⟩ := List.mem_filter.mp hindex
        exact ⟨visible, rfl, rfl, hrole, hshows⟩
      · rintro ⟨_, hsome, hsentence, hrole, hshows⟩
        obtain rfl := Option.some.inj hsome
        refine ⟨target.index, List.mem_filter.mpr ⟨hrole, hshows⟩, ?_⟩
        rw [← hsentence]

theorem shows_iff {visible : VisibleCorpus} :
    visible.shows ref = true ↔
      ∃ sentence, visible.sentence? ref.sentence = some sentence ∧
        sentence.shows ref.index = true := by
  rw [VisibleCorpus.shows, Option.any_eq_true]

theorem shows_of_mem_resolve {role : Role} (hmem : target ∈ navigator.resolve ref role) :
    navigator.visible.shows target = true := by
  obtain ⟨visible, hvisible, hsentence, -, hshows⟩ := mem_resolve.mp hmem
  exact shows_iff.mpr ⟨visible, hsentence ▸ hvisible, hshows⟩

theorem mem_resolve_self :
    target ∈ navigator.resolve ref .self ↔ target = ref ∧ navigator.visible.shows ref = true := by
  rw [mem_resolve, shows_iff]
  constructor
  · rintro ⟨visible, hvisible, hsame, hindex, hshows⟩
    have hindex : target.index = ref.index := List.mem_singleton.mp hindex
    obtain rfl : target = ref := by
      cases target
      cases ref
      cases hsame
      cases hindex
      rfl
    exact ⟨rfl, visible, hvisible, hshows⟩
  · rintro ⟨rfl, visible, hvisible, hshows⟩
    exact ⟨visible, hvisible, rfl, List.mem_singleton.mpr rfl, hshows⟩

theorem resolve_self (hshows : navigator.visible.shows ref = true) :
    navigator.resolve ref .self = [ref] := by
  obtain ⟨visible, hfound, hshows⟩ := shows_iff.mp hshows
  rw [resolve_eq_inRole hfound, Sentence.inRole, List.filter_singleton, hshows]
  rfl

theorem shift_eq_some_iff {offset : Int} :
    navigator.shift ref offset = some target ↔
      ref.isRoot = false ∧ target.sentence = ref.sentence ∧
        (target.index : Int) = ref.index + offset ∧ 0 < target.index ∧
        ∃ visible, navigator.visible.sentence? ref.sentence = some visible ∧
          (visible.sentence.token? target.index).isSome = true ∧
          visible.shows target.index = true := by
  rw [shift]
  cases hroot : ref.isRoot with
  | true => simp
  | false =>
      cases hvisible : navigator.visible.sentence? ref.sentence with
      | none => simp
      | some visible =>
          simp only [Bool.false_eq_true, if_false, Option.bind_eq_bind, Option.bind_some,
            Option.ite_none_right_eq_some, Option.some.injEq, Bool.and_eq_true, decide_eq_true_eq,
            true_and, exists_eq_left']
          constructor
          · rintro ⟨⟨⟨hpositive, htoken⟩, hshows⟩, rfl⟩
            exact ⟨rfl, by simp only; omega, by simp only; omega, htoken, hshows⟩
          · rintro ⟨hsentence, hindex, hpositive, htoken, hshows⟩
            -- The sum is not negative, so that it is the same as a natural number.
            have hnat : (ref.index + offset).toNat = target.index := by omega
            rw [hnat, ← hsentence]
            exact ⟨⟨⟨by omega, htoken⟩, hshows⟩, rfl⟩

end Navigator

/-! ## Moves in a treebank -/

namespace Treebank

variable {treebank : Treebank} {navigator : Navigator} {filter : WordFilter} {lexicon : Lexicon}
  {parse : Parse} {ref other : TokenRef} {role : Role}

/-- In the sentence that a parse stands for, the numbers that are shown are those of the parse. -/
theorem shows_of_parse? (hvisible : navigator.visible = treebank.visible filter lexicon)
    (hparse : treebank.parse? ref.sentence = some parse) :
    navigator.visible.shows ref = (parse.visible filter lexicon).shows ref.index := by
  rw [VisibleCorpus.shows, hvisible, sentence?_visible_eq_parse?, hparse]
  rfl

/-- There, a role leads to the numbers in this role that are shown. -/
theorem resolve_of_parse? (hvisible : navigator.visible = treebank.visible filter lexicon)
    (hparse : treebank.parse? ref.sentence = some parse) (role : Role) :
    navigator.resolve ref role = ((parse.sentence.inRole role ref.index).filter
      (parse.visible filter lexicon).shows).map (⟨ref.sentence, ·⟩) := by
  apply Navigator.resolve_eq_inRole
  rw [hvisible, sentence?_visible_eq_parse?, hparse, Option.map_some]

theorem mem_resolve_of_parse? (hvisible : navigator.visible = treebank.visible filter lexicon)
    (hparse : treebank.parse? ref.sentence = some parse) :
    other ∈ navigator.resolve ref role ↔ other.sentence = ref.sentence ∧
      other.index ∈ parse.sentence.inRole role ref.index ∧
        navigator.visible.shows other = true := by
  rw [resolve_of_parse? hvisible hparse, List.mem_map]
  constructor
  · rintro ⟨index, hindex, rfl⟩
    obtain ⟨hrole, hshows⟩ := List.mem_filter.mp hindex
    have hparsed : treebank.parse? (TokenRef.mk ref.sentence index).sentence = some parse := hparse
    exact ⟨rfl, hrole, (shows_of_parse? hvisible hparsed).trans hshows⟩
  · rintro ⟨hsame, hrole, hshows⟩
    rw [shows_of_parse? hvisible (hsame ▸ hparse)] at hshows
    refine ⟨other.index, List.mem_filter.mpr ⟨hrole, hshows⟩, ?_⟩
    rw [← hsame]

/-- Among shown tokens of a well-numbered sentence, a role is taken back by its inverse. -/
theorem mem_resolve_inverse (hvisible : navigator.visible = treebank.visible filter lexicon)
    (hparse : treebank.parse? ref.sentence = some parse) (hnumbered : parse.WellNumbered)
    (role : Role) (href : navigator.visible.shows ref = true)
    (hother : navigator.visible.shows other = true) :
    other ∈ navigator.resolve ref role ↔ ref ∈ navigator.resolve other role.inverse := by
  by_cases hsame : other.sentence = ref.sentence
  · have hparsed : treebank.parse? other.sentence = some parse := hsame ▸ hparse
    rw [mem_resolve_of_parse? hvisible hparse, mem_resolve_of_parse? hvisible hparsed]
    simp only [hsame, href, hother, true_and, and_true]
    rw [shows_of_parse? hvisible hparse] at href
    rw [shows_of_parse? hvisible hparsed] at hother
    exact hnumbered.mem_inRole_inverse role href hother
  · -- No role leads into another sentence, in either direction.
    apply iff_of_false
    · intro hmem
      exact hsame ((mem_resolve_of_parse? hvisible hparse).mp hmem).1
    · intro hmem
      obtain ⟨-, -, hback, -⟩ := Navigator.mem_resolve.mp hmem
      exact hsame hback.symm

theorem WellNumbered.mem_resolve_inverse (hnumbered : treebank.WellNumbered)
    (hvisible : navigator.visible = treebank.visible filter lexicon) (role : Role)
    (href : navigator.visible.shows ref = true) (hother : navigator.visible.shows other = true) :
    other ∈ navigator.resolve ref role ↔ ref ∈ navigator.resolve other role.inverse := by
  obtain ⟨visible, hfound, -⟩ := Navigator.shows_iff.mp href
  rw [hvisible, sentence?_visible_eq_parse?] at hfound
  obtain ⟨parse, hparse, -⟩ := Option.map_eq_some_iff.mp hfound
  exact Treebank.mem_resolve_inverse hvisible hparse
    (hnumbered.parses parse (mem_of_parse? hparse)) role href hother

theorem isSome_token? {id : Nat} {visible : VisibleSentence}
    (hfound : (treebank.visible filter lexicon).sentence? id = some visible) {index : Nat}
    (hpositive : 0 < index) (hshows : visible.shows index = true) :
    (visible.sentence.token? index).isSome = true := by
  rw [sentence?_visible_eq_parse?] at hfound
  obtain ⟨parse, -, rfl⟩ := Option.map_eq_some_iff.mp hfound
  rcases (Parse.shows_visible_iff_mem filter lexicon).mp hshows with hroot | hindex
  · exact absurd hroot (Nat.ne_of_gt hpositive)
  · -- A number that is shown comes from a row, and any row gives the number a token.
    obtain ⟨row, hrow, rfl⟩ := List.mem_map.mp hindex
    obtain ⟨hmem, hkept⟩ := List.mem_filter.mp hrow
    have hplain := (Bool.and_eq_true_iff.mp hkept).1
    show (parse.sentence.token? row.index).isSome = true
    rw [Parse.sentence, Sentence.token?_ofRows, List.getLast?_isSome]
    apply List.ne_nil_of_mem (a := row)
    exact List.mem_filter.mpr ⟨hmem, by rw [hplain]; exact decide_eq_true rfl⟩

/-- From a token, a shift leads to the token that is so far apart, if that is shown. -/
theorem shift_eq_some_iff_apart
    (hvisible : navigator.visible = treebank.visible filter lexicon) {ref target : TokenRef}
    {offset : Int} (href : ref.isRoot = false) :
    navigator.shift ref offset = some target ↔
      ref.Apart target offset ∧ target.isRoot = false ∧ navigator.visible.shows target = true := by
  rw [Navigator.shift_eq_some_iff, Navigator.shows_iff]
  constructor
  · rintro ⟨-, hsame, hindex, hpositive, visible, hfound, -, hshows⟩
    have htarget : target.isRoot = false := TokenRef.isRoot_eq_false_iff.mpr hpositive
    exact ⟨⟨hsame, hindex⟩, htarget, visible, hsame ▸ hfound, hshows⟩
  · rintro ⟨⟨hsame, hindex⟩, htarget, visible, hfound, hshows⟩
    have hpositive : 0 < target.index := TokenRef.isRoot_eq_false_iff.mp htarget
    have htoken := isSome_token? (hvisible ▸ hfound) hpositive hshows
    exact ⟨href, hsame, hindex, hpositive, visible, hsame ▸ hfound, htoken, hshows⟩

/-- From a shown token, a shift is taken back by the opposite shift. -/
theorem shift_neg
    (hvisible : navigator.visible = treebank.visible filter lexicon) {ref target : TokenRef}
    {offset : Int} (href : navigator.visible.shows ref = true)
    (hshift : navigator.shift ref offset = some target) :
    navigator.shift target (-offset) = some ref := by
  have hroot : ref.isRoot = false := (Navigator.shift_eq_some_iff.mp hshift).1
  obtain ⟨hapart, htarget, -⟩ := (shift_eq_some_iff_apart hvisible hroot).mp hshift
  exact (shift_eq_some_iff_apart hvisible htarget).mpr ⟨hapart.symm, hroot, href⟩

end Treebank

end Concordancer
