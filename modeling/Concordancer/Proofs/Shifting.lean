import Concordancer.Proofs.Descriptors.Searching
import Concordancer.Proofs.Descriptors.Showing
import Concordancer.Proofs.Navigation

/-!
# Shifting along a sentence

A shift leads from a token to the one whose number is larger by the offset, if that one is
visible.  Numbers may leave gaps, and what is hidden stands in between, so that not every shift
leads somewhere.  Where one does, shifting on from there is shifting by the sum
(`shift_shift`), and shifting back leads to where it came from, if that is visible.  In this
sense offsets act on tokens (`shift_acts`).

A search shifts by the adjacency of a criterion and back by its opposite.  The opposite of
the smallest number of 64 bits is no number of 64 bits, but no adjacency is so small: its
digits are read before its sign is regarded, and the number they stand for is bounded
(`AdjacencySpelling.isOffset`).  So machine words hold both ways (`IsOffset.toInt_neg`).
-/

namespace Concordancer

/-! ## Offsets of 64 bits -/

namespace Descriptor

/-- A number of 64 bits whose opposite is one, too. -/
def IsOffset (offset : Int) : Prop := -(2 ^ 63 - 1) ≤ offset ∧ offset ≤ 2 ^ 63 - 1

theorem IsOffset.toInt_ofInt {offset : Int} (hoffset : IsOffset offset) :
    (Int64.ofInt offset).toInt = offset := by
  obtain ⟨hlow, hhigh⟩ := hoffset
  apply Int64.toInt_ofInt_of_le
  · omega
  · omega

/-- A word takes the opposite of an offset without overflow. -/
theorem IsOffset.toInt_neg {offset : Int} (hoffset : IsOffset offset) :
    (-Int64.ofInt offset).toInt = -offset := by
  have hopposite : IsOffset (-offset) := by
    obtain ⟨hlow, hhigh⟩ := hoffset
    exact ⟨by omega, by omega⟩
  rw [← Int64.ofInt_neg, hopposite.toInt_ofInt]

/-- Adjacencies are offsets of this kind, on either side. -/
theorem AdjacencySpelling.isOffset {sign : List Char} {offset : Int}
    (hsign : AdjacencySpelling sign (some offset)) : IsOffset offset := by
  cases hsign with
  | @right digits hdigits =>
      have hbounded := hdigits.bounded
      exact ⟨by omega, by omega⟩
  | @left digits hdigits =>
      have hbounded := hdigits.bounded
      exact ⟨by omega, by omega⟩

end Descriptor

theorem SearchSpelling.isOffset {text : List Char} {role : Role} {feature : Feature}
    {offset : Int} (hspelling : SearchSpelling text (some offset) role feature) :
    Descriptor.IsOffset offset := by
  cases hspelling with
  | intro hsign _ _ => exact hsign.isOffset

theorem ColumnSpelling.isOffset {text : List Char} {column : Column} {offset : Int}
    (hspelling : ColumnSpelling text column) (hadjacency : column.adjacency = some offset) :
    Descriptor.IsOffset offset := by
  cases hspelling with
  | intro _ hsign _ _ =>
      obtain rfl := hadjacency
      exact hsign.isOffset

theorem Criterion.isOffset_of_compile {options : Options} {descriptor : String}
    {pattern : Pattern} {dialect : Regex.Dialect} {criterion : Criterion} {offset : Int}
    (hcompile : compile options descriptor pattern dialect = .ok criterion)
    (hadjacency : criterion.adjacency = some offset) : Descriptor.IsOffset offset := by
  obtain ⟨parts, role, feature, _, hread, -, rfl⟩ := compile_eq_ok_iff.mp hcompile
  have hspelling : SearchSpelling descriptor.toList (some offset) role feature :=
    readDescriptor_iff_spelled.mp ⟨parts, hread, hadjacency⟩
  exact hspelling.isOffset

theorem Layout.isOffset_of_compile {shown : List String} {layout : Layout} {column : Column}
    {offset : Int} (hcompile : compile shown = .ok layout) (hcolumn : column ∈ layout.columns)
    (hadjacency : column.adjacency = some offset) : Descriptor.IsOffset offset := by
  obtain ⟨-, columns, hcolumns, hlayout⟩ := compile_eq_ok_iff.mp hcompile
  rw [hlayout] at hcolumn
  by_cases hnothing : columns = [] ∧ "c" ∉ shown
  · -- The column that shows the word has no adjacency.
    rw [if_pos hnothing, List.mem_singleton] at hcolumn
    rw [hcolumn] at hadjacency
    cases hadjacency
  · rw [if_neg hnothing] at hcolumn
    obtain ⟨place, hplace, rfl⟩ := List.getElem_of_mem hcolumn
    have hmeaning := hcolumns.get (hcolumns.length_eq ▸ hplace) hplace
    exact hmeaning.spelled.isOffset hadjacency

/-! ## Shifts -/

/-- Going so far and then farther is going as far as the sum. -/
theorem TokenRef.Apart.trans_iff {ref middle target : TokenRef} {offset further : Int}
    (hapart : ref.Apart middle offset) :
    middle.Apart target further ↔ ref.Apart target (offset + further) := by
  obtain ⟨hsentence, hindex⟩ := hapart
  constructor
  · rintro ⟨hsame, htarget⟩
    exact ⟨hsame.trans hsentence, by omega⟩
  · rintro ⟨hsame, htarget⟩
    exact ⟨hsame.trans hsentence.symm, by omega⟩

namespace Treebank

variable {treebank : Treebank} {navigator : Navigator} {filter : WordFilter} {lexicon : Lexicon}
  {ref middle target : TokenRef} {offset further : Int}

theorem shift_iff_apart (hvisible : navigator.visible = treebank.visible filter lexicon) :
    navigator.shift ref offset = some target ↔
      ref.isRoot = false ∧ ref.Apart target offset ∧ target.isRoot = false ∧
        navigator.visible.shows target = true := by
  constructor
  · intro hshift
    have href : ref.isRoot = false := (Navigator.shift_eq_some_iff.mp hshift).1
    exact ⟨href, (shift_eq_some_iff_apart hvisible href).mp hshift⟩
  · rintro ⟨href, htarget⟩
    exact (shift_eq_some_iff_apart hvisible href).mpr htarget

theorem shift_shift (hvisible : navigator.visible = treebank.visible filter lexicon)
    (hshift : navigator.shift ref offset = some middle) (further : Int) :
    navigator.shift middle further = navigator.shift ref (offset + further) := by
  obtain ⟨href, hapart, hmiddle, -⟩ := (shift_iff_apart hvisible).mp hshift
  -- Whether the place in the middle is shown has no say in where the shifts lead.
  refine Option.ext fun target => ?_
  rw [shift_iff_apart hvisible, shift_iff_apart hvisible, hapart.trans_iff]
  simp only [href, hmiddle, true_and]

/-- **Offsets act on tokens.**  In every treebank, under any filter, a shift by any offset leads
from a token, and from no root, to the visible token of the same sentence whose number is
larger by the offset.  So to shift on from where it leads is to shift by the sum, and a shift
from a visible token is taken back by the opposite shift.  The adjacencies of criteria and
columns that compile are numbers of 64 bits, and so are their opposites. -/
theorem shift_acts (treebank : Treebank) (filter : WordFilter) (lexicon : Lexicon)
    (distanceLimit : Nat) :
    let navigator : Navigator := ⟨treebank.visible filter lexicon, lexicon, distanceLimit⟩
    (∀ ref target offset, navigator.shift ref offset = some target ↔
      ref.isRoot = false ∧ target.sentence = ref.sentence ∧
        (target.index : Int) = ref.index + offset ∧ 1 ≤ target.index ∧
        navigator.visible.shows target = true) ∧
    (∀ ref middle offset, navigator.shift ref offset = some middle →
      (∀ further, navigator.shift middle further = navigator.shift ref (offset + further)) ∧
      (navigator.visible.shows ref = true → navigator.shift middle (-offset) = some ref)) ∧
    (∀ options descriptor pattern dialect criterion offset,
      Criterion.compile options descriptor pattern dialect = .ok criterion →
        criterion.adjacency = some offset →
          -(2 ^ 63 - 1) ≤ offset ∧ offset ≤ 2 ^ 63 - 1 ∧
            (-Int64.ofInt offset).toInt = -offset) ∧
    ∀ shown layout column offset, Layout.compile shown = .ok layout →
      column ∈ layout.columns → column.adjacency = some offset →
        -(2 ^ 63 - 1) ≤ offset ∧ offset ≤ 2 ^ 63 - 1 ∧
          (-Int64.ofInt offset).toInt = -offset := by
  intro navigator
  refine ⟨?_, ?_, ?_, ?_⟩
  · intro ref target offset
    rw [shift_iff_apart rfl, @TokenRef.isRoot_eq_false_iff target]
    constructor
    · rintro ⟨href, ⟨hsentence, hindex⟩, hpositive, hshows⟩
      exact ⟨href, hsentence, hindex, hpositive, hshows⟩
    · rintro ⟨href, hsentence, hindex, hpositive, hshows⟩
      exact ⟨href, ⟨hsentence, hindex⟩, hpositive, hshows⟩
  · intro ref middle offset hshift
    exact ⟨shift_shift rfl hshift, fun hshows => shift_neg rfl hshows hshift⟩
  · intro options descriptor pattern dialect criterion offset hcompile hadjacency
    have hoffset := Criterion.isOffset_of_compile hcompile hadjacency
    exact ⟨hoffset.1, hoffset.2, hoffset.toInt_neg⟩
  · intro shown layout column offset hcompile hcolumn hadjacency
    have hoffset := Layout.isOffset_of_compile hcompile hcolumn hadjacency
    exact ⟨hoffset.1, hoffset.2, hoffset.toInt_neg⟩

/-- The descriptor with the smallest adjacency that there is. -/
def farthestLeft : String := "-9223372036854775807w"

/-- From *cat* one goes on to *sat* and to *he*, and back; *the* in front is hidden. -/
theorem shift_acts_sample :
    let lexicon := Lexicon.empty.addClosedClass ["the"]
    let navigator : Navigator := ⟨sample.visible ⟨none, true⟩ lexicon, lexicon, 30⟩
    navigator.shift ⟨7, 2⟩ 1 = some ⟨7, 3⟩ ∧
      navigator.shift ⟨7, 3⟩ 2 = navigator.shift ⟨7, 2⟩ (1 + 2) ∧
      navigator.visible.shows ⟨7, 2⟩ = true ∧ navigator.shift ⟨7, 3⟩ (-1) = some ⟨7, 2⟩ ∧
      navigator.shift ⟨7, 2⟩ 3 = some ⟨7, 5⟩ ∧ navigator.shift ⟨7, 2⟩ (-1) ≠ some ⟨7, 1⟩ ∧
      (∃ criterion, Criterion.compile {} farthestLeft (.text wildcard) = .ok criterion ∧
        criterion.adjacency = some (-(2 ^ 63 - 1)) ∧
        (-Int64.ofInt (-(2 ^ 63 - 1))).toInt = 2 ^ 63 - 1) ∧
      ∃ layout column, Layout.compile [farthestLeft] = .ok layout ∧ column ∈ layout.columns ∧
        column.adjacency = some (-(2 ^ 63 - 1)) ∧
        (-Int64.ofInt (-(2 ^ 63 - 1))).toInt = 2 ^ 63 - 1 := by
  intro lexicon navigator
  obtain ⟨hshift, hacts, hcriteria, hcolumns⟩ := shift_acts sample ⟨none, true⟩ lexicon 30
  have hshown : ∀ index ∈ [2, 3, 5], navigator.visible.shows ⟨7, index⟩ = true := by
    decide +kernel
  have hcat := hshown 2 (by decide)
  have hsat : navigator.shift ⟨7, 2⟩ 1 = some ⟨7, 3⟩ :=
    (hshift _ _ _).mpr ⟨rfl, rfl, by decide, by decide, hshown 3 (by decide)⟩
  have hhe : navigator.shift ⟨7, 2⟩ 3 = some ⟨7, 5⟩ :=
    (hshift _ _ _).mpr ⟨rfl, rfl, by decide, by decide, hshown 5 (by decide)⟩
  obtain ⟨hsum, hback⟩ := hacts _ _ _ hsat
  refine ⟨hsat, hsum 2, hcat, hback hcat, hhe, ?_, ?_, ?_⟩
  · intro hthe
    obtain ⟨-, -, -, -, hshows⟩ := (hshift _ _ _).mp hthe
    have hhidden : navigator.visible.shows ⟨7, 1⟩ = false := by decide +kernel
    rw [hhidden] at hshows
    cases hshows
  · obtain ⟨criterion, hcompile⟩ : ∃ criterion,
        Criterion.compile {} farthestLeft (.text wildcard) = .ok criterion := ⟨_, rfl⟩
    have hadjacency : criterion.adjacency = some (-(2 ^ 63 - 1)) := by
      cases hcompile
      rfl
    exact ⟨criterion, hcompile, hadjacency,
      (hcriteria _ _ _ _ _ _ hcompile hadjacency).2.2⟩
  · obtain ⟨layout, hcompile⟩ : ∃ layout, Layout.compile [farthestLeft] = .ok layout := ⟨_, rfl⟩
    have hcolumn : ⟨none, some (-(2 ^ 63 - 1)), [], .word⟩ ∈ layout.columns := by
      cases hcompile
      exact List.mem_singleton.mpr rfl
    exact ⟨layout, _, hcompile, hcolumn, rfl, (hcolumns _ _ _ _ hcompile hcolumn rfl).2.2⟩

end Treebank

end Concordancer
