import Concordancer.Visible

/-!
# Visible sentences that look alike

Of a visible sentence, most of what is shown depends only on which numbers are visible
and at which positions they stand.  Sentences that have this in common *look alike*;
they may still differ in hidden rows and in governors.
-/

namespace Concordancer

/-- Two visible sentences list the same numbers at the same positions. -/
structure VisibleSentence.LooksLike (first second : VisibleSentence) : Prop where
  id_eq : first.sentence.id = second.sentence.id
  indices_eq : first.indices = second.indices
  position?_eq : ∀ index, first.position? index = second.position? index

namespace VisibleSentence

variable {visible first second : VisibleSentence}

theorem LooksLike.refl (visible : VisibleSentence) : visible.LooksLike visible :=
  ⟨rfl, rfl, fun _ => rfl⟩

theorem LooksLike.size_eq (halike : first.LooksLike second) : first.size = second.size := by
  rw [size, size, halike.indices_eq]

theorem LooksLike.shows_eq (halike : first.LooksLike second) : first.shows = second.shows := by
  funext index
  rw [shows, shows, halike.position?_eq]

theorem LooksLike.at?_eq (halike : first.LooksLike second) : first.at? = second.at? := by
  funext position
  rw [at?, at?, halike.indices_eq, halike.id_eq]

/-- The visible tokens of a sentence, in sentence order. -/
def refs (visible : VisibleSentence) : List TokenRef :=
  visible.indices.toList.map fun index => ⟨visible.sentence.id, index⟩

theorem LooksLike.refs_eq (halike : first.LooksLike second) : first.refs = second.refs := by
  rw [refs, refs, halike.indices_eq, halike.id_eq]

theorem mem_refs {ref : TokenRef} :
    ref ∈ visible.refs ↔
      ref.sentence = visible.sentence.id ∧ ref.index ∈ visible.indices.toList := by
  rw [refs, List.mem_map]
  constructor
  · rintro ⟨index, hindex, rfl⟩
    exact ⟨rfl, hindex⟩
  · rintro ⟨hsentence, hindex⟩
    exact ⟨ref.index, hindex, hsentence ▸ rfl⟩

theorem getElem?_refs (position : Nat) : visible.refs[position]? = visible.at? position := by
  rw [refs, List.getElem?_map, Array.getElem?_toList, at?]

theorem mem_refs_of_at? {position : Nat} {ref : TokenRef}
    (hat : visible.at? position = some ref) : ref ∈ visible.refs := by
  obtain ⟨index, hindex, rfl⟩ := Option.map_eq_some_iff.mp hat
  exact mem_refs.mpr ⟨rfl, Array.mem_toList_iff.mpr (Array.mem_of_getElem? hindex)⟩

theorem exists_at?_of_mem_refs {ref : TokenRef} (href : ref ∈ visible.refs) :
    ∃ position, visible.at? position = some ref := by
  obtain ⟨position, hposition⟩ := List.mem_iff_getElem?.mp href
  exact ⟨position, (getElem?_refs position).symm.trans hposition⟩

end VisibleSentence

end Concordancer
