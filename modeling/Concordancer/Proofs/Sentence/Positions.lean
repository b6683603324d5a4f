import Concordancer.Proofs.Corpus.Treebank
import Concordancer.Proofs.Sentence.Likeness

/-!
# Positions among the visible tokens

A visible sentence lists the numbers that are visible, and holds a table of the positions
at which each of them stands in this list.  In a well-numbered sentence no number is
listed twice.  The list and the table are then inverse to each other
(`position?_eq_some_iff`), and so are the position of a token and the token at a position
(`at?_eq_some_iff`).
-/

namespace Concordancer

/-- There is a token at each position of the sentence, and at no other. -/
theorem VisibleSentence.exists_at?_iff {visible : VisibleSentence} {position : Nat} :
    (∃ ref, visible.at? position = some ref) ↔ position < visible.size := by
  rw [← Option.isSome_iff_exists, at?, Option.isSome_map, isSome_getElem?, size]

theorem VisibleSentence.lt_size_of_at? {visible : VisibleSentence} {position : Nat}
    {ref : TokenRef} (hat : visible.at? position = some ref) : position < visible.size :=
  exists_at?_iff.mp ⟨ref, hat⟩

namespace Parse.WellNumbered

variable {parse : Parse} {filter : WordFilter} {lexicon : Lexicon} {index position : Nat}

theorem nodup_indices (hnumbered : parse.WellNumbered) :
    (parse.visible filter lexicon).indices.toList.Nodup := by
  have harranged : ((Sentence.arrange parse.rows).map Token.index).Nodup :=
    List.pairwise_map.mpr ((Sentence.arrange_strict hnumbered.distinct).imp Nat.ne_of_lt)
  rw [indices_visible filter lexicon hnumbered]
  exact harranged.sublist (List.filter_sublist.map Token.index)

theorem position?_eq_some_iff (hnumbered : parse.WellNumbered) :
    (parse.visible filter lexicon).position? index = some position ↔
      (parse.visible filter lexicon).indices[position]? = some index := by
  have hplaces : ∀ other, other ∈ (((parse.visible filter lexicon).indices.toList.zipIdx.filter
      (·.1 = index)).map (·.2)) ↔
        (parse.visible filter lexicon).indices.toList[other]? = some index := by
    intro other
    rw [List.mem_map]
    constructor
    · rintro ⟨⟨listed, place⟩, hentry, rfl⟩
      obtain ⟨hmem, hlisted⟩ := List.mem_filter.mp hentry
      rw [← of_decide_eq_true hlisted]
      exact List.mk_mem_zipIdx_iff_getElem?.mp hmem
    · intro hother
      exact ⟨(index, other), List.mem_filter.mpr
        ⟨List.mk_mem_zipIdx_iff_getElem?.mpr hother, decide_eq_true rfl⟩, rfl⟩
  rw [position?_visible, ← Array.getElem?_toList, ← hplaces]
  constructor
  · intro hlast
    exact List.mem_of_getLast? hlast
  · intro hmem
    -- The number is listed only once, so its last place is this one.
    obtain ⟨last, hlast⟩ := Option.isSome_iff_exists.mp
      (List.getLast?_isSome.mpr (List.ne_nil_of_mem hmem))
    have hlisted := (hplaces last).mp (List.mem_of_getLast? hlast)
    have hbound := (List.getElem?_eq_some_iff.mp hlisted).1
    have hsame : last = position := (List.getElem?_inj hbound hnumbered.nodup_indices).mp
      (hlisted.trans ((hplaces position).mp hmem).symm)
    rw [hlast, hsame]

theorem pos_of_position? (hnumbered : parse.WellNumbered)
    (hposition : (parse.visible filter lexicon).position? index = some position) : 0 < index := by
  have hlisted := hnumbered.position?_eq_some_iff.mp hposition
  exact pos_of_mem_indices filter lexicon
    (Array.mem_toList_iff.mpr (Array.mem_of_getElem? hlisted))

theorem position?_root (hnumbered : parse.WellNumbered) :
    (parse.visible filter lexicon).position? rootIndex = none := by
  cases hposition : (parse.visible filter lexicon).position? rootIndex with
  | none => rfl
  | some position => exact absurd (hnumbered.pos_of_position? hposition) (Nat.lt_irrefl 0)

/-- At a position stands the token that has the position. -/
theorem at?_eq_some_iff (hnumbered : parse.WellNumbered) {ref : TokenRef} :
    (parse.visible filter lexicon).at? position = some ref ↔
      ref.sentence = parse.id ∧
        (parse.visible filter lexicon).position? ref.index = some position := by
  rw [hnumbered.position?_eq_some_iff, VisibleSentence.at?, Option.map_eq_some_iff]
  constructor
  · rintro ⟨index, hindex, rfl⟩
    exact ⟨rfl, hindex⟩
  · rintro ⟨hsentence, hindex⟩
    refine ⟨ref.index, hindex, ?_⟩
    show (⟨parse.id, ref.index⟩ : TokenRef) = ref
    rw [← hsentence]

/-- Each token has one position. -/
theorem at?_inj (hnumbered : parse.WellNumbered) {other : Nat} {ref : TokenRef}
    (hposition : (parse.visible filter lexicon).at? position = some ref)
    (hother : (parse.visible filter lexicon).at? other = some ref) : position = other :=
  Option.some.inj ((hnumbered.at?_eq_some_iff.mp hposition).2.symm.trans
    (hnumbered.at?_eq_some_iff.mp hother).2)

theorem lt_size_of_position? (hnumbered : parse.WellNumbered)
    (hposition : (parse.visible filter lexicon).position? index = some position) :
    position < (parse.visible filter lexicon).size := by
  have hat : (parse.visible filter lexicon).at? position = some ⟨parse.id, index⟩ :=
    hnumbered.at?_eq_some_iff.mpr ⟨rfl, hposition⟩
  exact VisibleSentence.lt_size_of_at? hat

end Parse.WellNumbered

end Concordancer
