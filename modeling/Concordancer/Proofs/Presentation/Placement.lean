import Concordancer.Proofs.Presentation.Spans
import Concordancer.Proofs.Sentence.Positions

/-!
# Where spans lie

A span shows tokens of its sentence, and its two bounds say where the contexts end and
begin.  `Span.Placed` collects what spans of all three kinds have in common: they show
each position once and in order, and whatever lies between the bounds is shown, the match
itself among it.  A gram fills the room between its bounds.  A collocate lies outside of
it, among one of the contexts, so that contexts have to leave out what is shown.

It follows that what a span shows and its two contexts divide the positions of the
sentence, so that no token is lost and none stands twice (`Placed.surrounds`).
-/

namespace Concordancer

/-- The positions of the tokens that a span shows.  The root has none. -/
def Span.positions (span : Span) (visible : VisibleSentence) : List Nat :=
  span.tokens.filterMap fun ref => visible.position? ref.index

/-- The positions of a sentence that stand to the left and to the right of a span of a match. -/
structure VisibleSentence.Surrounds (visible : VisibleSentence) (anchor : TokenRef) (span : Span)
    (left right : List Nat) : Prop where
  /-- A position is shown if its token is. -/
  mem_positions_iff : ∀ position, position ∈ span.positions visible ↔
    ∃ ref ∈ span.tokens, visible.at? position = some ref
  /-- Each position is shown or in one of the contexts, and only one of these. -/
  perm : (left ++ span.positions visible ++ right).Perm (List.range visible.size)
  left_sorted : left.Pairwise (· < ·)
  right_sorted : right.Pairwise (· < ·)
  /-- The root stands in front of the sentence. -/
  of_isRoot : anchor.isRoot = true → left = [] ∧ right = List.range visible.size
  /-- Every other match stands between its contexts. -/
  of_not_isRoot : anchor.isRoot = false →
    ∃ place, visible.position? anchor.index = some place ∧
      (∀ position ∈ left, position < place) ∧ ∀ position ∈ right, place < position

/-- A span lies within its sentence, shows each position once and in order, and shows all that
is between its bounds, where the match is. -/
structure Span.Placed (visible : VisibleSentence) (anchor : TokenRef) (span : Span) : Prop where
  mem_positions_iff : ∀ position, position ∈ span.positions visible ↔
    ∃ ref ∈ span.tokens, visible.at? position = some ref
  sorted : (span.positions visible).Pairwise (· < ·)
  leftEnd_le : span.leftEnd ≤ span.rightStart
  rightStart_le : span.rightStart ≤ visible.size
  between : ∀ position, span.leftEnd ≤ position → position < span.rightStart →
    position ∈ span.positions visible
  of_isRoot : anchor.isRoot = true → span.positions visible = [] ∧ span.rightStart = 0
  of_not_isRoot : anchor.isRoot = false →
    ∃ place, visible.position? anchor.index = some place ∧
      span.leftEnd ≤ place ∧ place < span.rightStart

/-- A match that is shown by itself stands between its contexts, which are all the rest. -/
theorem VisibleSentence.Surrounds.append_eq_range {visible : VisibleSentence} {anchor : TokenRef}
    {span : Span} {left right : List Nat} (hsurrounds : visible.Surrounds anchor span left right)
    (htokens : span.tokens = [anchor]) (hroot : anchor.isRoot = false) :
    ∃ place, visible.at? place = some anchor ∧
      left ++ ([place] ++ right) = List.range visible.size := by
  obtain ⟨place, hplace, hleft, hright⟩ := hsurrounds.of_not_isRoot hroot
  have hpositions : span.positions visible = [place] := by
    simp only [Span.positions, htokens, List.filterMap_cons, hplace, List.filterMap_nil]
  have hmem : place ∈ span.positions visible := hpositions ▸ List.mem_cons_self
  obtain ⟨ref, href, hat⟩ := (hsurrounds.mem_positions_iff place).mp hmem
  rw [htokens, List.mem_singleton] at href
  refine ⟨place, href ▸ hat, ?_⟩
  have hperm := hsurrounds.perm
  rw [hpositions, List.append_assoc] at hperm
  -- Both sides have the same positions, and both have them in sentence order.
  refine hperm.eq_of_pairwise' ?_ List.pairwise_lt_range
  refine List.pairwise_append.mpr ⟨hsurrounds.left_sorted,
    List.pairwise_cons.mpr ⟨hright, hsurrounds.right_sorted⟩, ?_⟩
  intro before hbefore after hafter
  have hlt := hleft before hbefore
  rcases List.mem_cons.mp hafter with rfl | hafter
  · exact hlt
  · exact hlt.trans (hright after hafter)

/-! ## The contexts of a span -/

namespace Span

/-- The positions from one to another that a span does not show. -/
def hiddenBetween (span : Span) (visible : VisibleSentence) (first last : Nat) : List Nat :=
  (List.range' first (last - first)).filter (· ∉ span.positions visible)

variable {visible : VisibleSentence} {anchor : TokenRef} {span : Span}

theorem mem_hiddenBetween {first last position : Nat} (hle : first ≤ last) :
    position ∈ span.hiddenBetween visible first last ↔
      (first ≤ position ∧ position < last) ∧ position ∉ span.positions visible := by
  rw [hiddenBetween, List.mem_filter, List.mem_range'_1, decide_eq_true_eq,
    Nat.add_sub_cancel' hle]

theorem hiddenBetween_sorted (first last : Nat) :
    (span.hiddenBetween visible first last).Pairwise (· < ·) :=
  List.Pairwise.sublist List.filter_sublist (List.pairwise_lt_range' 1)

namespace Placed

theorem lt_size (hplaced : Placed visible anchor span) {position : Nat}
    (hmem : position ∈ span.positions visible) : position < visible.size := by
  obtain ⟨ref, -, hat⟩ := (hplaced.mem_positions_iff position).mp hmem
  exact VisibleSentence.lt_size_of_at? hat

/-- What is shown and what is left out on both sides are all positions, each of them once. -/
theorem perm_range (hplaced : Placed visible anchor span) :
    (span.hiddenBetween visible 0 span.leftEnd ++ span.positions visible ++
        span.hiddenBetween visible span.rightStart visible.size).Perm
      (List.range visible.size) := by
  have hle := hplaced.leftEnd_le
  have hright := hplaced.rightStart_le
  have hbetween := hplaced.between
  -- Lists without repetitions are permutations if they have the same members.
  refine (List.perm_ext_iff_of_nodup ?_ List.nodup_range).mpr fun position => ?_
  · -- The two sides lie apart, and what is shown is left out of both.
    rw [List.nodup_append, List.nodup_append]
    refine ⟨⟨(hiddenBetween_sorted _ _).nodup, hplaced.sorted.nodup, ?_⟩,
      (hiddenBetween_sorted _ _).nodup, ?_⟩
    · rintro position hleft _ hmem rfl
      exact ((mem_hiddenBetween (Nat.zero_le _)).mp hleft).2 hmem
    · rintro position hmem _ hhidden rfl
      obtain ⟨⟨hlow, -⟩, hnot⟩ := (mem_hiddenBetween hright).mp hhidden
      rcases List.mem_append.mp hmem with hleft | hmem
      · have hlt := ((mem_hiddenBetween (Nat.zero_le _)).mp hleft).1.2
        omega
      · exact hnot hmem
  · rw [List.mem_append, List.mem_append, mem_hiddenBetween (Nat.zero_le _),
      mem_hiddenBetween hright, List.mem_range]
    constructor
    · rintro ((⟨⟨-, hlt⟩, -⟩ | hmem) | ⟨⟨-, hlt⟩, -⟩)
      · omega
      · exact hplaced.lt_size hmem
      · exact hlt
    · intro hlt
      by_cases hmem : position ∈ span.positions visible
      · exact .inl (.inr hmem)
      · -- A position that is not shown lies outside of the bounds, on one side of them.
        rcases Nat.lt_or_ge position span.leftEnd with hleft | hleft
        · exact .inl (.inl ⟨⟨Nat.zero_le _, hleft⟩, hmem⟩)
        · have hstart : span.rightStart ≤ position := by
            by_contra hinside
            exact hmem (hbetween position hleft (by omega))
          exact .inr ⟨⟨hstart, hlt⟩, hmem⟩

theorem surrounds (hplaced : Placed visible anchor span) :
    visible.Surrounds anchor span (span.hiddenBetween visible 0 span.leftEnd)
      (span.hiddenBetween visible span.rightStart visible.size) where
  mem_positions_iff := hplaced.mem_positions_iff
  perm := hplaced.perm_range
  left_sorted := hiddenBetween_sorted _ _
  right_sorted := hiddenBetween_sorted _ _
  of_isRoot := by
    intro hroot
    obtain ⟨hnone, hstart⟩ := hplaced.of_isRoot hroot
    have hend : span.leftEnd = 0 := by
      have := hplaced.leftEnd_le
      omega
    -- The root has no position, so nothing is left out on either side of it.
    have hall : ∀ first last, span.hiddenBetween visible first last =
        List.range' first (last - first) := by
      intro first last
      rw [hiddenBetween, hnone]
      exact List.filter_eq_self.mpr fun _ _ => decide_eq_true List.not_mem_nil
    rw [hall, hall, hstart, hend, List.range_eq_range']
    exact ⟨rfl, rfl⟩
  of_not_isRoot := by
    intro hroot
    obtain ⟨place, hplace, hlow, hhigh⟩ := hplaced.of_not_isRoot hroot
    refine ⟨place, hplace, fun position hleft => ?_, fun position hright => ?_⟩
    · have hlt := ((mem_hiddenBetween (Nat.zero_le _)).mp hleft).1.2
      omega
    · have hle := ((mem_hiddenBetween hplaced.rightStart_le).mp hright).1.1
      omega

end Placed

end Span

/-! ## The spans of a match -/

namespace Repetition

variable {parse : Parse} {filter : WordFilter} {lexicon : Lexicon} {anchor : TokenRef}
  {span : Span} {place : Nat}

section

variable (hnumbered : parse.WellNumbered) (hid : anchor.sentence = parse.id)

include hnumbered

theorem positions_of_shows {positions : List Nat}
    (hshows : span.Shows (parse.visible filter lexicon) positions) :
    span.positions (parse.visible filter lexicon) = positions := by
  obtain ⟨tokens, leftEnd, rightStart⟩ := span
  have htokens : tokens.map some = positions.map (parse.visible filter lexicon).at? := hshows
  show tokens.filterMap (fun ref => (parse.visible filter lexicon).position? ref.index) = positions
  clear hshows
  induction positions generalizing tokens with
  | nil =>
      obtain rfl := List.map_eq_nil_iff.mp htokens
      rfl
  | cons position rest ih =>
      obtain ⟨ref, further, rfl, hat, hrest⟩ := List.map_eq_cons_iff.mp htokens
      have hposition := (hnumbered.at?_eq_some_iff.mp hat.symm).2
      simp only [List.filterMap_cons, hposition, ih further hrest]

/-- A token that is shown and belongs to the sentence is the token at its position. -/
private theorem mem_positions_iff
    (htokens : ∀ ref ∈ span.tokens, ref.sentence = parse.id) (position : Nat) :
    position ∈ span.positions (parse.visible filter lexicon) ↔
      ∃ ref ∈ span.tokens, (parse.visible filter lexicon).at? position = some ref := by
  rw [Span.positions, List.mem_filterMap]
  refine exists_congr fun ref => and_congr_right fun href => ?_
  rw [hnumbered.at?_eq_some_iff]
  exact ⟨fun hposition => ⟨htokens ref href, hposition⟩, fun hat => hat.2⟩

/-- A span of a match other than the root is placed if the match lies within its bounds and all
that does is shown. -/
private theorem placed_of_position? (hroot : anchor.isRoot = false)
    (hplace : (parse.visible filter lexicon).position? anchor.index = some place)
    (htokens : ∀ ref ∈ span.tokens, ref.sentence = parse.id)
    (hsorted : (span.positions (parse.visible filter lexicon)).Pairwise (· < ·))
    (hlow : span.leftEnd ≤ place) (hhigh : place < span.rightStart)
    (hend : span.rightStart ≤ (parse.visible filter lexicon).size)
    (hbetween : ∀ position, span.leftEnd ≤ position → position < span.rightStart →
      position ∈ span.positions (parse.visible filter lexicon)) :
    span.Placed (parse.visible filter lexicon) anchor where
  mem_positions_iff := mem_positions_iff hnumbered htokens
  sorted := hsorted
  leftEnd_le := (Nat.lt_of_le_of_lt hlow hhigh).le
  rightStart_le := hend
  between := hbetween
  of_isRoot := by
    intro h
    rw [hroot] at h
    contradiction
  of_not_isRoot := fun _ => ⟨place, hplace, hlow, hhigh⟩

/-- A gram that contains the match is placed.  If the sum that gives its end does not fit, it shows
nothing. -/
private theorem placed_of_gram? {size back : Nat} (hroot : anchor.isRoot = false)
    (hplace : (parse.visible filter lexicon).position? anchor.index = some place)
    (hback : back < wrapped size)
    (hgram : gram? (parse.visible filter lexicon) size place back = some span)
    (htokens : ∀ ref ∈ span.tokens, ref.sentence = parse.id) :
    (span.tokens = [] ∧ sizeLimit ≤ span.leftEnd + size) ∨
      span.Placed (parse.visible filter lexicon) anchor := by
  obtain ⟨hstart, hgram⟩ := gram?_eq_some_iff.mp hgram
  obtain ⟨⟨-, hend⟩, hshows, hleft, hright⟩ := between?_eq_some_iff.mp hgram
  rcases lt_wrapped_or_overflows (place - back) hback with hfits | ⟨hshort, hover⟩
  · have hpositions := positions_of_shows hnumbered hshows
    refine .inr (placed_of_position? hnumbered hroot hplace htokens ?_ ?_ ?_ ?_ ?_)
    · rw [hpositions]
      exact List.pairwise_lt_range' 1
    · omega
    · omega
    · omega
    · intro position hlow hhigh
      rw [hpositions, List.mem_range'_1]
      omega
  · rw [Nat.sub_eq_zero_of_le hshort, List.range'_zero] at hshows
    exact .inl ⟨List.map_eq_nil_iff.mp hshows, hleft ▸ hover⟩

private theorem placed_of_collocate? {radius round : Nat} (hroot : anchor.isRoot = false)
    (hplace : (parse.visible filter lexicon).position? anchor.index = some place)
    (hround : round < sizeLimit)
    (hcollocate : collocate? (parse.visible filter lexicon) radius place round = some span)
    (htokens : ∀ ref ∈ span.tokens, ref.sentence = parse.id) :
    span.Placed (parse.visible filter lexicon) anchor := by
  have hbound := hnumbered.lt_size_of_position? hplace
  obtain ⟨hother, hbeside⟩ := collocate?_eq_some_iff.mp hcollocate
  obtain ⟨⟨hlow, hhigh⟩, hshows, hleft, hright⟩ := beside?_eq_some_iff.mp hbeside
  have hapart := wrapped_sub_ne hround hother hlow
  have hpositions := positions_of_shows hnumbered hshows
  refine placed_of_position? hnumbered hroot hplace htokens ?_ ?_ ?_ ?_ ?_
  · -- The other token of the window is not the match itself.
    rw [hpositions, List.pairwise_pair]
    omega
  · omega
  · omega
  · omega
  · intro position hle hlt
    rw [hpositions, List.mem_pair]
    omega

private theorem placed_self (hroot : anchor.isRoot = false)
    (hplace : (parse.visible filter lexicon).position? anchor.index = some place)
    (htokens : ∀ ref ∈ (⟨[anchor], place, place + 1⟩ : Span).tokens, ref.sentence = parse.id) :
    Span.Placed (parse.visible filter lexicon) anchor ⟨[anchor], place, place + 1⟩ := by
  have hpositions : Span.positions ⟨[anchor], place, place + 1⟩ (parse.visible filter lexicon) =
      [place] := by
    simp only [Span.positions, List.filterMap_cons, hplace, List.filterMap_nil]
  refine placed_of_position? hnumbered hroot hplace htokens ?_ (Nat.le_refl _) (Nat.lt_succ_self _)
    (hnumbered.lt_size_of_position? hplace) ?_
  · rw [hpositions]
    exact List.pairwise_singleton _ _
  · intro position hle hlt
    rw [hpositions, List.mem_singleton]
    exact Nat.le_antisymm (Nat.lt_succ_iff.mp hlt) hle

private theorem placed_root (hroot : anchor.isRoot = true)
    (htokens : ∀ ref ∈ (⟨[anchor], 0, 0⟩ : Span).tokens, ref.sentence = parse.id) :
    Span.Placed (parse.visible filter lexicon) anchor ⟨[anchor], 0, 0⟩ := by
  have hindex : anchor.index = rootIndex := by simpa [TokenRef.isRoot] using hroot
  have hpositions : Span.positions ⟨[anchor], 0, 0⟩ (parse.visible filter lexicon) = [] := by
    simp only [Span.positions, List.filterMap_cons, hindex, hnumbered.position?_root,
      List.filterMap_nil]
  refine ⟨mem_positions_iff hnumbered htokens, ?_, Nat.le_refl _, Nat.zero_le _, ?_,
    fun _ => ⟨hpositions, rfl⟩, fun h => ?_⟩
  · rw [hpositions]
    exact .nil
  · intro position _ hlt
    contradiction
  · rw [hroot] at h
    contradiction

include hid

/-- **All spans of a match are placed**, but for grams whose end does not fit, which show
nothing. -/
theorem placed_of_mem_spans {repetition : Repetition}
    (hspan : span ∈ repetition.spans (parse.visible filter lexicon) anchor) :
    (span.tokens = [] ∧ sizeLimit ≤ span.leftEnd + repetition.gramSize) ∨
      span.Placed (parse.visible filter lexicon) anchor := by
  have htokens : ∀ ref ∈ span.tokens, ref.sentence = parse.id := by
    intro ref href
    rcases mem_tokens_of_mem_spans hspan href with rfl | hmem
    · exact hid
    · exact (VisibleSentence.mem_refs.mp hmem).1
  -- The cases are those of `span?`: the root or not, and what kind of repetition.
  obtain ⟨round, hround, hspan⟩ := List.mem_filterMap.mp hspan
  rw [List.mem_range, count, total] at hround
  unfold span? at hspan
  cases hroot : anchor.isRoot with
  | true =>
      rw [hroot, if_pos rfl] at hspan
      cases hexpansion : repetition.expansion with
      | none =>
          rw [hexpansion] at hspan
          obtain rfl := Option.some.inj hspan
          exact .inr (placed_root hnumbered hroot htokens)
      | some expansion =>
          rw [hexpansion] at hspan
          contradiction
  | false =>
      rw [hroot, if_neg Bool.false_ne_true] at hspan
      obtain ⟨place, hplace, hspan⟩ := Option.bind_eq_some_iff.mp hspan
      cases hexpansion : repetition.expansion with
      | none =>
          rw [hexpansion] at hspan
          obtain rfl := Option.some.inj hspan
          exact .inr (placed_self hnumbered hroot hplace htokens)
      | some expansion =>
          rw [hexpansion] at hspan hround
          cases expansion with
          | gram => exact placed_of_gram? hnumbered hroot hplace hround hspan htokens
          | window =>
              have hlimit := hround.trans (wrapped_lt _)
              exact .inr (placed_of_collocate? hnumbered hroot hplace hlimit hspan htokens)

end

end Repetition

end Concordancer
