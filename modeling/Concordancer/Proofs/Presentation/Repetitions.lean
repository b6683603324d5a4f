import Concordancer.Proofs.Presentation.Spans
import Concordancer.Proofs.Sentence.Positions

/-!
# The spans of a repeated match

A match may be repeated as every gram of a size that contains it, or beside every other token of
a window around it.  Which spans there are is said here by positions alone.  The grams are those
that start at or before the match, end at or after it and lie within the sentence, from right to
left (`spans_gram`).  The collocates are the other tokens of the sentence that are no further
from the match than the radius, from left to right (`spans_window`).  The root is not repeated.

Spans are made in rounds, and a round that leads out of the sentence makes none.  What is proved
is that each position comes up in one round: a gram that starts `back` tokens before the match
is made in round `back`, and the token in round `place` of a window stands `place - radius`
tokens after the match.

A window reaches as far to the left as to the right.  So two tokens make the same pair whichever
of them is the match.

All of this is about sizes whose sums fit in 64 bits (`Repetition.Fits`).  Only the root and
grams of no tokens make no sums.
-/

namespace Concordancer

namespace Repetition

variable {visible : VisibleSentence} {repetition : Repetition} {anchor : TokenRef}
  {radius position : Nat}

/-! ## Rounds -/

/-- The rounds in which a match is repeated. -/
def rounds (repetition : Repetition) (visible : VisibleSentence) (anchor : TokenRef) : List Nat :=
  (List.range repetition.count).filter fun round =>
    (repetition.span? visible anchor round).isSome

theorem mem_rounds {round : Nat} :
    round ∈ repetition.rounds visible anchor ↔
      round < repetition.count ∧ ∃ span, repetition.span? visible anchor round = some span := by
  rw [rounds, List.mem_filter, List.mem_range, Option.isSome_iff_exists]

theorem rounds_sorted : (repetition.rounds visible anchor).Pairwise (· < ·) :=
  List.pairwise_lt_range.filter _

private theorem forall₂_filterMap {α β : Type} (f : α → Option β) {p : α → Prop}
    {elements : List α} (helements : ∀ a ∈ elements, p a) :
    List.Forall₂ (fun a b => p a ∧ f a = some b) (elements.filter fun a => (f a).isSome)
      (elements.filterMap f) := by
  induction elements with
  | nil => exact .nil
  | cons a rest ih =>
      obtain ⟨hfirst, hrest⟩ := List.forall_mem_cons.mp helements
      cases ha : f a with
      | none =>
          rw [List.filterMap_cons_none ha, List.filter_cons_of_neg (by simp [ha])]
          exact ih hrest
      | some b =>
          rw [List.filterMap_cons_some ha, List.filter_cons_of_pos (by simp [ha])]
          exact .cons ⟨hfirst, ha⟩ (ih hrest)

theorem forall₂_rounds :
    List.Forall₂ (fun round span => round < repetition.count ∧
        repetition.span? visible anchor round = some span)
      (repetition.rounds visible anchor) (repetition.spans visible anchor) :=
  forall₂_filterMap _ fun _ => List.mem_range.mp

private theorem exists_shows {positions : List Nat}
    (hbound : ∀ position ∈ positions, position < visible.size) (leftEnd rightStart : Nat) :
    ∃ span : Span, span.Shows visible positions ∧ span.leftEnd = leftEnd ∧
      span.rightStart = rightStart := by
  obtain ⟨tokens, htokens⟩ : ∃ tokens, List.map some tokens = positions.map visible.at? := by
    induction positions with
    | nil => exact ⟨[], rfl⟩
    | cons position rest ih =>
        obtain ⟨hfirst, hrest⟩ := List.forall_mem_cons.mp hbound
        obtain ⟨ref, href⟩ := VisibleSentence.exists_at?_iff.mpr hfirst
        obtain ⟨tokens, htokens⟩ := ih hrest
        exact ⟨ref :: tokens, by rw [List.map_cons, List.map_cons, htokens, href]⟩
  exact ⟨⟨tokens, leftEnd, rightStart⟩, htokens, rfl, rfl⟩

/-- There is a gram in each round in which it lies within the sentence. -/
theorem exists_gram?_iff {size back : Nat} :
    (∃ span, gram? visible size position back = some span) ↔
      back ≤ position ∧ 0 < wrapped (position - back + size) ∧
        wrapped (position - back + size) ≤ visible.size := by
  simp only [gram?_eq_some_iff, between?_eq_some_iff]
  constructor
  · rintro ⟨_, hback, hbounds, -⟩
    exact ⟨hback, hbounds⟩
  · rintro ⟨hback, hbounds⟩
    have hwithin : ∀ place ∈ List.range' (position - back)
        (wrapped (position - back + size) - (position - back)), place < visible.size := by
      intro place hplace
      have hrange := List.mem_range'_1.mp hplace
      omega
    obtain ⟨span, hspan⟩ := exists_shows hwithin (position - back)
      (wrapped (position - back + size))
    exact ⟨span, hback, hbounds, hspan⟩

/-- There is a collocate in each round in which it is another token of the sentence. -/
theorem exists_collocate?_iff {place : Nat} (hposition : position < visible.size) :
    (∃ span, collocate? visible radius position place = some span) ↔
      place ≠ radius ∧ radius ≤ wrapped (position + place) ∧
        wrapped (position + place) - radius < visible.size := by
  simp only [collocate?_eq_some_iff, beside?_eq_some_iff]
  constructor
  · rintro ⟨_, hother, hbounds, -⟩
    exact ⟨hother, hbounds⟩
  · rintro ⟨hother, hbounds⟩
    have hwithin : ∀ other ∈ [min (wrapped (position + place) - radius) position,
        max (wrapped (position + place) - radius) position], other < visible.size := by
      intro other hmem
      rcases List.mem_pair.mp hmem with rfl | rfl
      · omega
      · omega
    obtain ⟨span, hspan⟩ := exists_shows hwithin position (position + 1)
    exact ⟨span, hother, hbounds, hspan⟩

/-! ## Repetitions of a token -/

theorem spans_of_isRoot (hrepeats : repetition.expansion.isSome) (hroot : anchor.isRoot = true) :
    repetition.spans visible anchor = [] := by
  rw [spans, List.filterMap_eq_nil_iff]
  intro round _
  obtain ⟨expansion, hexpansion⟩ := Option.isSome_iff_exists.mp hrepeats
  rw [span?, if_pos hroot, hexpansion]

/-- Sizes that are far from the limit fit wherever the match stands. -/
theorem fits_of_size_lt {parse : Parse} (hnumbered : parse.WellNumbered) {filter : WordFilter}
    {lexicon : Lexicon}
    (hgrams : (parse.visible filter lexicon).size + repetition.gramSize < sizeLimit)
    (hwindow : (parse.visible filter lexicon).size + 2 * repetition.windowRadius + 1 < sizeLimit)
    (anchor : TokenRef) : repetition.Fits (parse.visible filter lexicon) anchor where
  total := by
    unfold total
    split
    · omega
    · omega
    · decide
  rounds round hround := by
    refine ⟨fun _ _ position hposition _ => ?_, fun hexpansion _ position hposition _ => ?_⟩
    · have hend := hnumbered.lt_size_of_position? hposition
      omega
    · have hend := hnumbered.lt_size_of_position? hposition
      simp only [total, hexpansion] at hround
      omega

section

variable {parse : Parse} {filter : WordFilter} {lexicon : Lexicon}
  (hnumbered : parse.WellNumbered)
  (hanchor : (parse.visible filter lexicon).at? position = some anchor) {size round : Nat}

include hnumbered hanchor

theorem span?_of_at? (expansion : Expansion) :
    (⟨some expansion, size, radius⟩ : Repetition).span? (parse.visible filter lexicon) anchor
        round =
      match expansion with
      | .gram => gram? (parse.visible filter lexicon) size position round
      | .window => collocate? (parse.visible filter lexicon) radius position round := by
  obtain ⟨-, hposition⟩ := hnumbered.at?_eq_some_iff.mp hanchor
  have hroot : anchor.isRoot = false := beq_false_of_ne (hnumbered.pos_of_position? hposition).ne'
  rw [span?, hroot, if_neg Bool.false_ne_true, hposition]
  cases expansion with
  | gram => rfl
  | window => rfl

/-- The first gram ends furthest to the right. -/
private theorem add_size_lt
    (hfits : (⟨some .gram, size, radius⟩ : Repetition).Fits (parse.visible filter lexicon) anchor)
    (hsize : 0 < size) : position + size < sizeLimit := by
  obtain ⟨-, hposition⟩ := hnumbered.at?_eq_some_iff.mp hanchor
  have hroot : anchor.isRoot = false := beq_false_of_ne (hnumbered.pos_of_position? hposition).ne'
  exact (hfits.rounds 0 hsize).gram rfl hroot position hposition (Nat.zero_le position)

/-- The last place of a window reaches furthest to the right. -/
private theorem add_two_mul_lt
    (hfits : (⟨some .window, size, radius⟩ : Repetition).Fits (parse.visible filter lexicon) anchor)
    (hradius : 0 < radius) : position + 2 * radius < sizeLimit := by
  obtain ⟨-, hposition⟩ := hnumbered.at?_eq_some_iff.mp hanchor
  have hroot : anchor.isRoot = false := beq_false_of_ne (hnumbered.pos_of_position? hposition).ne'
  have hother : 2 * radius ≠ radius := by omega
  exact (hfits.rounds (2 * radius) (Nat.lt_succ_self _)).window rfl hroot position hposition hother

theorem wrapped_sub_add
    (hfits : (⟨some .gram, size, radius⟩ : Repetition).Fits (parse.visible filter lexicon) anchor)
    (hround : round < size) : wrapped (position - round + size) = position - round + size := by
  have hlimit := add_size_lt hnumbered hanchor hfits (Nat.zero_lt_of_lt hround)
  exact wrapped_of_lt (by omega)

theorem wrapped_add
    (hfits : (⟨some .window, size, radius⟩ : Repetition).Fits (parse.visible filter lexicon) anchor)
    (hround : round < 2 * radius + 1) (hother : round ≠ radius) :
    wrapped (position + round) = position + round := by
  have hlimit := add_two_mul_lt hnumbered hanchor hfits (by omega)
  exact wrapped_of_lt (by omega)

/-- A gram is made in the round that is its distance from the match. -/
theorem mem_rounds_gram_iff
    (hfits : (⟨some .gram, size, radius⟩ : Repetition).Fits (parse.visible filter lexicon) anchor) :
    round ∈ (⟨some .gram, size, radius⟩ : Repetition).rounds (parse.visible filter lexicon)
        anchor ↔
      round < size ∧ round ≤ position ∧
        position - round + size ≤ (parse.visible filter lexicon).size := by
  have hcount : (⟨some .gram, size, radius⟩ : Repetition).count = size := wrapped_of_lt hfits.total
  rw [mem_rounds, hcount]
  simp only [span?_of_at? hnumbered hanchor, exists_gram?_iff]
  refine and_congr_right fun hround => and_congr_right fun _ => ?_
  rw [wrapped_sub_add hnumbered hanchor hfits hround]
  omega

/-- A pair is made in the round that is its place in the window. -/
theorem mem_rounds_window_iff
    (hfits : (⟨some .window, size, radius⟩ : Repetition).Fits (parse.visible filter lexicon)
      anchor) :
    round ∈ (⟨some .window, size, radius⟩ : Repetition).rounds (parse.visible filter lexicon)
        anchor ↔
      round < 2 * radius + 1 ∧ round ≠ radius ∧ radius ≤ position + round ∧
        position + round - radius < (parse.visible filter lexicon).size := by
  have hcount : (⟨some .window, size, radius⟩ : Repetition).count = 2 * radius + 1 :=
    wrapped_of_lt hfits.total
  rw [mem_rounds, hcount]
  simp only [span?_of_at? hnumbered hanchor,
    exists_collocate?_iff (VisibleSentence.lt_size_of_at? hanchor)]
  refine and_congr_right fun hround => and_congr_right fun hother => ?_
  rw [wrapped_add hnumbered hanchor hfits hround hother]

theorem shows_of_gram
    (hfits : (⟨some .gram, size, radius⟩ : Repetition).Fits (parse.visible filter lexicon) anchor)
    (hround : round < size) {span : Span}
    (hspan : (⟨some .gram, size, radius⟩ : Repetition).span? (parse.visible filter lexicon)
      anchor round = some span) :
    span.Shows (parse.visible filter lexicon) (List.range' (position - round) size) ∧
      span.leftEnd = position - round ∧ span.rightStart = position - round + size := by
  rw [span?_of_at? hnumbered hanchor] at hspan
  obtain ⟨-, hbetween⟩ := gram?_eq_some_iff.mp hspan
  rw [wrapped_sub_add hnumbered hanchor hfits hround] at hbetween
  obtain ⟨-, hshows⟩ := between?_eq_some_iff.mp hbetween
  rwa [Nat.add_sub_cancel_left] at hshows

/-- The token beside the match in a round is the one at the place of the round. -/
theorem shows_of_collocate
    (hfits : (⟨some .window, size, radius⟩ : Repetition).Fits (parse.visible filter lexicon)
      anchor) (hround : round < 2 * radius + 1) {span : Span}
    (hspan : (⟨some .window, size, radius⟩ : Repetition).span? (parse.visible filter lexicon)
      anchor round = some span) :
    (round ≠ radius ∧ radius ≤ position + round) ∧
      span.Shows (parse.visible filter lexicon) [min (position + round - radius) position,
        max (position + round - radius) position] ∧
      span.leftEnd = position ∧ span.rightStart = position + 1 := by
  rw [span?_of_at? hnumbered hanchor] at hspan
  obtain ⟨hother, hbeside⟩ := collocate?_eq_some_iff.mp hspan
  rw [wrapped_add hnumbered hanchor hfits hround hother] at hbeside
  obtain ⟨⟨hreach, -⟩, hshows⟩ := beside?_eq_some_iff.mp hbeside
  exact ⟨⟨hother, hreach⟩, hshows⟩

/-- Two tokens are a pair of a window if they are no further apart than its radius, and the
match is one of them. -/
theorem exists_pair_iff
    (hfits : (⟨some .window, size, radius⟩ : Repetition).Fits (parse.visible filter lexicon)
      anchor) {first second : TokenRef} {left right : Nat}
    (hfirst : (parse.visible filter lexicon).at? left = some first)
    (hsecond : (parse.visible filter lexicon).at? right = some second) :
    (∃ span ∈ (⟨some .window, size, radius⟩ : Repetition).spans (parse.visible filter lexicon)
        anchor, span.tokens = [first, second]) ↔
      left < right ∧ right ≤ left + radius ∧ (position = left ∨ position = right) := by
  constructor
  · rintro ⟨span, hspan, htokens⟩
    obtain ⟨round, hround, hspan⟩ := List.mem_filterMap.mp hspan
    rw [List.mem_range] at hround
    have hcount : round < 2 * radius + 1 := hround.trans_eq (wrapped_of_lt hfits.total)
    obtain ⟨hplace, hshows, -⟩ := shows_of_collocate hnumbered hanchor hfits hcount hspan
    rw [Span.Shows, htokens] at hshows
    obtain ⟨hleft, hright⟩ := List.cons.inj hshows
    have hmin := hnumbered.at?_inj hleft.symm hfirst
    have hmax := hnumbered.at?_inj (List.cons.inj hright).1.symm hsecond
    omega
  · intro hpair
    have hend := VisibleSentence.lt_size_of_at? hsecond
    have hround : left + right + radius - 2 * position ∈
        (⟨some .window, size, radius⟩ : Repetition).rounds (parse.visible filter lexicon)
          anchor := by
      rw [mem_rounds_window_iff hnumbered hanchor hfits]
      omega
    obtain ⟨hcount, span, hspan⟩ := mem_rounds.mp hround
    refine ⟨span, List.mem_filterMap.mpr ⟨_, List.mem_range.mpr hcount, hspan⟩, ?_⟩
    obtain ⟨-, hshows, -⟩ := shows_of_collocate hnumbered hanchor hfits (by omega) hspan
    -- The token in this round is the one of the two that is not the match.
    have hplaces : [min (position + (left + right + radius - 2 * position) - radius) position,
        max (position + (left + right + radius - 2 * position) - radius) position] =
          [left, right] := by
      congr 2
      · omega
      · omega
    rw [hplaces, Span.Shows, List.map_cons, List.map_cons, hfirst, hsecond] at hshows
    exact List.map_injective_iff.mpr (Option.some_injective _) hshows

end

/-! ## Grams and windows -/

/-- The first sentence of the sample.  Without *the* it is *cat sat he* and a comma. -/
def sampleParse : Parse := Treebank.sample.parses.head (List.cons_ne_nil _ _)

/-- A lexicon in which *the* belongs to the closed class. -/
def sampleLexicon : Lexicon := Lexicon.empty.addClosedClass ["the"]

/-- **The grams of a match are those around it.**  In a well-numbered sentence, whatever a
filter leaves of it, a visible token is repeated as one gram for each place that is no more than
`size - 1` tokens before it and from which `size` tokens are left, if the sums of this fit: those
that start last come first.  Each shows the tokens from its start to its end in their order, and
its contexts are what is before its start and what is after its end.

There are no grams of the root, and no grams of no tokens. -/
theorem spans_gram {parse : Parse} (hnumbered : parse.WellNumbered) (filter : WordFilter)
    (lexicon : Lexicon) (size radius : Nat) :
    let visible := parse.visible filter lexicon
    let repetition : Repetition := ⟨some .gram, size, radius⟩
    (∀ anchor position, visible.at? position = some anchor → repetition.Fits visible anchor →
      ∃ starts : List Nat, starts.Pairwise (· > ·) ∧
        (∀ start, start ∈ starts ↔
          position + 1 - size ≤ start ∧ start ≤ position ∧ start + size ≤ visible.size) ∧
        List.Forall₂ (fun start span => span.Shows visible (List.range' start size) ∧
          span.leftEnd = start ∧ span.rightStart = start + size)
            starts (repetition.spans visible anchor)) ∧
    ∀ anchor, anchor.isRoot = true ∨ size = 0 → repetition.spans visible anchor = [] := by
  intro visible repetition
  constructor
  · intro anchor position hanchor hfits
    have hrounds : ∀ round, round ∈ repetition.rounds visible anchor ↔
        round < size ∧ round ≤ position ∧ position - round + size ≤ visible.size :=
      fun _ => mem_rounds_gram_iff hnumbered hanchor hfits
    -- A round is how far the gram starts before the match, so that later rounds start earlier.
    refine ⟨(repetition.rounds visible anchor).map (position - ·), ?_, ?_, ?_⟩
    · refine List.pairwise_map.mpr (rounds_sorted.imp_of_mem fun hone hother hlt => ?_)
      have hback := (hrounds _).mp hother
      omega
    · intro start
      simp only [List.mem_map, hrounds]
      constructor
      · rintro ⟨round, hround, rfl⟩
        omega
      · intro hstart
        exact ⟨position - start, by omega, by omega⟩
    · refine List.forall₂_map_left_iff.mpr (forall₂_rounds.imp fun round span hspan => ?_)
      exact shows_of_gram hnumbered hanchor hfits (hspan.1.trans_le (Nat.mod_le _ _)) hspan.2
  · rintro anchor (hroot | rfl)
    · exact spans_of_isRoot rfl hroot
    · rfl

/-- Two grams of three tokens contain *sat*.  The one that would start at *the* is not there. -/
theorem spans_gram_sat :
    sampleParse.WellNumbered ∧
      let visible := sampleParse.visible ⟨none, true⟩ sampleLexicon
      let repetition : Repetition := ⟨some .gram, 3, 2⟩
      visible.at? 1 = some ⟨7, 3⟩ ∧ repetition.Fits visible ⟨7, 3⟩ ∧
        (∃ starts : List Nat, starts.Pairwise (· > ·) ∧
          (∀ start, start ∈ starts ↔ 1 + 1 - 3 ≤ start ∧ start ≤ 1 ∧ start + 3 ≤ visible.size) ∧
          List.Forall₂ (fun start span => span.Shows visible (List.range' start 3) ∧
            span.leftEnd = start ∧ span.rightStart = start + 3)
              starts (repetition.spans visible ⟨7, 3⟩)) ∧
        repetition.spans visible ⟨7, 3⟩ =
          [⟨[⟨7, 3⟩, ⟨7, 5⟩, ⟨7, 6⟩], 1, 4⟩, ⟨[⟨7, 2⟩, ⟨7, 3⟩, ⟨7, 5⟩], 0, 3⟩] ∧
        repetition.spans visible ⟨7, rootIndex⟩ = [] := by
  have hnumbered : sampleParse.WellNumbered := by decide
  obtain ⟨hgrams, hnone⟩ := spans_gram hnumbered ⟨none, true⟩ sampleLexicon 3 2
  have hsat : (sampleParse.visible ⟨none, true⟩ sampleLexicon).at? 1 = some ⟨7, 3⟩ := by
    decide +kernel
  have hfits : (⟨some .gram, 3, 2⟩ : Repetition).Fits
      (sampleParse.visible ⟨none, true⟩ sampleLexicon) ⟨7, 3⟩ :=
    fits_of_size_lt hnumbered (by decide +kernel) (by decide +kernel) _
  refine ⟨hnumbered, hsat, hfits, hgrams _ _ hsat hfits, ?_, hnone _ (.inl rfl)⟩
  decide +kernel

/-- **The collocates of a match are the tokens near it.**  In a well-numbered sentence, whatever
a filter leaves of it, a visible token is repeated beside each other token that is no further from
it than `radius`, if the sums of this fit, those to the left first.  Each span shows the two in
their order, and its contexts are what is before the match and what is after it.

So two visible tokens are shown as a pair for one of them if and only if they are for the other.
The root has no collocates. -/
theorem spans_window {parse : Parse} (hnumbered : parse.WellNumbered) (filter : WordFilter)
    (lexicon : Lexicon) (size radius : Nat) :
    let visible := parse.visible filter lexicon
    let repetition : Repetition := ⟨some .window, size, radius⟩
    (∀ anchor position, visible.at? position = some anchor → repetition.Fits visible anchor →
      ∃ others : List Nat, others.Pairwise (· < ·) ∧
        (∀ other, other ∈ others ↔ other < visible.size ∧ other ≠ position ∧
          ((other : Int) - position).natAbs ≤ radius) ∧
        List.Forall₂ (fun other span =>
          span.Shows visible [min other position, max other position] ∧
          span.leftEnd = position ∧ span.rightStart = position + 1)
            others (repetition.spans visible anchor)) ∧
    (∀ first ∈ visible.refs, ∀ second ∈ visible.refs,
      repetition.Fits visible first → repetition.Fits visible second →
      ((∃ span ∈ repetition.spans visible first, span.tokens = [first, second]) ↔
        ∃ span ∈ repetition.spans visible second, span.tokens = [first, second])) ∧
    ∀ anchor, anchor.isRoot = true → repetition.spans visible anchor = [] := by
  intro visible repetition
  refine ⟨?_, ?_, fun _ => spans_of_isRoot rfl⟩
  · intro anchor position hanchor hfits
    have hcount : repetition.count = 2 * radius + 1 := wrapped_of_lt hfits.total
    have hrounds : ∀ round, round ∈ repetition.rounds visible anchor ↔
        round < 2 * radius + 1 ∧ round ≠ radius ∧ radius ≤ position + round ∧
          position + round - radius < visible.size :=
      fun _ => mem_rounds_window_iff hnumbered hanchor hfits
    have hposition : position < visible.size := VisibleSentence.lt_size_of_at? hanchor
    -- The token of a round stands as far from the match as the round from the middle one.
    refine ⟨(repetition.rounds visible anchor).map (position + · - radius), ?_, ?_, ?_⟩
    · refine List.pairwise_map.mpr (rounds_sorted.imp_of_mem fun hone hother hlt => ?_)
      have hlow := (hrounds _).mp hone
      omega
    · intro other
      simp only [List.mem_map, hrounds]
      constructor
      · rintro ⟨round, hround, rfl⟩
        omega
      · intro hother
        exact ⟨other + radius - position, by omega, by omega⟩
    · refine List.forall₂_map_left_iff.mpr (forall₂_rounds.imp fun round span hspan => ?_)
      exact (shows_of_collocate hnumbered hanchor hfits (hspan.1.trans_eq hcount) hspan.2).2
  · intro first hfirst second hsecond hfitsFirst hfitsSecond
    obtain ⟨left, hleft⟩ := VisibleSentence.exists_at?_of_mem_refs hfirst
    obtain ⟨right, hright⟩ := VisibleSentence.exists_at?_of_mem_refs hsecond
    -- Whether there is the pair depends on the two positions, and not on which is the match.
    rw [exists_pair_iff hnumbered hleft hfitsFirst hleft hright,
      exists_pair_iff hnumbered hright hfitsSecond hleft hright]
    simp only [true_or, or_true]

theorem spans_window_sat :
    sampleParse.WellNumbered ∧
      let visible := sampleParse.visible ⟨none, true⟩ sampleLexicon
      let repetition : Repetition := ⟨some .window, 2, 1⟩
      visible.at? 1 = some ⟨7, 3⟩ ∧ (∀ anchor, repetition.Fits visible anchor) ∧
        (∃ others : List Nat, others.Pairwise (· < ·) ∧
          (∀ other, other ∈ others ↔ other < visible.size ∧ other ≠ 1 ∧
            ((other : Int) - 1).natAbs ≤ 1) ∧
          List.Forall₂ (fun other span => span.Shows visible [min other 1, max other 1] ∧
            span.leftEnd = 1 ∧ span.rightStart = 1 + 1)
              others (repetition.spans visible ⟨7, 3⟩)) ∧
        repetition.spans visible ⟨7, 3⟩ =
          [⟨[⟨7, 2⟩, ⟨7, 3⟩], 1, 2⟩, ⟨[⟨7, 3⟩, ⟨7, 5⟩], 1, 2⟩] ∧
        (∃ span ∈ repetition.spans visible ⟨7, 2⟩, span.tokens = [⟨7, 2⟩, ⟨7, 3⟩]) ∧
        repetition.spans visible ⟨7, rootIndex⟩ = [] := by
  have hnumbered : sampleParse.WellNumbered := by decide
  obtain ⟨hcollocates, hpairs, hnone⟩ := spans_window hnumbered ⟨none, true⟩ sampleLexicon 2 1
  have hsat : (sampleParse.visible ⟨none, true⟩ sampleLexicon).at? 1 = some ⟨7, 3⟩ := by
    decide +kernel
  have hcat : ⟨7, 2⟩ ∈ (sampleParse.visible ⟨none, true⟩ sampleLexicon).refs := by
    decide +kernel
  have hfits : ∀ anchor, (⟨some .window, 2, 1⟩ : Repetition).Fits
      (sampleParse.visible ⟨none, true⟩ sampleLexicon) anchor :=
    fits_of_size_lt hnumbered (by decide +kernel) (by decide +kernel)
  have hspans : (⟨some .window, 2, 1⟩ : Repetition).spans
      (sampleParse.visible ⟨none, true⟩ sampleLexicon) ⟨7, 3⟩ =
        [⟨[⟨7, 2⟩, ⟨7, 3⟩], 1, 2⟩, ⟨[⟨7, 3⟩, ⟨7, 5⟩], 1, 2⟩] := by
    decide +kernel
  refine ⟨hnumbered, hsat, hfits, hcollocates _ _ hsat (hfits _), hspans, ?_, hnone _ rfl⟩
  apply (hpairs _ hcat _ (VisibleSentence.mem_refs_of_at? hsat) (hfits _) (hfits _)).mpr
  rw [hspans]
  exact ⟨_, List.mem_cons_self, rfl⟩

end Repetition

end Concordancer
