import Concordancer.Proofs.Sentence.Likeness
import Concordancer.Span

/-!
# What spans depend on

Sentences that look alike have the same spans (`spans_eq`).  A gram and a collocate show the
tokens at certain positions (`gram?_eq_some_iff`, `collocate?_eq_some_iff`).  So a span shows
the match itself or visible tokens of its sentence (`mem_tokens_of_mem_spans`), and a match that
is not repeated has one span (`spans_eq_singleton`).

Which positions these are is as it seems where the sums behind them fit in 64 bits
(`Repetition.Fits`).
-/

namespace Concordancer

/-! ## Sums in 64 bits -/

theorem wrapped_lt (sum : Nat) : wrapped sum < sizeLimit := Nat.mod_lt sum (by decide)

theorem wrapped_of_lt {sum : Nat} (hsum : sum < sizeLimit) : wrapped sum = sum :=
  Nat.mod_eq_of_lt hsum

/-- A gram that goes on for some tokens ends behind them, or its end wraps around to where it
starts or before that. -/
theorem lt_wrapped_or_overflows (start : Nat) {back size : Nat} (hback : back < wrapped size) :
    start + back < wrapped (start + size) ∨
      wrapped (start + size) ≤ start ∧ sizeLimit ≤ start + size := by
  simp only [wrapped, sizeLimit, UInt64.size] at hback ⊢
  omega

/-- Another place in a window is never wrapped around to the match itself. -/
theorem wrapped_sub_ne {position place radius : Nat} (hplace : place < sizeLimit)
    (hother : place ≠ radius) (hreach : radius ≤ wrapped (position + place)) :
    wrapped (position + place) - radius ≠ position := by
  simp only [wrapped, sizeLimit, UInt64.size] at hplace hreach ⊢
  omega

/-- The sum that is made in a round to repeat a match fits in 64 bits. -/
structure Repetition.RoundFits (repetition : Repetition) (visible : VisibleSentence)
    (anchor : TokenRef) (round : Nat) : Prop where
  /-- Where a gram ends. -/
  gram : repetition.expansion = some .gram → anchor.isRoot = false → ∀ position,
    visible.position? anchor.index = some position → round ≤ position →
      position - round + repetition.gramSize < sizeLimit
  /-- How far a place of a window reaches. -/
  window : repetition.expansion = some .window → anchor.isRoot = false → ∀ position,
    visible.position? anchor.index = some position → round ≠ repetition.windowRadius →
      position + round < sizeLimit

/-- Each sum that is made to repeat a match in its sentence fits in 64 bits. -/
structure Repetition.Fits (repetition : Repetition) (visible : VisibleSentence)
    (anchor : TokenRef) : Prop where
  /-- How often the match is repeated. -/
  total : repetition.total < sizeLimit
  rounds : ∀ round < repetition.total, repetition.RoundFits visible anchor round

/-! ## The tokens that a span shows -/

/-- A span shows the tokens at these positions, in this order. -/
def Span.Shows (span : Span) (visible : VisibleSentence) (positions : List Nat) : Prop :=
  span.tokens.map some = positions.map visible.at?

theorem Span.Shows.mem_refs {visible : VisibleSentence} {span : Span} {positions : List Nat}
    (hshows : span.Shows visible positions) {ref : TokenRef} (href : ref ∈ span.tokens) :
    ref ∈ visible.refs := by
  have hmem : some ref ∈ positions.map visible.at? := hshows ▸ List.mem_map_of_mem href
  obtain ⟨position, -, hat⟩ := List.mem_map.mp hmem
  exact VisibleSentence.mem_refs_of_at? hat

namespace Repetition

variable {visible first second : VisibleSentence}

theorem spans_eq (halike : first.LooksLike second) (repetition : Repetition) (anchor : TokenRef) :
    repetition.spans first anchor = repetition.spans second anchor := by
  have hspan : repetition.span? first anchor = repetition.span? second anchor := by
    funext round
    simp only [span?, gram?, between?, collocate?, beside?, halike.position?_eq, halike.size_eq,
      halike.at?_eq]
  rw [spans, spans, hspan]

/-! ## The tokens of a span -/

private theorem mapM_eq_some_iff {α β : Type} {f : α → Option β} {elements : List α}
    {results : List β} : elements.mapM f = some results ↔ results.map some = elements.map f := by
  induction elements generalizing results with
  | nil =>
      rw [List.mapM_nil, List.map_nil, List.map_eq_nil_iff]
      exact ⟨fun hnil => (Option.some.inj hnil).symm, fun hnil => hnil ▸ rfl⟩
  | cons a rest ih =>
      rw [List.mapM_cons, List.map_cons]
      constructor
      · intro hresults
        obtain ⟨b, hb, hfurther⟩ := Option.bind_eq_some_iff.mp hresults
        obtain ⟨further, hrest, hcons⟩ := Option.bind_eq_some_iff.mp hfurther
        rw [← Option.some.inj hcons, List.map_cons, ih.mp hrest, hb]
      · intro hresults
        obtain ⟨b, further, rfl, hb, hrest⟩ := List.map_eq_cons_iff.mp hresults
        rw [← hb, ih.mpr hrest]
        rfl

theorem between?_eq_some_iff {start stop : Nat} {span : Span} :
    between? visible start stop = some span ↔
      (0 < stop ∧ stop ≤ visible.size) ∧
        span.Shows visible (List.range' start (stop - start)) ∧
        span.leftEnd = start ∧ span.rightStart = stop := by
  obtain ⟨tokens, leftEnd, rightStart⟩ := span
  simp only [between?, Option.ite_none_left_eq_some, Option.bind_eq_bind, Option.bind_eq_some_iff,
    Option.some.injEq, Bool.or_eq_true, decide_eq_true_eq, not_or, Nat.not_lt, mapM_eq_some_iff,
    Span.mk.injEq, Span.Shows, Nat.pos_iff_ne_zero]
  constructor
  · rintro ⟨hbounds, _, hshows, rfl, rfl, rfl⟩
    exact ⟨hbounds, hshows, rfl, rfl⟩
  · rintro ⟨hbounds, hshows, rfl, rfl⟩
    exact ⟨hbounds, tokens, hshows, rfl, rfl, rfl⟩

theorem beside?_eq_some_iff {radius position place : Nat} {span : Span} :
    beside? visible radius position place = some span ↔
      (radius ≤ place ∧ place - radius < visible.size) ∧
        span.Shows visible [min (place - radius) position, max (place - radius) position] ∧
        span.leftEnd = position ∧ span.rightStart = position + 1 := by
  obtain ⟨tokens, leftEnd, rightStart⟩ := span
  simp only [beside?, Option.ite_none_left_eq_some, Option.bind_eq_bind,
    Option.bind_eq_some_iff, Option.some.injEq, Bool.or_eq_true, decide_eq_true_eq, not_or,
    Nat.not_lt, Nat.not_le, Span.mk.injEq, Span.Shows, List.map_cons, List.map_nil]
  constructor
  · rintro ⟨hbounds, first, hfirst, second, hsecond, rfl, rfl, rfl⟩
    rw [hfirst, hsecond]
    exact ⟨hbounds, rfl, rfl, rfl⟩
  · rintro ⟨hbounds, hshows, rfl, rfl⟩
    obtain ⟨first, rest, rfl, hfirst, hrest⟩ := List.map_eq_cons_iff.mp hshows
    obtain ⟨second, none, rfl, hsecond, hnone⟩ := List.map_eq_cons_iff.mp hrest
    obtain rfl := List.map_eq_nil_iff.mp hnone
    exact ⟨hbounds, first, hfirst.symm, second, hsecond.symm, rfl, rfl, rfl⟩

/-- A gram starts so many tokens before the match, within the sentence, and ends within it. -/
theorem gram?_eq_some_iff {size position back : Nat} {span : Span} :
    gram? visible size position back = some span ↔
      back ≤ position ∧ between? visible (position - back) (wrapped (position - back + size)) =
        some span := by
  rw [gram?, Option.ite_none_left_eq_some, Nat.not_lt]

/-- A collocate is another token of the sentence than the match, and stands on its side of it. -/
theorem collocate?_eq_some_iff {radius position place : Nat} {span : Span} :
    collocate? visible radius position place = some span ↔
      place ≠ radius ∧ beside? visible radius position (wrapped (position + place)) =
        some span := by
  rw [collocate?, Option.ite_none_left_eq_some]

/-- A span shows the match itself or visible tokens of its sentence. -/
theorem mem_tokens_of_mem_spans {repetition : Repetition} {anchor : TokenRef} {span : Span}
    (hspan : span ∈ repetition.spans visible anchor) {ref : TokenRef} (href : ref ∈ span.tokens) :
    ref = anchor ∨ ref ∈ visible.refs := by
  obtain ⟨round, -, hround⟩ := List.mem_filterMap.mp hspan
  unfold span? at hround
  -- The cases are those of `span?`: the root or not, and then the kind of repetition.
  split at hround
  · split at hround
    · obtain rfl := Option.some.inj hround
      exact .inl (List.mem_singleton.mp href)
    · contradiction
  · obtain ⟨position, -, hposition⟩ := Option.bind_eq_some_iff.mp hround
    split at hposition
    · obtain rfl := Option.some.inj hposition
      exact .inl (List.mem_singleton.mp href)
    · have hgram := between?_eq_some_iff.mp (gram?_eq_some_iff.mp hposition).2
      exact .inr (hgram.2.1.mem_refs href)
    · have hpair := beside?_eq_some_iff.mp (collocate?_eq_some_iff.mp hposition).2
      exact .inr (hpair.2.1.mem_refs href)

theorem tokens_of_mem_spans {repetition : Repetition} (hexpansion : repetition.expansion = none)
    {anchor : TokenRef} {span : Span} (hspan : span ∈ repetition.spans visible anchor) :
    span.tokens = [anchor] := by
  obtain ⟨round, -, hround⟩ := List.mem_filterMap.mp hspan
  unfold span? at hround
  rw [hexpansion] at hround
  split at hround
  · obtain rfl := Option.some.inj hround
    rfl
  · obtain ⟨position, -, hposition⟩ := Option.bind_eq_some_iff.mp hround
    obtain rfl := Option.some.inj hposition
    rfl

/-- What is visible and not repeated is shown once. -/
theorem spans_eq_singleton (repetition : Repetition) (hexpansion : repetition.expansion = none)
    {anchor : TokenRef} (hshows : visible.shows anchor.index = true) :
    ∃ span, repetition.spans visible anchor = [span] ∧ span.tokens = [anchor] := by
  obtain ⟨span, hspan⟩ : ∃ span, repetition.span? visible anchor 0 = some span := by
    unfold span?
    rw [hexpansion]
    cases hroot : anchor.isRoot with
    | true => exact ⟨_, rfl⟩
    | false =>
        have hindex : (anchor.index == rootIndex) = false := hroot
        rw [VisibleSentence.shows, hindex, Bool.false_or] at hshows
        obtain ⟨position, hposition⟩ := Option.isSome_iff_exists.mp hshows
        rw [hposition]
        exact ⟨_, rfl⟩
  have hspans : repetition.spans visible anchor = [span] := by
    -- There is one round only, which is the one just found.
    have hcount : repetition.count = 1 := by
      rw [count, total, hexpansion]
      rfl
    rw [spans, hcount, List.range_one, List.filterMap_cons_some hspan, List.filterMap_nil]
  exact ⟨span, hspans, tokens_of_mem_spans hexpansion (hspans ▸ List.mem_singleton.mpr rfl)⟩

end Repetition

end Concordancer
