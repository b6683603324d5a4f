import Concordancer.Proofs.Presentation.Answer
import Concordancer.Proofs.Presentation.Spans

/-!
# Sums that are checked

A build may check its sums in 64 bits.  Where a sum does not fit it then gives up, while a build
that does not check goes on with what is left of the sum.  Sums of sizes that come from outside
are made to repeat matches only: for the number of repetitions, the end of a gram, and the place
of a collocate.  So a checked run differs from the other one only there.

`CompiledQuery.SumsFit` says that all sums of a run fit.  If they do, a checked run ends as the
other one does, after the same looks at the signal (`looks_executeChecked`).  If they do not, it
gives up (`looks_executeChecked_none`).

## Strategy

Each function that makes a sum has a checked version beside it, with `none` for giving up, and
all others are used as they are.  `Repetition.Fits` is what the spans of a match need to be the
same, and they are not made without it (`spansChecked_eq_some_iff`).  Rendering one match after
the other is then either the same run, or ends at the first match whose sums do not fit.
-/

namespace Concordancer

/-- A sum in 64 bits, unless it does not fit. -/
def checked (sum : Nat) : Option Nat := if sum < sizeLimit then some sum else none

theorem checked_eq_some_iff {sum size : Nat} :
    checked sum = some size ↔ sum < sizeLimit ∧ sum = size := by
  rw [checked, Option.ite_none_right_eq_some, Option.some.injEq]

/-- What is made of a sum that fits is what is made of it unchecked. -/
theorem map_checked_eq_some_iff {α : Type} {f : Nat → α} {sum : Nat} {a : α} :
    (checked sum).map f = some a ↔ sum < sizeLimit ∧ f (wrapped sum) = a := by
  rw [Option.map_eq_some_iff]
  constructor
  · rintro ⟨size, hsize, rfl⟩
    obtain ⟨hfits, rfl⟩ := checked_eq_some_iff.mp hsize
    rw [wrapped_of_lt hfits]
    exact ⟨hfits, rfl⟩
  · rintro ⟨hfits, rfl⟩
    rw [wrapped_of_lt hfits]
    exact ⟨sum, checked_eq_some_iff.mpr ⟨hfits, rfl⟩, rfl⟩

/-! ## Spans -/

namespace Repetition

/-- How often a match is repeated.  A size of grams is a number of 64 bits to begin with. -/
def countChecked (repetition : Repetition) : Option Nat :=
  match repetition.expansion with
  | some .gram => checked repetition.gramSize
  | some .window => do
    let sides ← checked (2 * repetition.windowRadius)
    checked (sides + 1)
  | none => some 1

def gramChecked (visible : VisibleSentence) (size position back : Nat) : Option (Option Span) :=
  if position < back then some none
  else (checked (position - back + size)).map (between? visible (position - back))

def collocateChecked (visible : VisibleSentence) (radius position place : Nat) :
    Option (Option Span) :=
  if place = radius then some none
  else (checked (position + place)).map (beside? visible radius position)

/-- One repetition of a match.  The root, what is hidden and what is shown by itself need no
sums. -/
def spanChecked (repetition : Repetition) (visible : VisibleSentence) (anchor : TokenRef)
    (round : Nat) : Option (Option Span) :=
  match anchor.isRoot, visible.position? anchor.index, repetition.expansion with
  | false, some position, some .gram => gramChecked visible repetition.gramSize position round
  | false, some position, some .window =>
    collocateChecked visible repetition.windowRadius position round
  | _, _, _ => some (repetition.span? visible anchor round)

/-- All repetitions of a match. -/
def spansChecked (repetition : Repetition) (visible : VisibleSentence) (anchor : TokenRef) :
    Option (List Span) := do
  let count ← repetition.countChecked
  let found ← (List.range count).mapM (repetition.spanChecked visible anchor)
  return found.filterMap id

variable {repetition : Repetition} {visible : VisibleSentence} {anchor : TokenRef}

/-- Of the two sums for a window, the last is the larger one. -/
theorem countChecked_eq (repetition : Repetition) :
    repetition.countChecked = checked repetition.total := by
  obtain ⟨expansion, size, radius⟩ := repetition
  match expansion with
  | none => rfl
  | some .gram => rfl
  | some .window =>
      show (do let sides ← checked (2 * radius); checked (sides + 1)) = checked (2 * radius + 1)
      rcases Nat.lt_or_ge (2 * radius) sizeLimit with hsides | hsides
      · rw [checked_eq_some_iff.mpr ⟨hsides, rfl⟩]
        rfl
      · -- The former sum does not fit, so that the latter is not even made.
        have hall : sizeLimit ≤ 2 * radius + 1 := Nat.le_succ_of_le hsides
        rw [checked, checked, if_neg hsides.not_gt, if_neg hall.not_gt]
        rfl

theorem gramChecked_eq_some_iff {size position back : Nat} {result : Option Span} :
    gramChecked visible size position back = some result ↔
      (back ≤ position → position - back + size < sizeLimit) ∧
        gram? visible size position back = result := by
  unfold gramChecked gram?
  rcases Nat.lt_or_ge position back with hout | hin
  · rw [if_pos hout, if_pos hout, Option.some.injEq]
    exact (and_iff_right fun hin => absurd hout hin.not_gt).symm
  · rw [if_neg hin.not_gt, if_neg hin.not_gt, map_checked_eq_some_iff]
    exact and_congr_left' (imp_iff_right hin).symm

theorem collocateChecked_eq_some_iff {radius position place : Nat} {result : Option Span} :
    collocateChecked visible radius position place = some result ↔
      (place ≠ radius → position + place < sizeLimit) ∧
        collocate? visible radius position place = result := by
  unfold collocateChecked collocate?
  by_cases hself : place = radius
  · rw [if_pos hself, if_pos hself, Option.some.injEq]
    exact (and_iff_right fun hother => absurd hself hother).symm
  · rw [if_neg hself, if_neg hself, map_checked_eq_some_iff]
    exact and_congr_left' (imp_iff_right hself).symm

section

variable {round position : Nat} (hroot : anchor.isRoot = false)
  (hposition : visible.position? anchor.index = some position)

include hroot hposition

/-- For a gram, only the condition on grams says something, and only at this position. -/
theorem roundFits_gram_iff (hexpansion : repetition.expansion = some .gram) :
    repetition.RoundFits visible anchor round ↔
      (round ≤ position → position - round + repetition.gramSize < sizeLimit) := by
  refine ⟨fun hfits => hfits.gram hexpansion hroot position hposition, fun hsum => ⟨?_, ?_⟩⟩
  · intro _ _ other hother
    obtain rfl := Option.some.inj (hposition.symm.trans hother)
    exact hsum
  · intro hwindow
    rw [hexpansion] at hwindow
    cases hwindow

theorem roundFits_window_iff (hexpansion : repetition.expansion = some .window) :
    repetition.RoundFits visible anchor round ↔
      (round ≠ repetition.windowRadius → position + round < sizeLimit) := by
  refine ⟨fun hfits => hfits.window hexpansion hroot position hposition, fun hsum => ⟨?_, ?_⟩⟩
  · intro hgram
    rw [hexpansion] at hgram
    cases hgram
  · intro _ _ other hother
    obtain rfl := Option.some.inj (hposition.symm.trans hother)
    exact hsum

end

/-- A round succeeds if its sum fits, and gives what it gives unchecked. -/
theorem spanChecked_eq_some_iff {round : Nat} {result : Option Span} :
    repetition.spanChecked visible anchor round = some result ↔
      repetition.RoundFits visible anchor round ∧
        repetition.span? visible anchor round = result := by
  unfold spanChecked
  split
  · rename_i position hroot hposition hexpansion
    rw [gramChecked_eq_some_iff, roundFits_gram_iff hroot hposition hexpansion, span?, hroot,
      hposition, hexpansion]
    rfl
  · rename_i position hroot hposition hexpansion
    rw [collocateChecked_eq_some_iff, roundFits_window_iff hroot hposition hexpansion, span?,
      hroot, hposition, hexpansion]
    rfl
  · -- No sum is made, and the conditions are about rounds of which one would be.
    rename_i hgram hwindow
    rw [Option.some.injEq]
    refine (and_iff_right ⟨?_, ?_⟩).symm
    · intro hexpansion hroot position hposition
      exact (hgram position hroot hposition hexpansion).elim
    · intro hexpansion hroot position hposition
      exact (hwindow position hroot hposition hexpansion).elim

private theorem mapM_spanChecked_eq_some_iff {rounds : List Nat} {found : List (Option Span)} :
    rounds.mapM (repetition.spanChecked visible anchor) = some found ↔
      (∀ round ∈ rounds, repetition.RoundFits visible anchor round) ∧
        rounds.map (repetition.span? visible anchor) = found := by
  -- By induction on the rounds, since the first one that fails ends them all.
  induction rounds generalizing found with
  | nil =>
      rw [List.mapM_nil, List.map_nil, and_iff_right (List.forall_mem_nil _)]
      exact Option.some_inj
  | cons round rest ih =>
      simp only [List.mapM_cons, Option.bind_eq_bind, Option.bind_eq_some_iff,
        spanChecked_eq_some_iff, ih, List.forall_mem_cons, List.map_cons]
      constructor
      · rintro ⟨_, ⟨hround, rfl⟩, _, ⟨hrest, rfl⟩, hfound⟩
        exact ⟨⟨hround, hrest⟩, Option.some.inj hfound⟩
      · rintro ⟨⟨hround, hrest⟩, rfl⟩
        exact ⟨_, ⟨hround, rfl⟩, _, ⟨hrest, rfl⟩, rfl⟩

/-- All repetitions succeed if all sums fit, and give what they give unchecked. -/
theorem spansChecked_eq_some_iff {spans : List Span} :
    repetition.spansChecked visible anchor = some spans ↔
      repetition.Fits visible anchor ∧ repetition.spans visible anchor = spans := by
  have hspans : repetition.total < sizeLimit →
      ((List.range repetition.total).map (repetition.span? visible anchor)).filterMap id =
        repetition.spans visible anchor := by
    intro htotal
    rw [List.filterMap_map, Repetition.spans, count, wrapped_of_lt htotal]
    rfl
  unfold spansChecked
  simp only [Option.bind_eq_bind, Option.bind_eq_some_iff, countChecked_eq, checked_eq_some_iff,
    mapM_spanChecked_eq_some_iff, List.mem_range]
  constructor
  · rintro ⟨_, ⟨htotal, rfl⟩, _, ⟨hrounds, rfl⟩, hfound⟩
    exact ⟨⟨htotal, hrounds⟩, (hspans htotal).symm.trans (Option.some.inj hfound)⟩
  · rintro ⟨⟨htotal, hrounds⟩, rfl⟩
    exact ⟨_, ⟨htotal, rfl⟩, _, ⟨hrounds, rfl⟩, congrArg some (hspans htotal)⟩

end Repetition

/-! ## Runs -/

namespace CompiledQuery

/-- Renders a match in its sentence. -/
def showMatchChecked (query : CompiledQuery) (renderer : Renderer) (shown : Shown)
    (ref : TokenRef) : Option (Told Shown) :=
  match renderer.navigator.visible.sentence? ref.sentence with
  | none => some (pure shown)
  | some visible =>
    (query.repetition.spansChecked visible ref).map
      (showSpans renderer query.separator visible shown)

/-- Renders matches. -/
def showMatchesChecked (query : CompiledQuery) (renderer : Renderer) :
    (current : Option Nat) → Shown → List TokenRef → Run (Option Shown)
  | _, shown, [] => return some shown
  | current, shown, ref :: rest => do
    enterSentence current ref
    match query.showMatchChecked renderer shown ref with
    | none => return none
    | some told => do
      let shown ← Run.ofTold told
      showMatchesChecked query renderer (some ref.sentence) shown rest

/-- Renders all matches.  How often each is repeated is told before, and even if there are
none. -/
def presentChecked (query : CompiledQuery) (search : Search) (found : TokenSet) :
    Run (Option Output) := do
  match query.repetition.countChecked with
  | none => return none
  | some count => do
    announce found count
    match ← showMatchesChecked query (query.renderer search) none
        ⟨#[], #[], query.concordance? search⟩ found.toList with
    | none => return none
    | some shown => some <$> query.conclude found shown

/-- Runs a query against a corpus. -/
def executeChecked (query : CompiledQuery) (lexicon : Lexicon) (corpus : Corpus) :
    Run (Option Output) := do
  let search := query.search lexicon corpus
  let found ← query.lookUp search
  if query.layout.count then some <$> countMatches found
  else query.presentChecked search found

end CompiledQuery

/-- Compiles a query and runs it against a corpus. -/
def Query.runChecked (query : Query) (lexicon : Lexicon) (corpus : Corpus)
    (dialect : Regex.Dialect := Regex.compile?) : Run (Option Output) := do
  let compiled ← query.prepare dialect
  compiled.executeChecked lexicon corpus

namespace CompiledQuery

variable {query : CompiledQuery} {search : Search} {lexicon : Lexicon} {corpus : Corpus}

/-- Each sum that is made to repeat a match in its sentence fits in 64 bits. -/
def MatchFits (query : CompiledQuery) (search : Search) (ref : TokenRef) : Prop :=
  ∀ visible, search.navigator.visible.sentence? ref.sentence = some visible →
    query.repetition.Fits visible ref

/-- Each sum that is made in a run fits in 64 bits.  A count makes none. -/
def SumsFit (query : CompiledQuery) (lexicon : Lexicon) (corpus : Corpus) : Prop :=
  query.layout.count = true ∨
    query.repetition.total < sizeLimit ∧
      ∀ ref ∈ query.matched (query.search lexicon corpus),
        query.MatchFits (query.search lexicon corpus) ref

/-! ### Sums that fit -/

theorem showMatchChecked_of_fits {ref : TokenRef} (hfits : query.MatchFits search ref)
    (shown : Shown) :
    query.showMatchChecked (query.renderer search) shown ref =
      some (query.showMatch (query.renderer search) shown ref) := by
  unfold showMatchChecked showMatch
  cases hfound : (query.renderer search).navigator.visible.sentence? ref.sentence with
  | none => rfl
  | some visible =>
      have hspans := Repetition.spansChecked_eq_some_iff.mpr ⟨hfits visible hfound, rfl⟩
      exact congrArg (Option.map _) hspans

theorem showMatchesChecked_of_fits {refs : List TokenRef}
    (hfits : ∀ ref ∈ refs, query.MatchFits search ref) (current : Option Nat) (shown : Shown) :
    query.showMatchesChecked (query.renderer search) current shown refs =
      some <$> query.showMatches (query.renderer search) current shown refs := by
  induction refs generalizing current shown with
  | nil => rfl
  | cons ref rest ih =>
      obtain ⟨hfirst, hrest⟩ := List.forall_mem_cons.mp hfits
      simp only [showMatchesChecked, showMatches, showMatchChecked_of_fits hfirst, ih hrest,
        map_bind]

theorem presentChecked_of_fits {found : TokenSet} (htotal : query.repetition.total < sizeLimit)
    (hfits : ∀ ref ∈ found.toList, query.MatchFits search ref) :
    query.presentChecked search found = some <$> query.present search found := by
  have hcount : query.repetition.countChecked = some query.repetition.count := by
    rw [Repetition.countChecked_eq, checked_eq_some_iff, Repetition.count, wrapped_of_lt htotal]
    exact ⟨htotal, rfl⟩
  simp only [presentChecked, present, hcount, showMatchesChecked_of_fits hfits, map_bind,
    bind_map_left]

/-- **If all sums fit, checking them changes nothing.** -/
theorem looks_executeChecked
    (hknows : (query.search lexicon corpus).navigator.visible.KnowsIds)
    (hfits : query.SumsFit lexicon corpus) :
    (query.executeChecked lexicon corpus).Looks (query.looks (query.search lexicon corpus))
      (some (query.answer (query.search lexicon corpus)
        (query.matched (query.search lexicon corpus)).toList)) := by
  refine looks_lookUp.bind ?_
  cases hcount : query.layout.count with
  | false =>
      obtain hcounts | ⟨htotal, hmatches⟩ := hfits
      · rw [hcount] at hcounts
        cases hcounts
      · rw [if_neg Bool.false_ne_true, if_neg Bool.false_ne_true,
          presentChecked_of_fits htotal hmatches]
        exact (looks_present hknows hcount _).map some
  | true => exact (looks_countMatches hcount _).map some

/-! ### Sums that do not fit -/

theorem showMatchChecked_eq_none {ref : TokenRef} (hover : ¬query.MatchFits search ref)
    (shown : Shown) : query.showMatchChecked (query.renderer search) shown ref = none := by
  unfold showMatchChecked
  cases hfound : (query.renderer search).navigator.visible.sentence? ref.sentence with
  | none =>
      refine absurd ?_ hover
      intro visible hvisible
      cases hvisible.symm.trans hfound
  | some visible =>
      have hspans : query.repetition.spansChecked visible ref = none := by
        refine Option.eq_none_iff_forall_ne_some.mpr fun spans hspans => hover ?_
        intro other hother
        obtain rfl := Option.some.inj (hother.symm.trans hfound)
        exact (Repetition.spansChecked_eq_some_iff.mp hspans).1
      exact congrArg (Option.map _) hspans

/-- A run gives up at the first match whose sums do not fit. -/
theorem looks_showMatchesChecked_none {refs : List TokenRef}
    (hover : ∃ ref ∈ refs, ¬query.MatchFits search ref) (current : Option Nat) (shown : Shown) :
    ∃ count, (query.showMatchesChecked (query.renderer search) current shown refs).Looks count
      none := by
  -- By induction on the matches; what has been shown when a run gives up is lost.
  induction refs generalizing current shown with
  | nil => simp at hover
  | cons ref rest ih =>
      unfold showMatchesChecked
      by_cases hfits : query.MatchFits search ref
      · -- The match that does not fit comes later, and this one is shown as ever.
        have hrest : ∃ later ∈ rest, ¬query.MatchFits search later := by
          obtain ⟨later, hmem, hlater⟩ := hover
          rcases List.mem_cons.mp hmem with rfl | hmem
          · contradiction
          · exact ⟨later, hmem, hlater⟩
        rw [showMatchChecked_of_fits hfits]
        obtain ⟨count, hlooks⟩ := ih hrest (some ref.sentence)
          (query.showMatch (query.renderer search) shown ref).value
        exact ⟨_, (looks_enterSentence current ref).bind ((Run.looks_ofTold _).bind_right hlooks)⟩
      · rw [showMatchChecked_eq_none hfits]
        exact ⟨_, (looks_enterSentence current ref).bind (Run.looks_pure none)⟩

theorem looks_presentChecked_none {found : TokenSet}
    (hover : ¬(query.repetition.total < sizeLimit ∧
      ∀ ref ∈ found.toList, query.MatchFits search ref)) :
    ∃ count, (query.presentChecked search found).Looks count none := by
  unfold presentChecked
  cases hcount : query.repetition.countChecked with
  | none => exact ⟨0, Run.looks_pure none⟩
  -- The number of repetitions fits, so it is a match for which some sum does not.
  | some count =>
      rw [Repetition.countChecked_eq, checked_eq_some_iff] at hcount
      have hmatch : ∃ ref ∈ found.toList, ¬query.MatchFits search ref := by
        by_contra hnone
        refine hover ⟨hcount.1, fun ref href => ?_⟩
        by_contra hmatch
        exact hnone ⟨ref, href, hmatch⟩
      obtain ⟨looks, hlooks⟩ := looks_showMatchesChecked_none hmatch none
        ⟨#[], #[], query.concordance? search⟩
      exact ⟨_, (Run.looks_tell _ _).bind (hlooks.bind (Run.looks_pure none))⟩

/-- **If some sum does not fit, a checked run gives up.** -/
theorem looks_executeChecked_none (hover : ¬query.SumsFit lexicon corpus) :
    ∃ count, (query.executeChecked lexicon corpus).Looks count none := by
  obtain ⟨hcount, hpresent⟩ := not_or.mp hover
  obtain ⟨count, hlooks⟩ := looks_presentChecked_none hpresent
  have hrest : (if query.layout.count = true then
      some <$> countMatches (query.matched (query.search lexicon corpus))
    else query.presentChecked (query.search lexicon corpus)
      (query.matched (query.search lexicon corpus))).Looks count none := by
    rw [if_neg hcount]
    exact hlooks
  exact ⟨_, looks_lookUp.bind hrest⟩

end CompiledQuery

end Concordancer
