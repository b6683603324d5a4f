import Concordancer.Engine
import Concordancer.Proofs.Corpus.Lookup
import Concordancer.Proofs.Presentation.Contexts
import Concordancer.Proofs.Search.Found

/-!
# The answer to a query

What a query answers when it is not told to stop, without messages, signals and stores:

* `CompiledQuery.matched`: the tokens that are found and not excluded;
* `CompiledQuery.textsOf` and `linesOf`: the rendered texts and the concordance lines of
  one match, whatever was rendered before it;
* `CompiledQuery.answer`: the count of the matches, or the texts and lines of all of
  them, one match after the other.

`looks_execute` says that a run of a compiled query ends with its answer unless it is
told to stop, and how often it looks (`CompiledQuery.looks`): once for each sentence and
criterion while it searches, and once for each change of sentence while it shows.

## Strategy

Rendering carries along what is shown so far.  `Shown.Renders` relates this state to
the texts and lines it stands for; a span (`renders_showSpan`), the spans of a match
(`renders_showSpans`) and a list of matches (`looks_showMatches`) each add their own
texts and lines at the end.  The concordance in the state is the one it started as,
but for contexts that are kept, and these are faithful.
-/

namespace Concordancer

namespace CompiledQuery

/-! ## What one match contributes -/

variable (query : CompiledQuery) (search : Search)

def textOf (span : Span) : String :=
  ((query.renderer search).span query.separator span).value

def linesOfSpan (visible : VisibleSentence) (span : Span) : List ConcordanceLine :=
  ((query.concordance? search).bind (·.lineOf? visible span (query.textOf search span))).toList

/-- The rendered repetitions of a match. -/
def textsOf (ref : TokenRef) : List String :=
  match search.navigator.visible.sentence? ref.sentence with
  | none => []
  | some visible => (query.repetition.spans visible ref).map (query.textOf search)

/-- The concordance lines of a match. -/
def linesOf (ref : TokenRef) : List ConcordanceLine :=
  match search.navigator.visible.sentence? ref.sentence with
  | none => []
  | some visible =>
    (query.repetition.spans visible ref).flatMap (query.linesOfSpan search visible)

/-- Is there anything to show in a rendered text? -/
def showsText (text : String) : Bool :=
  !text.isEmpty && !isAllPlaceholders text query.separator

/-! ## The answer as a whole -/

/-- The tokens that are found and not excluded. -/
def matched : TokenSet :=
  (Search.combine query.options.searchMode (query.criteria.map search.found)).difference
    (Search.combine query.options.excludeMode (query.exclusions.map search.found))

/-- What is shown of these matches. -/
def answer (refs : List TokenRef) : Output :=
  if query.layout.count then ⟨.count refs.length, []⟩
  else {
    results := .texts <|
      if query.options.concordance = .only then []
      else (refs.flatMap (query.textsOf search)).filter query.showsText
    concordance := refs.flatMap (query.linesOf search) }

/-! ## How often a run looks at the signal -/

/-- How often the sentence changes from one token to the next, after one of this sentence. -/
def sentenceChanges (current : Option Nat) : List TokenRef → Nat
  | [] => 0
  | ref :: rest =>
    (if current != some ref.sentence then 1 else 0) + sentenceChanges (some ref.sentence) rest

/-- How often a run looks at the signal if it is not told to stop. -/
def looks : Nat :=
  (query.criteria.length + query.exclusions.length) * search.navigator.visible.sentences.size +
    if query.layout.count then 0 else sentenceChanges none (query.matched search).toList

variable {query search}

/-! ## Lines -/

theorem linesOf_eq_nil (hdisabled : query.options.concordance.isEnabled = false) (ref : TokenRef) :
    query.linesOf search ref = [] := by
  have hnone : query.concordance? search = none := by
    rw [concordance?, hdisabled]
    rfl
  unfold linesOf linesOfSpan
  rw [hnone]
  cases search.navigator.visible.sentence? ref.sentence with
  | none => rfl
  | some visible => exact List.flatMap_eq_nil_iff.mpr fun _ _ => rfl

/-- In a concordance, a span has its line if there is something in its text to show. -/
theorem linesOfSpan_eq (henabled : query.options.concordance.isEnabled = true)
    (visible : VisibleSentence) (span : Span) :
    query.linesOfSpan search visible span =
      if query.showsText (query.textOf search span) then
        [(Concordance.start search.navigator.visible.corpus.source (query.renderer search)
          query.hasPlainContexts query.separator).freshLine visible span
            (query.textOf search span)]
      else [] := by
  have hstart : query.concordance? search = some (.start search.navigator.visible.corpus.source
      (query.renderer search) query.hasPlainContexts query.separator) := if_pos henabled
  rw [linesOfSpan, hstart, Option.bind_some, Concordance.lineOf?_eq_freshLine, showsText,
    ← Bool.not_or]
  show Option.toList (if ((query.textOf search span).isEmpty ||
    isAllPlaceholders (query.textOf search span) query.separator) = true then none else some _) = _
  cases (query.textOf search span).isEmpty ||
      isAllPlaceholders (query.textOf search span) query.separator with
  | true => rfl
  | false => rfl

/-! ## Searching -/

theorem exists_mem_found {ref : TokenRef} (hmem : ref ∈ query.matched search) :
    ∃ criterion ∈ query.criteria, ref ∈ search.found criterion := by
  obtain ⟨set, hset, href⟩ := Search.mem_of_mem_combine (OrderedSet.mem_difference.mp hmem).1
  obtain ⟨criterion, hcriterion, rfl⟩ := List.mem_map.mp hset
  exact ⟨criterion, hcriterion, href⟩

theorem combine_nil (mode : Combination) : Search.combine mode [] = .empty := by
  cases mode <;> rfl

theorem difference_empty (set : TokenSet) : set.difference .empty = set := rfl

theorem looks_findMatches :
    (query.findMatches search).Looks
      ((query.criteria.length + query.exclusions.length) *
        search.navigator.visible.sentences.size) (query.matched search) := by
  rw [Nat.add_mul]
  refine (Search.looks_findAll _ _).bind ?_
  cases hexclusions : query.exclusions with
  | nil =>
      rw [matched, hexclusions, List.map_nil, combine_nil, difference_empty, List.length_nil,
        Nat.zero_mul]
      exact Run.looks_pure _
  | cons first rest =>
      rw [matched, hexclusions]
      exact (Search.looks_findAll _ _).bind_left
        ((Run.looks_tell _ _).bind_left (Run.looks_pure _))

/-! ## Rendering -/

/-- What is shown so far stands for these texts and lines. -/
structure Shown.Renders (shown : Shown) (concordance : Option Concordance)
    (texts : List String) (lines : List ConcordanceLine) : Prop where
  texts_eq : shown.texts.toList = texts
  lines_eq : shown.lines.toList = lines
  concordance_rel : Option.Rel
    (fun kept start => ∃ contexts, kept = { start with contexts } ∧ kept.Faithful)
    shown.concordance concordance

section Rendering

variable {shown : Shown} {texts : List String} {lines : List ConcordanceLine}
  {visible : VisibleSentence}

variable (query search) in
/-- Before anything is shown, there are no texts and no lines. -/
theorem renders_start :
    Shown.Renders ⟨#[], #[], query.concordance? search⟩ (query.concordance? search) [] [] := by
  refine ⟨rfl, rfl, ?_⟩
  unfold concordance?
  split
  · exact Option.rel_some_some.mpr ⟨∅, rfl, Concordance.faithful_start _ _ _ _⟩
  · exact Option.Rel.none

/-- One more span adds its text and its lines. -/
theorem renders_showSpan
    (hfound : search.navigator.visible.sentence? visible.sentence.id = some visible)
    (hrenders : shown.Renders (query.concordance? search) texts lines) (span : Span) :
    (showSpan (query.renderer search) query.separator visible shown span).value.Renders
      (query.concordance? search) (texts ++ [query.textOf search span])
      (lines ++ query.linesOfSpan search visible span) := by
  obtain ⟨rfl, rfl, hconcordance⟩ := hrenders
  unfold showSpan linesOfSpan
  cases hkept : shown.concordance with
  | none =>
      rw [hkept] at hconcordance
      cases hstart : query.concordance? search with
      | none => exact ⟨by simp [textOf], by simp, by simp⟩
      | some start => simp [hstart] at hconcordance
  | some concordance =>
      rw [hkept] at hconcordance
      cases hstart : query.concordance? search with
      | none => simp [hstart] at hconcordance
      | some start =>
          rw [hstart, Option.rel_some_some] at hconcordance
          obtain ⟨contexts, rfl, hfaithful⟩ := hconcordance
          -- Contexts are faithful, so the line is the one that a new concordance would make.
          have hknown : start.renderer.navigator.visible.sentence? visible.sentence.id =
              some visible := by
            simp only [concordance?, Option.ite_none_right_eq_some, Option.some.injEq] at hstart
            rw [← hstart.2]
            exact hfound
          obtain ⟨after, hafter, hstill⟩ := Concordance.faithful_line hfaithful hknown span
            (query.textOf search span)
          have hline := Concordance.value_line hfaithful hknown span (query.textOf search span)
          refine ⟨by simp [textOf], ?_, ?_⟩
          · simp only [Told.value_bind, Told.value_pure, Array.toList_appendList, Option.bind_some]
            exact congrArg (fun line => shown.lines.toList ++ Option.toList line) hline
          · simp only [Told.value_bind, Told.value_pure, Option.rel_some_some]
            exact ⟨after, hafter, hafter ▸ hstill⟩

theorem renders_showSpans
    (hfound : search.navigator.visible.sentence? visible.sentence.id = some visible)
    (spans : List Span) (hrenders : shown.Renders (query.concordance? search) texts lines) :
    (showSpans (query.renderer search) query.separator visible shown spans).value.Renders
      (query.concordance? search) (texts ++ spans.map (query.textOf search))
      (lines ++ spans.flatMap (query.linesOfSpan search visible)) := by
  induction spans generalizing shown texts lines with
  | nil => simpa [showSpans] using hrenders
  | cons span rest ih =>
      have hrest := ih (renders_showSpan hfound hrenders span)
      simpa [showSpans] using hrest

theorem renders_showMatch (hknows : search.navigator.visible.KnowsIds)
    (hrenders : shown.Renders (query.concordance? search) texts lines) (ref : TokenRef) :
    (query.showMatch (query.renderer search) shown ref).value.Renders (query.concordance? search)
      (texts ++ query.textsOf search ref) (lines ++ query.linesOf search ref) := by
  simp only [showMatch, renderer, textsOf, linesOf]
  cases hfound : search.navigator.visible.sentence? ref.sentence with
  | none =>
      rw [List.append_nil, List.append_nil]
      exact hrenders
  | some visible => exact renders_showSpans (hknows _ _ hfound ▸ hfound) _ hrenders

/-- Where the sentence changes, there is one look. -/
theorem looks_enterSentence (current : Option Nat) (ref : TokenRef) :
    (enterSentence current ref).Looks (if current != some ref.sentence then 1 else 0) () := by
  unfold enterSentence
  split
  · exact (Run.looks_check _).bind_left (Run.looks_tell _ _)
  · exact Run.looks_pure ()

/-- Matches add their texts and lines, one match after the other. -/
theorem looks_showMatches (hknows : search.navigator.visible.KnowsIds) (refs : List TokenRef)
    (current : Option Nat) (hrenders : shown.Renders (query.concordance? search) texts lines) :
    ∃ after, (query.showMatches (query.renderer search) current shown refs).Looks
        (sentenceChanges current refs) after ∧
      after.Renders (query.concordance? search) (texts ++ refs.flatMap (query.textsOf search))
        (lines ++ refs.flatMap (query.linesOf search)) := by
  induction refs generalizing current shown texts lines with
  | nil => exact ⟨shown, Run.looks_pure shown, by simpa using hrenders⟩
  | cons ref rest ih =>
      obtain ⟨last, hlast, hall⟩ := ih (some ref.sentence) (renders_showMatch hknows hrenders ref)
      rw [sentenceChanges, List.flatMap_cons, List.flatMap_cons, ← List.append_assoc,
        ← List.append_assoc]
      exact ⟨last, (looks_enterSentence current ref).bind
        ((Run.looks_ofTold _).bind_right hlast), hall⟩

end Rendering

/-! ## Running -/

/-- Showing matches from the start ends with their texts and their lines, one match after the
other. -/
theorem looks_shown (hknows : search.navigator.visible.KnowsIds) (refs : List TokenRef) :
    ∃ shown, (query.showMatches (query.renderer search) none
        ⟨#[], #[], query.concordance? search⟩ refs).Looks (sentenceChanges none refs) shown ∧
      shown.texts.toList = refs.flatMap (query.textsOf search) ∧
      shown.lines.toList = refs.flatMap (query.linesOf search) := by
  obtain ⟨shown, hlooks, htexts, hlines, -⟩ :=
    looks_showMatches hknows refs none (renders_start query search)
  exact ⟨shown, hlooks, htexts, hlines⟩

/-- An answer with texts has those that show something, unless only lines are wanted. -/
theorem answer_of_shown (hcount : query.layout.count = false) {refs : List TokenRef}
    {shown : Shown} (htexts : shown.texts.toList = refs.flatMap (query.textsOf search))
    (hlines : shown.lines.toList = refs.flatMap (query.linesOf search)) :
    query.answer search refs = ⟨.texts <|
      if query.options.concordance = .only then [] else shown.texts.toList.filter query.showsText,
      shown.lines.toList⟩ := by
  rw [answer, hcount, if_neg Bool.false_ne_true, htexts, hlines]

theorem looks_conclude (hcount : query.layout.count = false) (found : TokenSet)
    {refs : List TokenRef} {shown : Shown}
    (htexts : shown.texts.toList = refs.flatMap (query.textsOf search))
    (hlines : shown.lines.toList = refs.flatMap (query.linesOf search)) :
    (query.conclude found shown).Looks 0 (query.answer search refs) := by
  rw [answer_of_shown hcount htexts hlines]
  exact (Run.looks_tell _ _).bind_left (Run.looks_pure _)

theorem looks_present (hknows : search.navigator.visible.KnowsIds)
    (hcount : query.layout.count = false) (found : TokenSet) :
    (query.present search found).Looks (sentenceChanges none found.toList)
      (query.answer search found.toList) := by
  obtain ⟨shown, hlooks, htexts, hlines⟩ := looks_shown hknows found.toList
  exact (Run.looks_tell _ _).bind_right
    (hlooks.bind_left (looks_conclude hcount found htexts hlines))

theorem looks_lookUp :
    (query.lookUp search).Looks
      ((query.criteria.length + query.exclusions.length) *
        search.navigator.visible.sentences.size) (query.matched search) := by
  unfold lookUp
  cases search.coreference with
  | none => exact looks_findMatches
  | some coreference => exact (Run.looks_tell _ _).bind_right looks_findMatches

theorem looks_countMatches (hcount : query.layout.count = true) (found : TokenSet) :
    (countMatches found).Looks 0 (query.answer search found.toList) := by
  rw [answer, if_pos hcount]
  exact (Run.looks_tell _ _).bind_left (Run.looks_pure _)

/-- A run of a compiled query ends with its answer. -/
theorem looks_execute {lexicon : Lexicon} {corpus : Corpus}
    (hknows : (query.search lexicon corpus).navigator.visible.KnowsIds) :
    (query.execute lexicon corpus).Looks (query.looks (query.search lexicon corpus))
      (query.answer (query.search lexicon corpus)
        (query.matched (query.search lexicon corpus)).toList) := by
  refine looks_lookUp.bind ?_
  cases hcount : query.layout.count with
  | false => exact looks_present hknows hcount _
  | true => exact looks_countMatches hcount _

end CompiledQuery

end Concordancer
