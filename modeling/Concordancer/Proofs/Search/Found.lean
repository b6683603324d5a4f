import Concordancer.Proofs.Navigation
import Concordancer.Proofs.Search.Counting
import Concordancer.Proofs.Yields

/-!
# What a search finds

A search writes messages and looks at a signal, but what it finds depends on neither.
`Search.found` is the set of tokens that a criterion finds and `combine` joins such
sets; `looks_find` and `looks_findAll` say that a search ends with them unless it is
told to stop, and how often it looks.  Statements about searches are from here on
statements about `found`.
-/

namespace Concordancer.Search

variable (search : Search) (criterion : Criterion)

/-- What a criterion reports for the tokens of a sentence, in the order of the tests. -/
def reportedIn (visible : VisibleSentence) : List TokenRef :=
  ((search.tested criterion visible).filter fun ref => (search.holds criterion ref).value).flatMap
    (search.report criterion)

/-- The tokens that a criterion finds in the whole corpus. -/
def found : TokenSet :=
  .ofList (search.navigator.visible.sentences.toList.flatMap (search.reportedIn criterion))

/-- A criterion holds for a token whose feature it accepts.  The wildcard also accepts what
is missing, but never a distance that does not exist. -/
def Accepts (ref : TokenRef) : Prop :=
  (∃ value, (search.navigator.read ref criterion.feature).value = some value ∧
    criterion.matcher.accepts value = true) ∨
  ((search.navigator.read ref criterion.feature).value = none ∧
    criterion.matcher.isWildcard = true ∧ criterion.feature ≠ .distance)

/-- The visible tokens from which the role of a criterion starts when it holds for a token. -/
def anchors (ref : TokenRef) : List TokenRef :=
  (search.mentions criterion ref).filterMap (search.anchor? criterion)

variable {search criterion}

theorem value_holds_iff {ref : TokenRef} :
    (search.holds criterion ref).value = true ↔ search.Accepts criterion ref := by
  rw [holds, Told.value_bind, Accepts]
  cases (search.navigator.read ref criterion.feature).value with
  | none => simp
  | some value => simp

/-! ## Mentions and anchors -/

theorem mentions_of_coreference_eq_none (hnone : search.coreference = none) (ref : TokenRef) :
    search.mentions criterion ref = [ref] := by
  rw [mentions, hnone]

theorem mentions_of_not_expandsCoreference (hplain : criterion.expandsCoreference = false)
    (ref : TokenRef) : search.mentions criterion ref = [ref] := by
  rw [mentions]
  cases search.coreference with
  | none => rfl
  | some coreference => simp [hplain]

theorem mentions_of_expandsCoreference {coreference : Coreference}
    (hcoreference : search.coreference = some coreference)
    (hexpands : criterion.expandsCoreference = true) (ref : TokenRef) :
    search.mentions criterion ref = coreference.mates search.navigator.visible.corpus ref := by
  rw [mentions, hcoreference]
  exact if_pos hexpands

/-- Without an adjacency, roles start at the mentions that are visible. -/
theorem anchors_of_adjacency_eq_none (hplace : criterion.adjacency = none) (ref : TokenRef) :
    search.anchors criterion ref =
      (search.mentions criterion ref).filter search.navigator.visible.shows := by
  have hanchor : search.anchor? criterion =
      Option.guard fun mention => search.navigator.visible.shows mention := by
    funext mention
    rw [anchor?, hplace, Option.guard]
  rw [anchors, hanchor, List.filterMap_eq_filter]

/-! ## What a search ends with -/

theorem value_findIn (visible : VisibleSentence) :
    (search.findIn criterion visible).value = search.reportedIn criterion visible := by
  rw [findIn, Told.value_bind, Told.value_filter, Told.value_pure, reportedIn]

theorem looks_findInAll (sentences : List VisibleSentence) :
    (search.findInAll criterion sentences).Looks sentences.length
      (sentences.flatMap (search.reportedIn criterion)) := by
  induction sentences with
  | nil => exact Run.looks_pure []
  | cons visible rest ih =>
      rw [findInAll, List.flatMap_cons, ← value_findIn, List.length_cons, Nat.add_comm]
      exact (Run.looks_check _).bind
        ((Run.looks_ofTold _).bind_right (ih.bind_left (Run.looks_pure _)))

/-- A search for a criterion looks at the signal once for every sentence. -/
theorem looks_find :
    (search.find criterion).Looks search.navigator.visible.sentences.size
      (search.found criterion) := by
  rw [← Array.length_toList]
  exact (looks_findInAll _).bind_left ((Run.looks_tell _ _).bind_left (Run.looks_pure _))

theorem looks_findAll (mode : Combination) (criteria : List Criterion) :
    (search.findAll mode criteria).Looks
      (criteria.length * search.navigator.visible.sentences.size)
      (combine mode (criteria.map search.found)) :=
  (Run.looks_traverse (fun _ => looks_find) criteria).bind_left (Run.looks_pure _)

theorem yields_findAll (mode : Combination) (criteria : List Criterion) :
    (search.findAll mode criteria).Yields (combine mode (criteria.map search.found)) :=
  (looks_findAll mode criteria).yields

/-! ## The tokens that are found -/

/-- Found is what is reported for some tested token that is accepted. -/
theorem mem_found {ref : TokenRef} :
    ref ∈ search.found criterion ↔
      ∃ visible ∈ search.navigator.visible.sentences.toList,
        ∃ tested ∈ search.tested criterion visible,
          search.Accepts criterion tested ∧ ref ∈ search.report criterion tested := by
  simp only [found, OrderedSet.mem_ofList, reportedIn, List.mem_flatMap, List.mem_filter,
    value_holds_iff, and_assoc]

theorem mem_tested {visible : VisibleSentence} {ref : TokenRef} :
    ref ∈ search.tested criterion visible ↔
      ∃ index ∈ visible.indices.toList,
        search.navigator.shiftBy ⟨visible.sentence.id, index⟩ criterion.adjacency = some ref := by
  rw [tested, List.mem_filterMap]

theorem isRoot_of_mem_tested {treebank : Treebank} {filter : WordFilter} {lexicon : Lexicon}
    (hnavigator : search.navigator.visible = treebank.visible filter lexicon)
    {visible : VisibleSentence} (hvisible : visible ∈ search.navigator.visible.sentences.toList)
    {ref : TokenRef} (htested : ref ∈ search.tested criterion visible) : ref.isRoot = false := by
  obtain ⟨index, hindex, hshift⟩ := mem_tested.mp htested
  rw [TokenRef.isRoot_eq_false_iff]
  cases hplace : criterion.adjacency with
  | none =>
      rw [hplace] at hshift
      obtain rfl := Option.some.inj hshift
      rw [hnavigator, Treebank.sentences_visible] at hvisible
      obtain ⟨parse, -, rfl⟩ := List.mem_map.mp hvisible
      exact Parse.pos_of_mem_indices filter lexicon hindex
  | some offset =>
      rw [hplace] at hshift
      obtain ⟨-, -, -, hpositive, -⟩ := Navigator.shift_eq_some_iff.mp hshift
      exact hpositive

theorem mem_report {ref tested : TokenRef} :
    ref ∈ search.report criterion tested ↔
      ∃ mention ∈ search.mentions criterion tested, ∃ anchor,
        search.anchor? criterion mention = some anchor ∧
          ref ∈ search.navigator.resolve anchor criterion.role.inverse := by
  simp only [report, List.mem_flatMap, List.mem_filterMap]
  constructor
  · rintro ⟨anchor, ⟨mention, hmention, hanchor⟩, hmem⟩
    exact ⟨mention, hmention, anchor, hanchor, hmem⟩
  · rintro ⟨mention, hmention, anchor, hanchor, hmem⟩
    exact ⟨anchor, ⟨mention, hmention, hanchor⟩, hmem⟩

/-- A criterion on the match itself reports the mentions that are visible. -/
theorem mem_report_self (hrole : criterion.role = .self) (hplace : criterion.adjacency = none)
    {ref tested : TokenRef} :
    ref ∈ search.report criterion tested ↔
      ref ∈ search.mentions criterion tested ∧ search.navigator.visible.shows ref = true := by
  rw [mem_report, hrole, Role.inverse]
  constructor
  · rintro ⟨mention, hmention, anchor, hanchor, hresolve⟩
    obtain ⟨rfl, hshows⟩ := Navigator.mem_resolve_self.mp hresolve
    rw [anchor?, hplace] at hanchor
    obtain ⟨-, hsame⟩ := Option.ite_none_right_eq_some.mp hanchor
    obtain rfl := Option.some.inj hsame
    exact ⟨hmention, hshows⟩
  · rintro ⟨hmention, hshows⟩
    refine ⟨ref, hmention, ref, ?_, Navigator.mem_resolve_self.mpr ⟨rfl, hshows⟩⟩
    rw [anchor?, hplace]
    exact if_pos hshows

/-- What is found together is found by one of the criteria. -/
theorem mem_of_mem_combine {mode : Combination} {sets : List TokenSet} {ref : TokenRef}
    (hmem : ref ∈ combine mode sets) : ∃ set ∈ sets, ref ∈ set := by
  cases mode with
  | any =>
      rw [combine_any] at hmem
      exact OrderedSet.mem_union.mp hmem
  | all =>
      rw [combine_all] at hmem
      exact OrderedSet.mem_union.mp (OrderedSet.mem_filter.mp hmem).1

theorem shows_of_mem_found {ref : TokenRef} (hmem : ref ∈ search.found criterion) :
    search.navigator.visible.shows ref = true := by
  obtain ⟨_, _, _, _, _, hreport⟩ := mem_found.mp hmem
  obtain ⟨_, _, _, _, hresolve⟩ := mem_report.mp hreport
  exact Navigator.shows_of_mem_resolve hresolve

/-- One criterion finds the same alone and under either combination. -/
theorem mem_combine_singleton (mode : Combination) (set : TokenSet) {ref : TokenRef} :
    ref ∈ combine mode [set] ↔ ref ∈ set := by
  cases mode with
  | any => simp [combine_any]
  | all => simp [combine_all, OrderedSet.intersection]

end Concordancer.Search
