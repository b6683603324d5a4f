import Concordancer.Proofs.Navigation
import Concordancer.Proofs.Search.Found

/-!
# The meaning of a criterion

A search goes from tokens that are tested to tokens that are reported; what a
criterion means is said from the reported token.  `Search.Satisfies` says it: in the
role of the criterion to the token there is a visible token, and the criterion holds
for the token that the adjacency leads to from there.

## Strategy

A tested token is reached from a scanned one, the *anchor*, by the shift of the
adjacency.  Reporting shifts back and resolves the inverse role.  Since the opposite
shift leads back to the very anchor (`anchor?_of_shiftBy`), reporting starts where the
scan stood, and since a role is taken back by its inverse the anchor is in the role to
what is reported.  What remains is that the scan visits each visible token
(`mem_scanned_iff`).
-/

namespace Concordancer

namespace Treebank

/-- The scan of a corpus visits the visible tokens other than roots. -/
theorem WellNumbered.mem_scanned_iff {treebank : Treebank} (hnumbered : treebank.WellNumbered)
    (filter : WordFilter) (lexicon : Lexicon) (ref : TokenRef) :
    (∃ visible ∈ (treebank.visible filter lexicon).sentences.toList,
        ref.sentence = visible.sentence.id ∧ ref.index ∈ visible.indices.toList) ↔
      (treebank.visible filter lexicon).shows ref = true ∧ ref.isRoot = false := by
  have hroot : ref.isRoot = false ↔ ref.index ≠ rootIndex := by
    rw [TokenRef.isRoot, beq_eq_false_iff_ne]
  -- Roots are shown without being listed.
  have hindices : ∀ parse : Parse, ref.index ∈ (parse.visible filter lexicon).indices.toList ↔
      (parse.visible filter lexicon).shows ref.index = true ∧ ref.index ≠ rootIndex := by
    intro parse
    rw [Parse.shows_visible_iff_mem]
    constructor
    · intro hmem
      exact ⟨.inr hmem, Nat.ne_of_gt (Parse.pos_of_mem_indices filter lexicon hmem)⟩
    · intro hshown
      exact hshown.1.resolve_left hshown.2
  rw [Navigator.shows_iff, hroot]
  constructor
  · rintro ⟨visible, hvisible, hid, hindex⟩
    obtain ⟨parse, hparse, rfl⟩ : ∃ parse ∈ treebank.parses,
        parse.visible filter lexicon = visible := by
      simpa using hvisible
    obtain ⟨hshows, hne⟩ := (hindices parse).mp hindex
    exact ⟨⟨_, (sentence?_visible filter lexicon hnumbered).mpr ⟨parse, hparse, hid.symm, rfl⟩,
      hshows⟩, hne⟩
  · rintro ⟨⟨visible, hfound, hshows⟩, hne⟩
    obtain ⟨parse, hparse, hid, rfl⟩ := (sentence?_visible filter lexicon hnumbered).mp hfound
    refine ⟨_, ?_, hid.symm, (hindices parse).mpr ⟨hshows, hne⟩⟩
    rw [sentences_visible]
    exact List.mem_map.mpr ⟨parse, hparse, rfl⟩

end Treebank

namespace Search

/-- What a criterion says of a token: in its role to the token there is a visible token from
which the adjacency leads to one that is accepted. -/
def Satisfies (search : Search) (criterion : Criterion) (ref : TokenRef) : Prop :=
  ∃ anchor ∈ search.navigator.resolve ref criterion.role,
    anchor.isRoot = false ∧ search.navigator.visible.shows anchor = true ∧
      ∃ tested, search.navigator.shiftBy anchor criterion.adjacency = some tested ∧
        search.Accepts criterion tested

variable {search : Search} {criterion : Criterion} {treebank : Treebank} {filter : WordFilter}
  {lexicon : Lexicon}

/-- Reporting for a tested token starts where the scan stood when it was tested. -/
theorem anchor?_of_shiftBy
    (hvisible : search.navigator.visible = treebank.visible filter lexicon)
    {anchor tested : TokenRef} (hanchor : search.navigator.visible.shows anchor = true)
    (htested : search.navigator.shiftBy anchor criterion.adjacency = some tested) :
    search.anchor? criterion tested = some anchor := by
  rw [anchor?]
  cases hadjacency : criterion.adjacency with
  | none =>
      rw [hadjacency] at htested
      obtain rfl : anchor = tested := Option.some.inj htested
      simp [hanchor]
  | some offset =>
      rw [hadjacency] at htested
      exact Treebank.shift_neg hvisible hanchor htested

/-- Without coreference, a criterion finds the visible tokens of which it is true. -/
theorem mem_found_iff_satisfies (hnumbered : treebank.WellNumbered)
    (hvisible : search.navigator.visible = treebank.visible filter lexicon)
    (hplain : criterion.expandsCoreference = false) {ref : TokenRef} :
    ref ∈ search.found criterion ↔
      search.navigator.visible.shows ref = true ∧ search.Satisfies criterion ref := by
  rw [mem_found]
  constructor
  · rintro ⟨visible, hscanned, tested, htested, haccepts, hreport⟩
    obtain ⟨index, hindex, hshift⟩ := mem_tested.mp htested
    rw [hvisible] at hscanned
    obtain ⟨hshows, hroot⟩ := (hnumbered.mem_scanned_iff filter lexicon
      ⟨visible.sentence.id, index⟩).mp ⟨visible, hscanned, rfl, hindex⟩
    rw [← hvisible] at hshows
    -- Reporting leads back to the scanned token, and from there by the inverse role.
    obtain ⟨mention, hmention, anchor, hanchor, hresolve⟩ := mem_report.mp hreport
    rw [mentions_of_not_expandsCoreference hplain, List.mem_singleton] at hmention
    rw [hmention, anchor?_of_shiftBy hvisible hshows hshift] at hanchor
    obtain rfl := Option.some.inj hanchor
    have href := Navigator.shows_of_mem_resolve hresolve
    exact ⟨href, _, (hnumbered.mem_resolve_inverse hvisible criterion.role href hshows).mpr
      hresolve, hroot, hshows, tested, hshift, haccepts⟩
  · rintro ⟨href, anchor, hresolve, hroot, hshows, tested, hshift, haccepts⟩
    -- The scan visits the anchor, tests the token beside it, and reports from the anchor.
    have hscanned := hshows
    rw [hvisible] at hscanned
    obtain ⟨visible, hvisited, hid, hindex⟩ :=
      (hnumbered.mem_scanned_iff filter lexicon anchor).mpr ⟨hscanned, hroot⟩
    refine ⟨visible, hvisible ▸ hvisited, tested, mem_tested.mpr ⟨anchor.index, hindex, ?_⟩,
      haccepts, mem_report.mpr ⟨tested, ?_, anchor, ?_, ?_⟩⟩
    · rw [← hid]
      exact hshift
    · rw [mentions_of_not_expandsCoreference hplain, List.mem_singleton]
    · exact anchor?_of_shiftBy hvisible hshows hshift
    · exact (hnumbered.mem_resolve_inverse hvisible criterion.role href hshows).mp hresolve

/-- **The meaning of a criterion.**  In a well-numbered treebank, under any filter, a search for
one criterion without coreference finds those visible tokens and roots of which the criterion
is true. -/
theorem findAll_singleton_iff_satisfies (hnumbered : treebank.WellNumbered) (filter : WordFilter)
    (lexicon : Lexicon) (distanceLimit : Nat) (coreference : Option Coreference)
    (mode : Combination) (hplain : criterion.expandsCoreference = false) :
    let search : Search := ⟨⟨treebank.visible filter lexicon, lexicon, distanceLimit⟩, coreference⟩
    ∃ found, (search.findAll mode [criterion]).Yields found ∧
      ∀ ref, ref ∈ found ↔
        search.navigator.visible.shows ref = true ∧ search.Satisfies criterion ref := by
  intro search
  refine ⟨_, yields_findAll mode [criterion], fun ref => ?_⟩
  rw [List.map_singleton, mem_combine_singleton]
  exact mem_found_iff_satisfies hnumbered rfl hplain

/-- The criterion `{"+1gf": ["nsubj"]}`: whose governor stands before a subject. -/
def beforeSubject : Criterion where
  descriptor := "+1gf"
  role := .governor
  feature := .function
  adjacency := some 1
  expandsCoreference := false
  matcher := .literals ["nsubj"] false

theorem findAll_singleton_iff_satisfies_sample :
    Treebank.sample.WellNumbered ∧ beforeSubject.expandsCoreference = false ∧
      let search : Search := ⟨⟨Treebank.sample.visible ⟨none, true⟩ .penn, .penn, 30⟩, none⟩
      ∃ found, (search.findAll .all [beforeSubject]).Yields found ∧
        ∀ ref, ref ∈ found ↔
          search.navigator.visible.shows ref = true ∧
            search.Satisfies beforeSubject ref :=
  ⟨by decide, rfl,
    findAll_singleton_iff_satisfies (by decide) ⟨none, true⟩ .penn 30 none .all rfl⟩

end Search

end Concordancer
