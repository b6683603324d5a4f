import Concordancer.Proofs.Corpus.Mates
import Concordancer.Proofs.Search.Meaning

/-!
# Hidden mentions

With coreference, a criterion that holds for a token leads on from each mention of its
chain: back by the adjacency to an anchor, and from there by the inverse role to what is
reported.  Without an adjacency the anchor is the mention, and has to be visible.  With
one, only the anchor has to be.  A hidden mention with a visible neighbour then leads to
tokens that no visible mention leads to (`find_hidden_mention`), although hidden tokens are
meant to lead nowhere.

## Main statements

* `mem_found_iff_leads`: what is found, by mentions and anchors that are so far apart;
* `visiblyReports_iff_leads`: what visible mentions lead to is the same, but for the
  condition that the mention is visible;
* `find_iff_leads`: so the two are the same without an adjacency, and where all mentions are
  visible.

Both rest on shifts between anchor and mention, which go forth and back: whether such a shift
succeeds depends on its target only (`shift_eq_some_iff_apart`).
-/

namespace Concordancer

namespace Search

/-- The criterion is tested on the token, and holds for it. -/
def Passes (search : Search) (criterion : Criterion) (ref : TokenRef) : Prop :=
  (∃ visible ∈ search.navigator.visible.sentences.toList, ref ∈ search.tested criterion visible) ∧
    search.Accepts criterion ref

/-- From a token for which the criterion holds, through a mention of it and an anchor that stands
before the mention as the adjacency says, the criterion leads to a token. -/
structure Leads (search : Search) (criterion : Criterion) (tested mention anchor ref : TokenRef) :
    Prop where
  passes : search.Passes criterion tested
  mem_mentions : mention ∈ search.mentions criterion tested
  isRoot_eq_false : anchor.isRoot = false
  shows_anchor : search.navigator.visible.shows anchor = true
  apart : anchor.Apart mention (criterion.adjacency.getD 0)
  mem_resolve : ref ∈ search.navigator.resolve anchor criterion.role.inverse

/-- In the inverse role to a visible anchor, from which the adjacency leads to a visible mention
of a token for which the criterion holds. -/
def VisiblyReports (search : Search) (criterion : Criterion) (ref : TokenRef) : Prop :=
  ∃ anchor, search.navigator.visible.shows anchor = true ∧
    ref ∈ search.navigator.resolve anchor criterion.role.inverse ∧
    ∃ mention, search.navigator.shiftBy anchor criterion.adjacency = some mention ∧
      search.navigator.visible.shows mention = true ∧
      ∃ tested, search.Passes criterion tested ∧ mention ∈ search.mentions criterion tested

/-- All mentions of what the criterion holds for are visible. -/
def SeesMentions (search : Search) (criterion : Criterion) : Prop :=
  ∀ tested, search.Passes criterion tested → ∀ mention ∈ search.mentions criterion tested,
    search.navigator.visible.shows mention = true

variable {search : Search} {criterion : Criterion} {treebank : Treebank} {filter : WordFilter}
  {lexicon : Lexicon}

theorem mem_found_iff_passes {ref : TokenRef} :
    ref ∈ search.found criterion ↔
      ∃ tested, search.Passes criterion tested ∧ ref ∈ search.report criterion tested := by
  rw [mem_found]
  constructor
  · rintro ⟨visible, hvisible, tested, htested, haccepts, hreport⟩
    exact ⟨tested, ⟨⟨visible, hvisible, htested⟩, haccepts⟩, hreport⟩
  · rintro ⟨tested, ⟨⟨visible, hvisible, htested⟩, haccepts⟩, hreport⟩
    exact ⟨visible, hvisible, tested, htested, haccepts, hreport⟩

section

variable (hvisible : search.navigator.visible = treebank.visible filter lexicon)

include hvisible

theorem Passes.isRoot_eq_false {tested : TokenRef} (hpasses : search.Passes criterion tested) :
    tested.isRoot = false := by
  obtain ⟨⟨visible, hscanned, htested⟩, -⟩ := hpasses
  exact isRoot_of_mem_tested hvisible hscanned htested

/-- From a mention, the role starts at the visible token that stands before it as the adjacency
says, whether the mention is visible or not. -/
theorem anchor?_eq_some_iff {mention anchor : TokenRef} (hmention : mention.isRoot = false) :
    search.anchor? criterion mention = some anchor ↔
      anchor.isRoot = false ∧ search.navigator.visible.shows anchor = true ∧
        anchor.Apart mention (criterion.adjacency.getD 0) := by
  rw [anchor?]
  cases criterion.adjacency with
  | none =>
      rw [Option.getD_none, TokenRef.apart_zero_iff]
      simp only [Option.ite_none_right_eq_some, Option.some.injEq]
      constructor
      · rintro ⟨hshows, rfl⟩
        exact ⟨hmention, hshows, rfl⟩
      · rintro ⟨-, hshows, rfl⟩
        exact ⟨hshows, rfl⟩
  | some offset =>
      rw [Option.getD_some, Treebank.shift_eq_some_iff_apart hvisible hmention]
      constructor
      · rintro ⟨hapart, hroot, hshows⟩
        have hback := hapart.symm
        rw [Int.neg_neg] at hback
        exact ⟨hroot, hshows, hback⟩
      · rintro ⟨hroot, hshows, hapart⟩
        exact ⟨hapart.symm, hroot, hshows⟩

/-- From an anchor, the adjacency leads to a mention if the mention is visible. -/
theorem shiftBy_eq_some_iff {mention anchor : TokenRef} (hmention : mention.isRoot = false)
    (hanchor : anchor.isRoot = false) (hshows : search.navigator.visible.shows anchor = true)
    (hapart : anchor.Apart mention (criterion.adjacency.getD 0)) :
    search.navigator.shiftBy anchor criterion.adjacency = some mention ↔
      search.navigator.visible.shows mention = true := by
  cases hplace : criterion.adjacency with
  | none =>
      -- Nothing is asked of the mention here: it is the anchor, which is visible.
      rw [hplace, Option.getD_none, TokenRef.apart_zero_iff] at hapart
      rw [hapart]
      exact iff_of_true rfl hshows
  | some offset =>
      rw [hplace] at hapart
      rw [Navigator.shiftBy, Treebank.shift_eq_some_iff_apart hvisible hanchor]
      exact ⟨fun hshift => hshift.2.2, fun hshown => ⟨hapart, hmention, hshown⟩⟩

end

section

variable (hnumbered : treebank.WellNumbered)
  (hvisible : search.navigator.visible = treebank.visible filter lexicon)
  (hcoreference : search.coreference = some (.ofCorpus treebank.corpus))
  (hexpands : criterion.expandsCoreference = true)

include hnumbered hvisible hcoreference hexpands

omit hnumbered in
theorem mentions_eq_mates (tested : TokenRef) :
    search.mentions criterion tested = treebank.mates tested := by
  rw [mentions_of_expandsCoreference hcoreference hexpands, hvisible]
  rfl

theorem isRoot_eq_false_of_mem_mentions {tested mention : TokenRef}
    (hpasses : search.Passes criterion tested)
    (hmention : mention ∈ search.mentions criterion tested) : mention.isRoot = false := by
  rw [mentions_eq_mates hvisible hcoreference hexpands] at hmention
  exact hnumbered.isRoot_of_mem_mates hmention (hpasses.isRoot_eq_false hvisible)

theorem leads_iff {tested mention anchor ref : TokenRef} :
    search.Leads criterion tested mention anchor ref ↔
      search.Passes criterion tested ∧ mention ∈ search.mentions criterion tested ∧
        search.anchor? criterion mention = some anchor ∧
          ref ∈ search.navigator.resolve anchor criterion.role.inverse := by
  constructor
  · rintro ⟨hpasses, hmention, hstart, hshows, hapart, hresolve⟩
    have hroot := isRoot_eq_false_of_mem_mentions hnumbered hvisible hcoreference hexpands hpasses
      hmention
    have hanchor := (anchor?_eq_some_iff hvisible hroot).mpr ⟨hstart, hshows, hapart⟩
    exact ⟨hpasses, hmention, hanchor, hresolve⟩
  · rintro ⟨hpasses, hmention, hanchor, hresolve⟩
    have hroot := isRoot_eq_false_of_mem_mentions hnumbered hvisible hcoreference hexpands hpasses
      hmention
    obtain ⟨hstart, hshows, hapart⟩ := (anchor?_eq_some_iff hvisible hroot).mp hanchor
    exact ⟨hpasses, hmention, hstart, hshows, hapart, hresolve⟩

/-- Found is what some mention leads to, be it visible or not. -/
theorem mem_found_iff_leads {ref : TokenRef} :
    ref ∈ search.found criterion ↔
      ∃ tested mention anchor, search.Leads criterion tested mention anchor ref := by
  simp only [mem_found_iff_passes, mem_report,
    leads_iff hnumbered hvisible hcoreference hexpands]
  constructor
  · rintro ⟨tested, hpasses, mention, hmention, anchor, hanchor, hresolve⟩
    exact ⟨tested, mention, anchor, hpasses, hmention, hanchor, hresolve⟩
  · rintro ⟨tested, mention, anchor, hpasses, hmention, hanchor, hresolve⟩
    exact ⟨tested, hpasses, mention, hmention, anchor, hanchor, hresolve⟩

/-- Visibly reported is what a visible mention leads to. -/
theorem visiblyReports_iff_leads {ref : TokenRef} :
    search.VisiblyReports criterion ref ↔
      ∃ tested mention anchor, search.Leads criterion tested mention anchor ref ∧
        search.navigator.visible.shows mention = true := by
  constructor
  · rintro ⟨anchor, hshows, hresolve, mention, hshift, hshown, tested, hpasses, hmention⟩
    -- Since the shift leads to the mention, the way back from it leads to the anchor.
    have hanchor := anchor?_of_shiftBy hvisible hshows hshift
    have hleads := (leads_iff hnumbered hvisible hcoreference hexpands).mpr
      ⟨hpasses, hmention, hanchor, hresolve⟩
    exact ⟨tested, mention, anchor, hleads, hshown⟩
  · rintro ⟨tested, mention, anchor, ⟨hpasses, hmention, hstart, hshows, hapart, hresolve⟩, hshown⟩
    have hroot := isRoot_eq_false_of_mem_mentions hnumbered hvisible hcoreference hexpands hpasses
      hmention
    have hshift := (shiftBy_eq_some_iff hvisible hroot hstart hshows hapart).mpr hshown
    exact ⟨anchor, hshows, hresolve, mention, hshift, hshown, tested, hpasses, hmention⟩

end

/-- **What mentions lead to.**  In a well-numbered treebank, under any filter, a criterion with
coreference finds what the mates of the tokens for which it holds lead to, whether these mentions
are visible or not.  Without an adjacency, or where all these mentions are visible,
everything found is visibly reported. -/
theorem find_iff_leads (hnumbered : treebank.WellNumbered) (filter : WordFilter)
    (lexicon : Lexicon) (distanceLimit : Nat) (hexpands : criterion.expandsCoreference = true) :
    let search : Search := ⟨⟨treebank.visible filter lexicon, lexicon, distanceLimit⟩,
      some (.ofCorpus treebank.corpus)⟩
    ∃ found, (search.find criterion).Yields found ∧
      (∀ tested, search.mentions criterion tested = treebank.mates tested) ∧
      (∀ ref, ref ∈ found ↔
        ∃ tested mention anchor, search.Leads criterion tested mention anchor ref) ∧
      (∀ ref, search.VisiblyReports criterion ref ↔
        ∃ tested mention anchor, search.Leads criterion tested mention anchor ref ∧
          search.navigator.visible.shows mention = true) ∧
      (criterion.adjacency = none ∨ search.SeesMentions criterion →
        ∀ ref ∈ found, search.VisiblyReports criterion ref) := by
  intro search
  refine ⟨search.found criterion, looks_find.yields, fun tested => ?_, fun ref => ?_,
    fun ref => ?_, ?_⟩
  · exact mentions_eq_mates rfl rfl hexpands tested
  · exact mem_found_iff_leads hnumbered rfl rfl hexpands
  · exact visiblyReports_iff_leads hnumbered rfl rfl hexpands
  · intro hseen ref hfound
    obtain ⟨tested, mention, anchor, hleads⟩ :=
      (mem_found_iff_leads hnumbered rfl rfl hexpands).mp hfound
    have hshown : search.navigator.visible.shows mention = true := by
      rcases hseen with hplace | hseen
      · -- Without an adjacency the anchor is the mention.
        have hapart := hleads.apart
        rw [hplace, Option.getD_none, TokenRef.apart_zero_iff] at hapart
        rw [hapart]
        exact hleads.shows_anchor
      · exact hseen tested hleads.passes mention hleads.mem_mentions
    exact (visiblyReports_iff_leads hnumbered rfl rfl hexpands).mpr
      ⟨tested, mention, anchor, hleads, hshown⟩

/-- The criterion `{"-1w": ["Anna"]}` with coreference: what stands after a mention of Anna. -/
def afterAnna : Criterion where
  descriptor := "-1w"
  role := .self
  feature := .word
  adjacency := some (-1)
  expandsCoreference := true
  matcher := .literals ["Anna"] true

end Search

/-- *Anna laughed.  She smiled.*  Anna and she are one. -/
def Treebank.tale : Treebank where
  source := "tale"
  parses := [
    { id := 1
      rows := [
        { Token.parsed 1 "Anna" "anna" "NNP" 2 "nsubj" with coreference := some "c1" },
        .parsed 2 "laughed" "laugh" "VBD" 0 "root"]
      metadata := ∅ },
    { id := 2
      rows := [
        { Token.parsed 1 "She" "she" "PRP" 2 "nsubj" with coreference := some "c1" },
        .parsed 2 "smiled" "smile" "VBD" 0 "root"]
      metadata := ∅ }]

namespace Search

theorem find_iff_leads_tale :
    Treebank.tale.WellNumbered ∧ afterAnna.expandsCoreference = true ∧
      let search : Search := ⟨⟨Treebank.tale.visible .none .penn, .penn, 30⟩,
        some (.ofCorpus Treebank.tale.corpus)⟩
      ∃ found, (search.find afterAnna).Yields found ∧
        (∀ tested, search.mentions afterAnna tested = Treebank.tale.mates tested) ∧
        (∀ ref, ref ∈ found ↔
          ∃ tested mention anchor, search.Leads afterAnna tested mention anchor ref) ∧
        (∀ ref, search.VisiblyReports afterAnna ref ↔
          ∃ tested mention anchor, search.Leads afterAnna tested mention anchor ref ∧
            search.navigator.visible.shows mention = true) ∧
        (afterAnna.adjacency = none ∨ search.SeesMentions afterAnna →
          ∀ ref ∈ found, search.VisiblyReports afterAnna ref) := by
  have hnumbered : Treebank.tale.WellNumbered := by decide
  exact ⟨hnumbered, rfl, find_iff_leads hnumbered .none .penn 30 rfl⟩

/-- With the closed class hidden, *smiled* is found although *She* is not visible. -/
theorem find_hidden_mention :
    let lexicon := Lexicon.empty.addClosedClass ["she"]
    let search : Search := ⟨⟨Treebank.tale.visible ⟨none, true⟩ lexicon, lexicon, 30⟩,
      some (.ofCorpus Treebank.tale.corpus)⟩
    Treebank.tale.WellNumbered ∧ afterAnna.expandsCoreference = true ∧
      ∃ found, (search.find afterAnna).Yields found ∧
        ∃ ref ∈ found, ¬ search.VisiblyReports afterAnna ref := by
  intro lexicon search
  have hfound : ⟨2, 2⟩ ∈ search.found afterAnna := by
    rw [OrderedSet.mem_iff]
    decide +kernel
  have hhidden : search.navigator.shift ⟨2, 2⟩ (-1) = none := by decide +kernel
  refine ⟨by decide, rfl, search.found afterAnna, looks_find.yields, ⟨2, 2⟩, hfound, ?_⟩
  rintro ⟨anchor, -, hresolve, mention, hshift, -⟩
  -- The anchor is *smiled* itself, and the shift from there would have to lead to *She*.
  obtain ⟨rfl, -⟩ := Navigator.mem_resolve_self.mp hresolve
  have hshift : search.navigator.shift ⟨2, 2⟩ (-1) = some mention := hshift
  rw [hhidden] at hshift
  cases hshift

end Search

end Concordancer
