import Concordancer.Proofs.Agreement.Navigators
import Concordancer.Proofs.Search.Found

/-!
# What agreeing navigators find

If the navigators of two searches agree, a criterion is tested on the same tokens of
sentences that look alike, and holds for the same of them.  What it reports starts
from `anchors`, the visible tokens of the mentions.  Where these are the same as
well, the criterion reports the same for both sentences, in the same order
(`reportedIn_eq`), and finds the same in corpora of such sentences (`found_eq`).
-/

namespace Concordancer

theorem Navigator.Agrees.shows_eq {domain : TokenRef → Prop} {features : Feature → Prop}
    {first second : Navigator} (hagrees : first.Agrees domain features second) {ref : TokenRef}
    (href : domain ref) : first.visible.shows ref = second.visible.shows ref := by
  unfold VisibleCorpus.shows
  cases hfirst : first.visible.sentence? ref.sentence with
  | none => rw [hagrees.sentence?_eq_none href hfirst]
  | some visible =>
      obtain ⟨other, hsecond, halike⟩ := hagrees.exists_sentence? href hfirst
      rw [hsecond, Option.any_some, Option.any_some, halike.shows_eq]

namespace Search

variable {domain : TokenRef → Prop} {features : Feature → Prop} {first second : Search}
  {criterion : Criterion} {ref : TokenRef}

section

variable (hagrees : first.navigator.Agrees domain features second.navigator)

include hagrees

theorem holds_eq (href : domain ref) (hfeature : features criterion.feature) :
    (first.holds criterion ref).value = (second.holds criterion ref).value := by
  unfold holds
  rw [Told.value_bind, Told.value_bind, hagrees.read_eq href hfeature]

theorem tested_eq {visible other : VisibleSentence} (halike : visible.LooksLike other)
    (hrefs : ∀ ref ∈ visible.refs, domain ref) :
    first.tested criterion visible = second.tested criterion other := by
  unfold tested
  rw [← halike.indices_eq, ← halike.id_eq]
  refine List.filterMap_congr fun index hindex => ?_
  exact hagrees.shiftBy_eq (hrefs _ (VisibleSentence.mem_refs.mpr ⟨rfl, hindex⟩)) _

theorem domain_of_mem_tested {visible : VisibleSentence} (hrefs : ∀ ref ∈ visible.refs, domain ref)
    (hmem : ref ∈ first.tested criterion visible) : domain ref := by
  obtain ⟨index, hindex, hshift⟩ := mem_tested.mp hmem
  exact hagrees.domain_shiftBy (hrefs _ (VisibleSentence.mem_refs.mpr ⟨rfl, hindex⟩)) hshift

/-! ## Reports -/

theorem anchor?_eq (href : domain ref) :
    first.anchor? criterion ref = second.anchor? criterion ref := by
  unfold anchor?
  cases criterion.adjacency with
  | none => simp only [hagrees.shows_eq href]
  | some offset => exact hagrees.shift_eq href (-offset)

theorem domain_anchor? {anchor : TokenRef} (href : domain ref)
    (hanchor : first.anchor? criterion ref = some anchor) : domain anchor := by
  unfold anchor? at hanchor
  cases hadjacency : criterion.adjacency with
  | none =>
      rw [hadjacency] at hanchor
      obtain ⟨-, hsame⟩ := Option.ite_none_right_eq_some.mp hanchor
      exact Option.some.inj hsame ▸ href
  | some offset =>
      rw [hadjacency] at hanchor
      exact hagrees.domain_shift href (-offset) hanchor

/-- From the same mentions, all in the domain, roles start at the same tokens. -/
theorem anchors_eq (hmentions : first.mentions criterion ref = second.mentions criterion ref)
    (hdomain : ∀ mention ∈ first.mentions criterion ref, domain mention) :
    first.anchors criterion ref = second.anchors criterion ref ∧
      ∀ anchor ∈ first.anchors criterion ref, domain anchor := by
  constructor
  · rw [anchors, anchors, ← hmentions]
    exact List.filterMap_congr fun mention hmention => anchor?_eq hagrees (hdomain mention hmention)
  · intro anchor hanchor
    obtain ⟨mention, hmention, hanchor⟩ := List.mem_filterMap.mp hanchor
    exact domain_anchor? hagrees (hdomain mention hmention) hanchor

/-- Where a token is its only mention, roles start at the same tokens of the domain. -/
theorem anchors_eq_of_mentions_eq_singleton (hfirst : first.mentions criterion ref = [ref])
    (hsecond : second.mentions criterion ref = [ref]) (href : domain ref) :
    first.anchors criterion ref = second.anchors criterion ref ∧
      ∀ anchor ∈ first.anchors criterion ref, domain anchor := by
  refine anchors_eq hagrees (hfirst.trans hsecond.symm) ?_
  rw [hfirst]
  exact List.forall_mem_singleton.mpr href

theorem report_eq (hanchors : first.anchors criterion ref = second.anchors criterion ref)
    (hdomain : ∀ anchor ∈ first.anchors criterion ref, domain anchor) :
    first.report criterion ref = second.report criterion ref := by
  change (first.anchors criterion ref).flatMap _ = (second.anchors criterion ref).flatMap _
  rw [← hanchors]
  exact List.flatMap_congr fun anchor hanchor => hagrees.resolve_eq (hdomain anchor hanchor) _

/-- In sentences that look alike, a criterion reports the same in the same order. -/
theorem reportedIn_eq {visible other : VisibleSentence} (halike : visible.LooksLike other)
    (hrefs : ∀ ref ∈ visible.refs, domain ref) (hfeature : features criterion.feature)
    (hanchors : ∀ ref, domain ref →
      first.anchors criterion ref = second.anchors criterion ref ∧
        ∀ anchor ∈ first.anchors criterion ref, domain anchor) :
    first.reportedIn criterion visible = second.reportedIn criterion other := by
  have hdomain : ∀ ref ∈ first.tested criterion visible, domain ref := fun ref hmem =>
    domain_of_mem_tested hagrees hrefs hmem
  have hholding : (first.tested criterion visible).filter
      (fun ref => (first.holds criterion ref).value) =
        (second.tested criterion other).filter fun ref => (second.holds criterion ref).value := by
    rw [← tested_eq hagrees halike hrefs]
    exact List.filter_congr fun ref hmem => holds_eq hagrees (hdomain ref hmem) hfeature
  unfold reportedIn
  rw [← hholding]
  refine List.flatMap_congr fun ref hmem => ?_
  obtain ⟨hsame, hanchor⟩ := hanchors ref (hdomain ref (List.mem_of_mem_filter hmem))
  exact report_eq hagrees hsame hanchor

/-- Where sentences look alike one by one, a criterion finds the same in the same order. -/
theorem found_eq {α : Type} {parses : List α} {visible other : α → VisibleSentence}
    (hfirst : first.navigator.visible.sentences.toList = parses.map visible)
    (hsecond : second.navigator.visible.sentences.toList = parses.map other)
    (halike : ∀ parse ∈ parses, (visible parse).LooksLike (other parse))
    (hrefs : ∀ parse ∈ parses, ∀ ref ∈ (visible parse).refs, domain ref)
    (hfeature : features criterion.feature)
    (hanchors : ∀ ref, domain ref →
      first.anchors criterion ref = second.anchors criterion ref ∧
        ∀ anchor ∈ first.anchors criterion ref, domain anchor) :
    first.found criterion = second.found criterion := by
  rw [found, found, hfirst, hsecond, List.flatMap_map, List.flatMap_map]
  refine congrArg OrderedSet.ofList (List.flatMap_congr fun parse hparse => ?_)
  exact reportedIn_eq hagrees (halike parse hparse) (hrefs parse hparse) hfeature hanchors

theorem domain_of_mem_reportedIn {visible : VisibleSentence}
    (hrefs : ∀ ref ∈ visible.refs, domain ref)
    (hanchors : ∀ ref, domain ref → ∀ anchor ∈ first.anchors criterion ref, domain anchor)
    (hmem : ref ∈ first.reportedIn criterion visible) : domain ref := by
  obtain ⟨tested, htested, hreport⟩ := List.mem_flatMap.mp hmem
  have hdomain := domain_of_mem_tested hagrees hrefs (List.mem_of_mem_filter htested)
  obtain ⟨anchor, hanchor, hresolve⟩ := List.mem_flatMap.mp hreport
  exact hagrees.domain_resolve (hanchors tested hdomain anchor hanchor) _ hresolve

end

end Search

end Concordancer
