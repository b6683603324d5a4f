import Concordancer.Distance
import Concordancer.Proofs.Corpus.LastRows
import Mathlib.Data.Finset.Card

/-!
# Chains of governors and distances

The distance of a token is found by a walk along governors that may take so many steps and no
more.  Here it is compared with the chain of governors itself, which nothing bounds:
`Climbs` says where the chain stands after so many steps.  A distance is the number of
steps after which the chain comes to the root, if it is less than the limit
(`distance_iff_reachesRoot`).

Nothing is asked of rows and governors.  A chain that does not come to the root runs in
a circle (`Circles`) or leaves the sentence (`Leaves`), and then there is no distance for
any limit.  A limit larger than the number of tokens refuses no other chain.

## Strategy

A walk ends in one of three ways, and `walk_ends` says what the chain is like in each.  They
exclude each other: from a number the chain goes on in one way only (`Climbs.unique`), and it
ends at the root, which has no governor (`Climbs.le_of_root`).

A chain of more steps than there are tokens stands twice at the same one, by the pigeonhole
principle.  From there it runs in a circle (`circles_of_card_lt`).
-/

namespace Concordancer

namespace Sentence

/-- After so many steps from governor to governor, the chain from a number stands at the
target.  Each number that it has left is that of a token. -/
inductive Climbs (sentence : Sentence) : (steps index target : Nat) → Prop
  | stay (index : Nat) : sentence.Climbs 0 index index
  | step {steps index target : Nat} {token : Token}
    (htoken : sentence.token? index = some token)
    (hrest : sentence.Climbs steps token.governor target) :
    sentence.Climbs (steps + 1) index target

/-- The chain from a number comes to the root after so many steps, and not before. -/
structure ReachesRoot (sentence : Sentence) (steps index : Nat) : Prop where
  climbs : sentence.Climbs steps index rootIndex
  not_earlier : ∀ fewer < steps, ¬ sentence.Climbs fewer index rootIndex

/-- The chain from a number comes to one that it comes back to. -/
def Circles (sentence : Sentence) (index : Nat) : Prop :=
  ∃ before around other, sentence.Climbs before index other ∧ 0 < around ∧
    sentence.Climbs around other other

/-- The chain from a number comes to one that is neither the root nor that of a token. -/
def Leaves (sentence : Sentence) (index : Nat) : Prop :=
  ∃ steps other, sentence.Climbs steps index other ∧ other ≠ rootIndex ∧
    sentence.token? other = none

variable {sentence : Sentence} {steps fewer index target other limit distance : Nat}

/-! ## Where a chain goes -/

theorem climbs_zero_iff : sentence.Climbs 0 index target ↔ target = index := by
  constructor
  · intro hclimbs
    cases hclimbs
    rfl
  · rintro rfl
    exact .stay target

theorem climbs_succ_iff :
    sentence.Climbs (steps + 1) index target ↔
      ∃ token, sentence.token? index = some token ∧
        sentence.Climbs steps token.governor target := by
  constructor
  · intro hclimbs
    cases hclimbs with
    | step htoken hrest => exact ⟨_, htoken, hrest⟩
  · rintro ⟨token, htoken, hrest⟩
    exact .step htoken hrest

theorem climbs_add_iff {further : Nat} :
    sentence.Climbs (steps + further) index target ↔
      ∃ other, sentence.Climbs steps index other ∧ sentence.Climbs further other target := by
  induction steps generalizing index with
  | zero => simp only [Nat.zero_add, climbs_zero_iff, exists_eq_left]
  | succ steps ih =>
      rw [Nat.add_right_comm, climbs_succ_iff]
      simp only [climbs_succ_iff, ih]
      constructor
      · rintro ⟨token, htoken, other, hbefore, hafter⟩
        exact ⟨other, ⟨token, htoken, hbefore⟩, hafter⟩
      · rintro ⟨other, ⟨token, htoken, hbefore⟩, hafter⟩
        exact ⟨token, htoken, other, hbefore, hafter⟩

theorem Climbs.unique (hclimbs : sentence.Climbs steps index target)
    (hother : sentence.Climbs steps index other) : target = other := by
  induction hclimbs with
  | stay index => exact (climbs_zero_iff.mp hother).symm
  | step htoken _ ih =>
      obtain ⟨token, hsame, hrest⟩ := climbs_succ_iff.mp hother
      obtain rfl := Option.some.inj (htoken.symm.trans hsame)
      exact ih hrest

/-- What a chain comes to in fewer steps is on its way. -/
theorem Climbs.rest (hclimbs : sentence.Climbs steps index target)
    (hother : sentence.Climbs fewer index other) (hle : fewer ≤ steps) :
    sentence.Climbs (steps - fewer) other target := by
  rw [← Nat.add_sub_cancel' hle, climbs_add_iff] at hclimbs
  obtain ⟨middle, hbefore, hafter⟩ := hclimbs
  rw [hother.unique hbefore]
  exact hafter

/-- Where a chain comes to a number again, it does so as often as one likes. -/
theorem Climbs.rounds (hcircle : sentence.Climbs steps index index) (times : Nat) :
    sentence.Climbs (times * steps) index index := by
  induction times with
  | zero =>
      rw [Nat.zero_mul]
      exact .stay index
  | succ times ih =>
      rw [Nat.succ_mul, climbs_add_iff]
      exact ⟨index, ih, hcircle⟩

/-! ## How a walk ends -/

/-- A walk reaches the root, or is lost where the chain leaves the sentence, or takes all its
steps and still stands at another number. -/
theorem walk_ends (sentence : Sentence) (steps index : Nat) :
    (∃ taken left, sentence.walk steps index = .reached left ∧ taken + left = steps ∧
      sentence.Climbs taken index rootIndex) ∨
    (sentence.walk steps index = .lost ∧ sentence.Leaves index) ∨
    ∃ other, sentence.walk steps index = .exhausted ∧ sentence.Climbs steps index other ∧
      other ≠ rootIndex := by
  induction steps generalizing index with
  | zero =>
      cases index with
      | zero => exact .inl ⟨0, 0, rfl, rfl, .stay 0⟩
      | succ index => exact .inr (.inr ⟨index + 1, rfl, .stay _, Nat.succ_ne_zero index⟩)
  | succ steps ih =>
      cases index with
      | zero => exact .inl ⟨0, steps + 1, rfl, Nat.zero_add _, .stay 0⟩
      | succ index =>
          rw [walk, governor?]
          cases htoken : sentence.token? (index + 1) with
          | none =>
              exact .inr (.inl ⟨rfl, 0, index + 1, .stay _, Nat.succ_ne_zero index, htoken⟩)
          | some token =>
              rw [Option.map_some]
              -- What the walk from the governor comes to, this one comes to one step later.
              rcases ih token.governor with
                ⟨taken, left, hwalk, hsteps, hclimbs⟩ |
                ⟨hwalk, taken, other, hclimbs, hroot, hnone⟩ | ⟨other, hwalk, hclimbs, hroot⟩
              · exact .inl ⟨taken + 1, left, hwalk, by omega, .step htoken hclimbs⟩
              · exact .inr (.inl ⟨hwalk, taken + 1, other, .step htoken hclimbs, hroot, hnone⟩)
              · exact .inr (.inr ⟨other, hwalk, .step htoken hclimbs, hroot⟩)

/-! ## Sentences whose root is no token -/

section

variable (hroot : sentence.token? rootIndex = none)

include hroot

/-- A chain takes no step that leads past the root. -/
theorem Climbs.le_of_root (hclimbs : sentence.Climbs steps index rootIndex)
    (hother : sentence.Climbs fewer index other) : fewer ≤ steps := by
  by_contra hmore
  have hpast : sentence.Climbs (fewer - steps) rootIndex other :=
    hother.rest hclimbs (by omega)
  obtain ⟨more, hmore⟩ : ∃ more, fewer - steps = more + 1 := ⟨fewer - steps - 1, by omega⟩
  rw [hmore] at hpast
  obtain ⟨token, htoken, -⟩ := climbs_succ_iff.mp hpast
  rw [hroot] at htoken
  cases htoken

/-- Whenever a chain comes to the root, it does so for the first time. -/
theorem reachesRoot_iff : sentence.ReachesRoot steps index ↔
    sentence.Climbs steps index rootIndex := by
  constructor
  · exact fun hreaches => hreaches.climbs
  · intro hclimbs
    refine ⟨hclimbs, fun fewer hfewer hearlier => ?_⟩
    have hle := hearlier.le_of_root hroot hclimbs
    omega

theorem Circles.not_climbs_root (hcircles : sentence.Circles index) :
    ¬ sentence.Climbs steps index rootIndex := by
  intro hclimbs
  obtain ⟨before, around, other, hbefore, haround, hcircle⟩ := hcircles
  -- After enough rounds it has taken more steps than lead to the root.
  have hrounds : sentence.Climbs (before + (steps + 1) * around) index other :=
    climbs_add_iff.mpr ⟨other, hbefore, hcircle.rounds (steps + 1)⟩
  have hle := hclimbs.le_of_root hroot hrounds
  have hmany : steps + 1 ≤ (steps + 1) * around := Nat.le_mul_of_pos_right _ haround
  omega

theorem Leaves.not_climbs_root (hleaves : sentence.Leaves index) :
    ¬ sentence.Climbs steps index rootIndex := by
  intro hclimbs
  obtain ⟨taken, other, hother, hne, hnone⟩ := hleaves
  have hle := hclimbs.le_of_root hroot hother
  have hrest : sentence.Climbs (steps - taken) other rootIndex := hclimbs.rest hother hle
  cases hlength : steps - taken with
  | zero =>
      rw [hlength, climbs_zero_iff] at hrest
      exact hne hrest.symm
  | succ more =>
      rw [hlength] at hrest
      obtain ⟨token, htoken, -⟩ := climbs_succ_iff.mp hrest
      rw [hnone] at htoken
      cases htoken

theorem distance_eq_some_iff :
    (sentence.distance limit index).value = some distance ↔
      distance < limit ∧ sentence.Climbs distance index rootIndex := by
  rw [Sentence.distance]
  rcases sentence.walk_ends limit index with
    ⟨taken, left, hwalk, hsteps, hclimbs⟩ | ⟨hwalk, hleaves⟩ | ⟨other, hwalk, hclimbs, hother⟩
  · rw [hwalk, Told.value_pure]
    -- The root is reached after one number of steps only.
    have hsame : sentence.Climbs distance index rootIndex ↔ distance = taken := by
      constructor
      · intro hdistance
        have hle := hclimbs.le_of_root hroot hdistance
        have hge := hdistance.le_of_root hroot hclimbs
        omega
      · rintro rfl
        exact hclimbs
    rw [hsame, Option.ite_none_left_eq_some, Option.some.injEq]
    omega
  · rw [hwalk, Told.value_pure]
    exact iff_of_false nofun fun hdistance => hleaves.not_climbs_root hroot hdistance.2
  · rw [hwalk, Told.value_bind, Told.value_pure]
    refine iff_of_false nofun ?_
    rintro ⟨hlimit, hdistance⟩
    have hle := hdistance.le_of_root hroot hclimbs
    omega

end

end Sentence

namespace Parse

/-- The numbers of the tokens of a parse. -/
def numbers (parse : Parse) : Finset Nat :=
  ((parse.rows.filter fun row => !row.isRoot).map Token.index).toFinset

variable {parse : Parse} {steps index target : Nat}

theorem mem_numbers_of_token? {token : Token} (htoken : parse.sentence.token? index = some token) :
    index ∈ parse.numbers := by
  obtain ⟨hroot, hlast⟩ := token?_sentence_eq_some_iff.mp htoken
  have hindex : token.index = index := hlast.1
  rw [numbers, List.mem_toFinset, List.mem_map]
  refine ⟨token, List.mem_filter.mpr ⟨hlast.mem, ?_⟩, hindex⟩
  simpa [Token.isRoot, hindex] using hroot

theorem circles_of_card_lt (hmany : parse.numbers.card < steps)
    (hclimbs : parse.sentence.Climbs steps index target) : parse.sentence.Circles index := by
  have hvisited : ∀ taken ∈ Finset.range steps, ∃ other ∈ parse.numbers,
      parse.sentence.Climbs taken index other := by
    intro taken htaken
    obtain ⟨more, rfl⟩ : ∃ more, steps = taken + (more + 1) := by
      have := Finset.mem_range.mp htaken
      exact ⟨steps - taken - 1, by omega⟩
    obtain ⟨other, hother, hrest⟩ := Sentence.climbs_add_iff.mp hclimbs
    obtain ⟨token, htoken, -⟩ := Sentence.climbs_succ_iff.mp hrest
    exact ⟨other, mem_numbers_of_token? htoken, hother⟩
  -- More steps than numbers: by the pigeonhole principle one number is visited twice.
  choose! visited hnumber hvisits using hvisited
  obtain ⟨first, hfirst, second, hsecond, hne, hsame⟩ :=
    Finset.exists_ne_map_eq_of_card_lt_of_maps_to (by rwa [Finset.card_range]) hnumber
  -- Between two visits of one number the chain goes around.
  have haround : ∀ earlier ∈ Finset.range steps, ∀ later ∈ Finset.range steps,
      earlier < later → visited earlier = visited later → parse.sentence.Circles index := by
    intro earlier hearlier later hlater hlt heq
    have hback := (hvisits later hlater).rest (hvisits earlier hearlier) (Nat.le_of_lt hlt)
    rw [← heq] at hback
    exact ⟨earlier, later - earlier, visited earlier, hvisits earlier hearlier, by omega, hback⟩
  rcases Nat.lt_or_gt_of_ne hne with hlt | hgt
  · exact haround first hfirst second hsecond hlt hsame
  · exact haround second hsecond first hfirst hgt hsame.symm

/-- With a limit larger than the number of tokens, a distance is missing only where the chain
does not come to the root. -/
theorem distance_eq_none_iff {limit : Nat} (hmany : parse.numbers.card < limit) :
    (parse.sentence.distance limit index).value = none ↔
      parse.sentence.Circles index ∨ parse.sentence.Leaves index := by
  have hroot := parse.token?_root
  constructor
  · intro hnone
    rcases parse.sentence.walk_ends limit index with
      ⟨taken, left, -, hsteps, hclimbs⟩ | ⟨-, hleaves⟩ | ⟨other, -, hclimbs, -⟩
    · -- If there are steps left, there is a distance; if not, the chain is longer than there are
      -- numbers.
      cases left with
      | zero =>
          rw [Nat.add_zero] at hsteps
          exact .inl (circles_of_card_lt (hsteps ▸ hmany) hclimbs)
      | succ left =>
          have hdistance := (Sentence.distance_eq_some_iff hroot).mpr
            ⟨(by omega : taken < limit), hclimbs⟩
          rw [hnone] at hdistance
          cases hdistance
    · exact .inr hleaves
    · exact .inl (circles_of_card_lt hmany hclimbs)
  · intro hlost
    rw [Option.eq_none_iff_forall_ne_some]
    intro distance hdistance
    obtain ⟨-, hclimbs⟩ := (Sentence.distance_eq_some_iff hroot).mp hdistance
    rcases hlost with hcircles | hleaves
    · exact hcircles.not_climbs_root hroot hclimbs
    · exact hleaves.not_climbs_root hroot hclimbs

/-- **Distances are exact, and limits refuse no more than they must.**  Whatever the rows of a
sentence and their governors are, the distance of a number is the number of steps after which
its chain of governors first comes to the root, if it is less than the limit; otherwise there
is none.  So a larger limit keeps the distances that there are, and a token is one step farther
from the root than its governor.  If the limit is larger than the number of tokens, there is
no distance exactly where the chain runs in a circle or leaves the sentence. -/
theorem distance_iff_reachesRoot (parse : Parse) (limit index : Nat) :
    (∀ distance, (parse.sentence.distance limit index).value = some distance ↔
      distance < limit ∧ parse.sentence.ReachesRoot distance index) ∧
    (∀ distance larger, limit ≤ larger →
      (parse.sentence.distance limit index).value = some distance →
        (parse.sentence.distance larger index).value = some distance) ∧
    (∀ distance governor, parse.sentence.governor? index = some governor →
      (parse.sentence.distance limit governor).value = some distance → distance + 1 < limit →
        (parse.sentence.distance limit index).value = some (distance + 1)) ∧
    (parse.numbers.card < limit →
      ((parse.sentence.distance limit index).value = none ↔
        parse.sentence.Circles index ∨ parse.sentence.Leaves index)) := by
  have hroot := parse.token?_root
  have hexact : ∀ limit index distance,
      (parse.sentence.distance limit index).value = some distance ↔
        distance < limit ∧ parse.sentence.Climbs distance index rootIndex :=
    fun _ _ _ => Sentence.distance_eq_some_iff hroot
  refine ⟨fun distance => ?_, ?_, ?_, distance_eq_none_iff⟩
  · rw [hexact, Sentence.reachesRoot_iff hroot]
  · intro distance larger hlarger hdistance
    obtain ⟨hlimit, hclimbs⟩ := (hexact limit index distance).mp hdistance
    exact (hexact larger index distance).mpr ⟨by omega, hclimbs⟩
  · intro distance governor hgovernor hdistance hlimit
    obtain ⟨token, htoken, rfl⟩ := Option.map_eq_some_iff.mp hgovernor
    obtain ⟨-, hclimbs⟩ := (hexact limit token.governor distance).mp hdistance
    exact (hexact limit index (distance + 1)).mpr ⟨hlimit, .step htoken hclimbs⟩

/-- Of five tokens, *cat* is on a circle of two, and the comma leads out of the sentence.  In the
other sentence *It* is two steps from the root, for any limit that is larger. -/
theorem distance_iff_reachesRoot_sample :
    (∃ parse, Treebank.sample.parse? 7 = some parse ∧ parse.numbers.card < 6 ∧
      (parse.sentence.distance 6 2).value = none ∧
      (parse.sentence.Circles 2 ∨ parse.sentence.Leaves 2) ∧
      (parse.sentence.distance 6 6).value = none ∧
      (parse.sentence.Circles 6 ∨ parse.sentence.Leaves 6)) ∧
    ∃ parse, Treebank.sample.parse? 2 = some parse ∧
      parse.sentence.governor? 1 = some 2 ∧ (parse.sentence.distance 3 2).value = some 1 ∧
      (parse.sentence.distance 3 1).value = some 2 ∧ parse.sentence.ReachesRoot 2 1 ∧
      (parse.sentence.distance 30 1).value = some 2 := by
  constructor
  · obtain ⟨parse, hparse⟩ : ∃ parse, Treebank.sample.parse? 7 = some parse := ⟨_, rfl⟩
    have hmany : parse.numbers.card < 6 := by
      cases hparse
      decide
    have hnone : ∀ index ∈ [2, 6], (parse.sentence.distance 6 index).value = none := by
      cases hparse
      decide +kernel
    obtain ⟨-, -, -, hcat⟩ := distance_iff_reachesRoot parse 6 2
    obtain ⟨-, -, -, hcomma⟩ := distance_iff_reachesRoot parse 6 6
    have hcatNone := hnone 2 (by decide)
    have hcommaNone := hnone 6 (by decide)
    exact ⟨parse, hparse, hmany, hcatNone, (hcat hmany).mp hcatNone, hcommaNone,
      (hcomma hmany).mp hcommaNone⟩
  · obtain ⟨parse, hparse⟩ : ∃ parse, Treebank.sample.parse? 2 = some parse := ⟨_, rfl⟩
    have hgovernor : parse.sentence.governor? 1 = some 2 := by
      cases hparse
      decide +kernel
    have hslept : (parse.sentence.distance 3 2).value = some 1 := by
      cases hparse
      decide +kernel
    obtain ⟨hexact, hlarger, hfarther, -⟩ := distance_iff_reachesRoot parse 3 1
    have hit : (parse.sentence.distance 3 1).value = some 2 :=
      hfarther 1 2 hgovernor hslept (by decide)
    exact ⟨parse, hparse, hgovernor, hslept, hit, ((hexact 2).mp hit).2,
      hlarger 2 30 (by decide) hit⟩

end Parse

end Concordancer
