import Concordancer.Distance
import Concordancer.Relation
import Concordancer.Visible

/-!
# Moving between tokens and reading them

A navigator leads from tokens of the visible corpus to related ones and reads their
features.  Whatever it leads to is visible.
-/

namespace Concordancer

structure Navigator where
  visible : VisibleCorpus
  lexicon : Lexicon
  /-- Distances are less than this. -/
  distanceLimit : Nat

namespace Navigator

/-- The visible tokens in a role to a token: itself, its governor, or its dependents. -/
def resolve (navigator : Navigator) (ref : TokenRef) (role : Role) : List TokenRef :=
  match navigator.visible.sentence? ref.sentence with
  | none => []
  | some visible =>
    let indices := match role with
      | .self => [ref.index]
      | .governor => (visible.sentence.governor? ref.index).toList
      | .dependent => visible.sentence.dependents ref.index
    (indices.filter visible.shows).map (⟨ref.sentence, ·⟩)

/-- The visible token to the right of a visible one. -/
def next? (navigator : Navigator) (ref : TokenRef) : Option TokenRef := do
  let visible ← navigator.visible.sentence? ref.sentence
  visible.at? ((← visible.position? ref.index) + 1)

/-- The visible tokens that one step leads to. -/
def follow (navigator : Navigator) (ref : TokenRef) : Step → List TokenRef
  | .governor => navigator.resolve ref .governor
  | .dependent => navigator.resolve ref .dependent
  | .next => (navigator.next? ref).toList

/-- The visible token whose number is larger by `offset`.  The root has no neighbours. -/
def shift (navigator : Navigator) (ref : TokenRef) (offset : Int) : Option TokenRef :=
  if ref.isRoot then none
  else do
    let visible ← navigator.visible.sentence? ref.sentence
    let target := ref.index + offset
    if 0 < target && (visible.sentence.token? target.toNat).isSome &&
        visible.shows target.toNat then
      some ⟨ref.sentence, target.toNat⟩
    else none

/-- The shift that an adjacency asks for, if there is one. -/
def shiftBy (navigator : Navigator) (ref : TokenRef) : Option Int → Option TokenRef
  | none => some ref
  | some offset => navigator.shift ref offset

/-- What a token has for a feature.  A missing annotation, a distance that does not exist,
and whatever is asked of the root or of no token, is nothing. -/
def read (navigator : Navigator) (ref : TokenRef) (feature : Feature) :
    Told (Option String) :=
  match (navigator.visible.corpus.sentence? ref.sentence) with
  | none => pure none
  | some sentence =>
    match sentence.token? ref.index with
    | none => pure none
    | some token =>
      match feature with
      | .word => pure (some token.word)
      | .baseForm => pure token.baseForm
      | .tag => pure token.tag
      | .wordClass => pure (token.tag.map navigator.lexicon.wordClass)
      | .function => pure (token.function.map (Text.dropTrailing ','))
      | .entity => pure token.entity
      | .index => pure (some (toString token.index))
      | .sentenceId => pure (some (toString sentence.id))
      | .distance => do
        let distance ← sentence.distance navigator.distanceLimit token.index
        pure (distance.map toString)

end Navigator

end Concordancer
