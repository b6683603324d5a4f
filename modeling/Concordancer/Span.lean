import Concordancer.Descriptor
import Concordancer.Visible

/-!
# Spans

A match is shown as it is, or repeated over the tokens around it: as every gram of a given
size that contains it, or beside each single token of a window around it.  A span is one of
these repetitions.  Positions are those of visible tokens.

Sizes come from outside and may be as large as a number of 64 bits can be.  Sums with them are
made in 64 bits and wrap around, as they do in a build that does not check them.
-/

namespace Concordancer

/-- Sizes and positions are smaller than this. -/
def sizeLimit : Nat := UInt64.size

/-- What is left of a sum in 64 bits. -/
def wrapped (sum : Nat) : Nat := sum % sizeLimit

structure Span where
  /-- The tokens that are shown, in sentence order. -/
  tokens : List TokenRef
  /-- The tokens before this position are the left context. -/
  leftEnd : Nat
  /-- The tokens from this position on are the right context; tokens that are shown are in
  neither context. -/
  rightStart : Nat
deriving DecidableEq, Repr

/-- How matches are repeated. -/
structure Repetition where
  expansion : Option Expansion
  gramSize : Nat
  windowRadius : Nat
deriving DecidableEq, Repr

namespace Repetition

/-- The number of repetitions of a match in the middle of a long sentence, the place of the
match itself in its window included. -/
def total (repetition : Repetition) : Nat :=
  match repetition.expansion with
  | some .gram => repetition.gramSize
  | some .window => 2 * repetition.windowRadius + 1
  | none => 1

/-- How often a match is repeated. -/
def count (repetition : Repetition) : Nat := wrapped repetition.total

/-- The gram of the tokens from one position to before another. -/
def between? (visible : VisibleSentence) (start stop : Nat) : Option Span :=
  -- What stops where the sentence begins has no last token.
  if stop = 0 || visible.size < stop then none
  else do
    let tokens ← (List.range' start (stop - start)).mapM visible.at?
    some ⟨tokens, start, stop⟩

/-- The gram of so many tokens that starts `back` tokens before the match. -/
def gram? (visible : VisibleSentence) (size position back : Nat) : Option Span :=
  if position < back then none
  else between? visible (position - back) (wrapped (position - back + size))

/-- The match beside the token that is `radius` tokens before a place. -/
def beside? (visible : VisibleSentence) (radius position place : Nat) : Option Span :=
  if place < radius || visible.size ≤ place - radius then none
  else do
    let first ← visible.at? (min (place - radius) position)
    let second ← visible.at? (max (place - radius) position)
    some ⟨[first, second], position, position + 1⟩

/-- The match beside the token at the place `place` of the window, which begins `radius`
tokens before the match.  A token does not stand beside itself. -/
def collocate? (visible : VisibleSentence) (radius position place : Nat) : Option Span :=
  if place = radius then none
  else beside? visible radius position (wrapped (position + place))

/-- One repetition of a match, if it lies within the sentence.  The root stands before the
sentence and is not repeated. -/
def span? (repetition : Repetition) (visible : VisibleSentence) (anchor : TokenRef)
    (round : Nat) : Option Span :=
  if anchor.isRoot then
    match repetition.expansion with
    | none => some ⟨[anchor], 0, 0⟩
    | some _ => none
  else do
    let position ← visible.position? anchor.index
    match repetition.expansion with
    | none => some ⟨[anchor], position, position + 1⟩
    | some .gram => gram? visible repetition.gramSize position round
    | some .window => collocate? visible repetition.windowRadius position round

/-- All repetitions of a match. -/
def spans (repetition : Repetition) (visible : VisibleSentence) (anchor : TokenRef) :
    List Span :=
  (List.range repetition.count).filterMap (repetition.span? visible anchor)

end Repetition

end Concordancer
