import Concordancer.Sentence
import Concordancer.Trace

/-!
# Distance to the root

The distance of a token is the number of steps from governor to governor that lead to the
root.  A chain of governors that leaves the sentence has no distance, nor has one that takes
too many steps, as every chain does that runs in a circle.
-/

namespace Concordancer

namespace Sentence

/-- How a walk along governors ends. -/
inductive Walk
  /-- The root was reached with so many steps left. -/
  | reached (left : Nat)
  /-- A governor is no token of the sentence. -/
  | lost
  /-- The root was not reached in time. -/
  | exhausted
deriving DecidableEq, Repr

/-- Follows governors from a number for at most so many steps. -/
def walk (sentence : Sentence) : (steps : Nat) → (index : Nat) → Walk
  | steps, 0 => .reached steps
  | 0, _ + 1 => .exhausted
  | steps + 1, index + 1 =>
    match sentence.governor? (index + 1) with
    | none => .lost
    | some governor => sentence.walk steps governor

/-- The distance of a token, which is less than the limit.  A chain that takes too many steps
is reported. -/
def distance (sentence : Sentence) (limit index : Nat) : Told (Option Nat) :=
  match sentence.walk limit index with
  | .reached left => pure (if left = 0 then none else some (limit - left))
  | .lost => pure none
  | .exhausted => do
    Told.tell .warn <|
      "sentence " ++ toString sentence.id ++ ": governor chain from token " ++ toString index
        ++ " exceeds " ++ toString limit ++ " hops"
    pure none

end Sentence

end Concordancer
