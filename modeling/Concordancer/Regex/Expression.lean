/-!
# Regular expressions

An expression describes steps through a text: one character of a set, a condition on the
characters to the left and right of a place, and the sequences, choices and repetitions of
these.  A text matches when the expression leads from some place in it to some place, so a
match may begin and end anywhere.

## Strategy

A text of `n` characters has `n + 1` places.  `Expression.advance` moves a whole set of
places at once, given as one mark for each place, and follows the shape of the expression.
Since a step never moves to the left, a repetition has shown all its places after `n + 1`
rounds: of more rounds, at least one stands still and can be left out or be repeated.  So
counted repetitions cost no more than free ones.
-/

namespace Concordancer.Regex

/-- A set of characters. -/
abbrev CharSet := Char → Bool

/-- A condition on a place: its left and right neighbours, of which either is missing at an
end of the text. -/
abbrev Condition := Option Char → Option Char → Bool

inductive Expression
  /-- Stays where it is. -/
  | empty
  /-- Passes one character of the set. -/
  | oneOf (set : CharSet)
  /-- Stays where it is, at places that meet the condition. -/
  | place (condition : Condition)
  | sequence (first second : Expression)
  | choice (first second : Expression)
  /-- At least `least` rounds of `body`, and at most `most` when there is such a limit. -/
  | repeated (body : Expression) (least : Nat) (most : Option Nat)

/-- One mark for every place of a text. -/
abbrev Marks := List Bool

/-- The neighbours of every place of a text whose first place comes after `left`. -/
def neighbours (left : Option Char) : List Char → List (Option Char × Option Char)
  | [] => [(left, none)]
  | c :: rest => (left, some c) :: neighbours (some c) rest

private def iterate (step : Marks → Marks) : Nat → Marks → Marks
  | 0, marks => marks
  | rounds + 1, marks => iterate step rounds (step marks)

/-- All marks of at most so many rounds. -/
private def accumulate (step : Marks → Marks) : Nat → Marks → Marks
  | 0, marks => marks
  | rounds + 1, marks => marks.zipWith (· || ·) (accumulate step rounds (step marks))

namespace Expression

/-- The places that the expression leads to from the marked ones. -/
def advance (text : List Char) : Expression → Marks → Marks
  | empty, marks => marks
  | oneOf set, marks => false :: marks.zipWith (fun mark c => mark && set c) text
  | place condition, marks =>
    marks.zipWith (fun mark (left, right) => mark && condition left right)
      (neighbours none text)
  | sequence first second, marks => second.advance text (first.advance text marks)
  | choice first second, marks =>
    (first.advance text marks).zipWith (· || ·) (second.advance text marks)
  | repeated body least most, marks =>
    let step := body.advance text
    let enough := text.length + 1
    let further := match most with
      | none => enough
      | some most => min (most - least) enough
    accumulate step further (iterate step (min least enough) marks)

/-- Does the expression match somewhere in the text? -/
def matchesIn (expression : Expression) (text : String) : Bool :=
  let characters := text.toList
  (expression.advance characters (List.replicate (characters.length + 1) true)).any id

end Expression

/-- A language of patterns: the expression that each of its patterns stands for, with the case of
letters ignored or not. -/
abbrev Dialect := (pattern : String) → (ignoreCase : Bool) → Option Expression

end Concordancer.Regex
