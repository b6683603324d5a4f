import Concordancer.Descriptor
import Concordancer.Relation

/-!
# Layouts

What is shown of a match: one column for every show descriptor, or only the number of
matches.
-/

namespace Concordancer

/-- One column: a shift, steps to related tokens, and the feature that is shown. -/
structure Column where
  expansion : Option Expansion
  adjacency : Option Int
  steps : List Step
  feature : Feature
deriving DecidableEq, Repr

namespace Column

/-- The matched word itself. -/
def word : Column := ⟨none, none, [], .word⟩

/-- The steps that letters stand for; `m` stays at the token. -/
def readSteps (letters : List Char) : Except DescriptorFault (List Step) :=
  (letters.filter (· ≠ 'm')).mapM fun letter =>
    match Step.ofLetter? letter with
    | some step => .ok step
    | none => .error (.unknownStep letter)

/-- What the letters of a show descriptor mean: steps, and a feature if the last letter
names one.  Without it, the word is shown. -/
def readLetters (letters : List Char) : Except DescriptorFault (List Step × Feature) :=
  match letters.getLast?.bind Feature.ofLetter? with
  | some feature => (readSteps letters.dropLast).map (·, feature)
  | none => (readSteps letters).map (·, .word)

def ofDescriptor (descriptor : Descriptor) : Except DescriptorFault Column := do
  let (steps, feature) ← readLetters descriptor.letters
  return ⟨descriptor.expansion, descriptor.adjacency, steps, feature⟩

end Column

structure Layout where
  /-- Is only the number of matches wanted? -/
  count : Bool
  columns : List Column
deriving DecidableEq, Repr

namespace Layout

/-- How matches are repeated: over a window if some column asks for it, or else as grams if
some column asks for these. -/
def expansion (layout : Layout) : Option Expansion :=
  let asksFor (expansion : Expansion) :=
    layout.columns.any fun column => column.expansion = some expansion
  if asksFor .window then some .window
  else if asksFor .gram then some .gram
  else none

/-- The layout with what one more show descriptor asks for. -/
def add (layout : Layout) : ShowDescriptor → Except DescriptorFault Layout
  | .count => .ok { layout with count := true }
  | .column descriptor => do
    return { layout with columns := layout.columns ++ [← Column.ofDescriptor descriptor] }

/-- The layout that show descriptors ask for.  Without any, the matched word is shown. -/
def compile (shown : List String) : Except QueryError Layout := do
  let addText (layout : Layout) (text : String) : Except QueryError Layout :=
    (ShowDescriptor.ofText text >>= layout.add).mapError (QueryError.invalidDescriptor text)
  let layout ← shown.foldlM addText ⟨false, []⟩
  return if layout.columns.isEmpty && !layout.count then ⟨false, [.word]⟩ else layout

end Layout

end Concordancer
