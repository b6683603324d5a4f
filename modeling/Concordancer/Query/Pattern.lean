import Concordancer.Json.Value

/-!
# Patterns and search mappings

A pattern says which values of a feature are accepted: one number, a regular expression,
or a list of literals.  Under a role, patterns may be nested: `{"g": {"w": "sat", "f":
"root"}}` asks for two features of the governor.  A search mapping gives patterns to
descriptors and keeps their order; a descriptor that is given again keeps its place and
takes the new pattern.
-/

namespace Concordancer

inductive Literal
  | integer (value : Int)
  | text (value : String)
deriving DecidableEq, Repr

namespace Literal

/-- The literal as values are compared with it. -/
def written : Literal → String
  | integer value => toString value
  | text value => value

end Literal

inductive Pattern
  | integer (value : Int)
  /-- A regular expression, or the wildcard. -/
  | text (value : String)
  | list (items : List Literal)
  | nested (members : List (String × Pattern))

/-- Patterns by descriptor, in the order in which the descriptors were first given. -/
abbrev SearchMapping := List (String × Pattern)

namespace SearchMapping

/-- Gives a pattern to a descriptor. -/
def insert (mapping : SearchMapping) (descriptor : String) (pattern : Pattern) :
    SearchMapping :=
  match mapping with
  | [] => [(descriptor, pattern)]
  | (other, earlier) :: rest =>
    if other = descriptor then (descriptor, pattern) :: rest
    else (other, earlier) :: insert rest descriptor pattern

/-- The mapping that gives these patterns, one after the other. -/
def ofPairs (pairs : List (String × Pattern)) : SearchMapping :=
  pairs.foldl (fun mapping (descriptor, pattern) => mapping.insert descriptor pattern) []

end SearchMapping

/-- The text that stands for the wildcard. -/
def wildcard : String := "any"

/-! ## Reading JSON values -/

/-- The integers that patterns can hold are those of 64 bits with a sign. -/
def inPatternRange (value : Int) : Bool :=
  -9223372036854775808 ≤ value && value ≤ 9223372036854775807

namespace Literal

def ofJson? : Json → Option Literal
  | .integer value => if inPatternRange value then some (integer value) else none
  | .string value => some (text value)
  | _ => none

end Literal

namespace Pattern

mutual

/-- The pattern that a JSON value stands for: an integer, a text, a list of these, or an
object of patterns. -/
def ofJson? : Json → Option Pattern
  | .integer value => if inPatternRange value then some (integer value) else none
  | .string value => some (text value)
  | .array items => (items.mapM Literal.ofJson?).map list
  | .object members => (ofMembers? members).map fun pairs => nested (SearchMapping.ofPairs pairs)
  | .null | .bool _ | .real => none

def ofMembers? : List (String × Json) → Option (List (String × Pattern))
  | [] => some []
  | (name, value) :: rest => do
    let pattern ← ofJson? value
    let further ← ofMembers? rest
    some ((name, pattern) :: further)

end

/-! ## Flattening -/

/-- The descriptor of a pattern nested under `outer`.  A nested word descriptor adds
nothing, since a role alone already asks for the word. -/
def nestedDescriptor (outer inner : String) : String :=
  if inner = "w" then outer else outer ++ inner

mutual

/-- The patterns of a pattern under a descriptor, with the nesting taken into the
descriptors. -/
def flatten (descriptor : String) : Pattern → List (String × Pattern)
  | nested members => flattenMembers descriptor members
  | integer value => [(descriptor, integer value)]
  | text value => [(descriptor, text value)]
  | list items => [(descriptor, list items)]

def flattenMembers (outer : String) : List (String × Pattern) → List (String × Pattern)
  | [] => []
  | (inner, pattern) :: rest =>
    flatten (nestedDescriptor outer inner) pattern ++ flattenMembers outer rest

end

end Pattern

/-- The patterns of a search mapping without nesting, each with its whole descriptor. -/
def SearchMapping.flatten (mapping : SearchMapping) : List (String × Pattern) :=
  mapping.flatMap fun (descriptor, pattern) => pattern.flatten descriptor

end Concordancer
