import Concordancer.Descriptor
import Concordancer.Matcher
import Concordancer.Query.Options
import Concordancer.Relation

/-!
# Criteria

A criterion is the compiled form of a descriptor and its pattern.  Descriptors are judged
before patterns, and of a descriptor the shape before the letters.
-/

namespace Concordancer

structure Criterion where
  /-- The descriptor as it was given, which messages show. -/
  descriptor : String
  role : Role
  feature : Feature
  /-- How far to the right of the token that the role starts from the tested token is. -/
  adjacency : Option Int
  /-- Does the criterion hold for all mentions of what it is tested on? -/
  expandsCoreference : Bool
  matcher : Matcher

namespace Criterion

/-- What the letters of a search descriptor mean: a role, a feature, or both.  Without
letters for them, the word of the match itself is meant. -/
def readLetters : List Char → Except DescriptorFault (Role × Feature)
  | [] => .ok (.self, .word)
  | [letter] =>
    match Role.ofLetter? letter, Feature.ofLetter? letter with
    | some role, _ => .ok (role, .word)
    | none, some feature => .ok (.self, feature)
    | none, none => .error (.unknownRoleOrFeature letter)
  | [first, second] =>
    match Role.ofLetter? first, Feature.ofLetter? second with
    | none, _ => .error (.unknownRole first)
    | some _, none => .error (.unknownFeature second)
    | some role, some feature => .ok (role, feature)
  | _ => .error .tooManyLetters

/-- The parts of a search descriptor and what its letters mean. -/
def readDescriptor (descriptor : String) :
    Except DescriptorFault (Descriptor × Role × Feature) := do
  let parts ← Descriptor.ofSearchText descriptor
  return (parts, ← readLetters parts.letters)

def compile (options : Options) (descriptor : String) (pattern : Pattern)
    (dialect : Regex.Dialect := Regex.compile?) : Except QueryError Criterion := do
  let (parts, role, feature) ←
    (readDescriptor descriptor).mapError (QueryError.invalidDescriptor descriptor)
  let matcher ← Matcher.ofPattern descriptor pattern options.caseSensitive dialect
  return {
    descriptor, role, feature, adjacency := parts.adjacency
    expandsCoreference := options.coreference, matcher }

/-- The criteria of a search mapping, one for each of its patterns. -/
def compileAll (options : Options) (mapping : SearchMapping)
    (dialect : Regex.Dialect := Regex.compile?) : Except QueryError (List Criterion) :=
  mapping.flatten.mapM fun (descriptor, pattern) => compile options descriptor pattern dialect

end Criterion

end Concordancer
