import Concordancer.Json.Reader
import Concordancer.Query.Basic

/-!
# The JSON form of queries

A query is written as a record of its four parts, of which each may be missing.  Patterns
and the concordance mode are read to their end before their shape is judged, since their
shape is one of several; everything else is refused at the first character that does not
fit.
-/

namespace Concordancer

open Reader

/-- Arrays and objects may be nested this deep in a query. -/
def depthLimit : Nat := 127

namespace Pattern

/-- Takes a pattern in which at most so many arrays and objects are nested. -/
def reader (depth : Nat) : Reader Pattern := do
  match ofJson? (← value .strict depth) with
  | some pattern => return pattern
  | none => fail .mismatched

/-- The pattern that a JSON text stands for. -/
def ofText (text : String) : Except ReadFault Pattern :=
  whole (reader depthLimit) text

end Pattern

/-- Takes a search mapping, whose patterns may be nested so deep. -/
def mappingReader (depth : Nat) : Reader SearchMapping := do
  let step (mapping : SearchMapping) (descriptor : String) := do
    expect ':'
    return mapping.insert descriptor (← Pattern.reader depth)
  match ← peek with
  | some '\x7b' => do skipOne; foldMembers .strict step (← rounds) true []
  | _ => mismatch

def boolReader : Reader Bool := do
  match ← peek with
  | some 't' => do keyword ['t', 'r', 'u', 'e']; return true
  | some 'f' => do keyword ['f', 'a', 'l', 's', 'e']; return false
  | _ => mismatch

def textReader : Reader String := do
  match ← peek with
  | some '"' => do skipOne; stringTail .strict .plain []
  | _ => mismatch

/-- Takes a number without fraction, exponent and sign. -/
def sizeReader : Reader Nat := do
  match ← peek with
  | some c =>
    if c = '-' || c.isDigit then
      match ← number .strict with
      | .integer size => if 0 ≤ size then return size.toNat else fail .mismatched
      | _ => fail .mismatched
    else mismatch
  | none => mismatch

def textsReader : Reader (List String) := do
  match ← peek with
  | some '[' => do
    skipOne
    return (← foldItems (fun texts => return (← textReader) :: texts) (← rounds) true
      []).reverse
  | _ => mismatch

def combination : String → Reader Combination
  | "all" => return .all
  | "any" => return .any
  | _ => fail .mismatched

/-- Takes the name of a combination, or an object that gives nothing to the name. -/
def combinationReader : Reader Combination := do
  match ← peek with
  | none => fail .truncated
  | some '"' => do combination (← textReader)
  | some '\x7b' => do
    skipOne
    let read ← combination (← textReader)
    expect ':'
    match ← peek with
    | some 'n' => do
      keyword ['n', 'u', 'l', 'l']
      expect '\x7d'
      return read
    | _ => mismatch
  | some _ => fail .malformed

namespace ConcordanceMode

/-- The mode that a JSON value stands for: a truth value, or the text `only`. -/
def ofJson : Json → Except ReadFault ConcordanceMode
  | .bool false => .ok off
  | .bool true => .ok on
  | .string mode =>
    if String.ofList (mode.toList.map Char.toLower) = "only" then .ok only
    else .error (.unknownConcordance mode)
  | _ => .error .mismatched

/-- Takes a mode, which is read as a value so deep at most. -/
def reader (depth : Nat) : Reader ConcordanceMode := do
  match ofJson (← value .strict depth) with
  | .ok mode => return mode
  | .error fault => fail fault

end ConcordanceMode

namespace Options

def fields (depth : Nat) : List (Member Options) := [
  ⟨"searchMode", fun options => return { options with searchMode := ← combinationReader }⟩,
  ⟨"excludeMode", fun options => return { options with excludeMode := ← combinationReader }⟩,
  ⟨"concordance", fun options =>
    return { options with concordance := ← ConcordanceMode.reader depth }⟩,
  ⟨"coreference", fun options => return { options with coreference := ← boolReader }⟩,
  ⟨"caseSensitive", fun options => return { options with caseSensitive := ← boolReader }⟩,
  ⟨"stripPunctuation", fun options =>
    return { options with stripPunctuation := ← boolReader }⟩,
  ⟨"stripClosedClass", fun options =>
    return { options with stripClosedClass := ← boolReader }⟩,
  ⟨"gramSize", fun options => return { options with gramSize := ← sizeReader }⟩,
  ⟨"windowRadius", fun options => return { options with windowRadius := ← sizeReader }⟩,
  ⟨"onlyFormatMatch", fun options =>
    return { options with onlyFormatMatch := ← boolReader }⟩,
  ⟨"maxDistance", fun options => return { options with maxDistance := ← sizeReader }⟩,
  ⟨"punctuationPattern", fun options =>
    return { options with punctuationPattern := ← textReader }⟩]

end Options

namespace Query

/-- The members of a query in the order in which an array gives them.  A part of the query
has one level of nesting less than the query itself. -/
def fields (depth : Nat) : List (Member Query) := [
  ⟨"search", fun query => return { query with search := ← mappingReader (depth - 1) }⟩,
  ⟨"exclude", fun query => return { query with exclude := ← mappingReader (depth - 1) }⟩,
  ⟨"show", fun query => return { query with shown := ← textsReader }⟩,
  ⟨"options", fun query =>
    return { query with options := ← record (Options.fields (depth - 1)) {} }⟩]

/-- The query that a JSON text stands for. -/
def ofText (text : String) : Except QueryError Query :=
  match whole (record (fields (depthLimit - 1)) empty) text with
  | .ok query => .ok query
  | .error fault => .error (.unreadable fault)

end Query

end Concordancer
