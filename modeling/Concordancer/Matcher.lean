import Concordancer.Query.Error
import Concordancer.Query.Pattern
import Concordancer.Regex.Pattern
import Concordancer.Text.Lowercase

/-!
# Matchers

A matcher is the compiled form of a pattern: it accepts or rejects the value of a
feature.
-/

namespace Concordancer

inductive Matcher
  /-- The wildcard, which accepts every value. -/
  | any
  /-- Accepts values in which the expression matches somewhere; the pattern is kept to tell
  matchers apart. -/
  | regex (pattern : String) (expression : Regex.Expression)
  /-- Accepts the values of a set, after lower-casing them unless case counts. -/
  | literals (values : List String) (caseSensitive : Bool)

namespace Matcher

def accepts (matcher : Matcher) (value : String) : Bool :=
  match matcher with
  | any => true
  | regex _ expression => expression.matchesIn value
  | literals values true => values.contains value
  | literals values false => values.contains (Text.lowercase value)

def isWildcard : Matcher → Bool
  | any => true
  | _ => false

/-- Matchers are equal when they are written alike: expressions by their patterns, and
literals as sets. -/
def beq : Matcher → Matcher → Bool
  | any, any => true
  | regex first _, regex second _ => first == second
  | literals first firstCase, literals second secondCase =>
    first.all second.contains && second.all first.contains && firstCase == secondCase
  | _, _ => false

instance : BEq Matcher := ⟨beq⟩

/-- The values of a list of literals, without repetitions. -/
def literalValues (caseSensitive : Bool) (items : List Literal) : List String :=
  (items.map fun item =>
    if caseSensitive then item.written else Text.lowercase item.written).eraseDups

/-- Compiles the pattern of a descriptor.  A single integer is compared exactly, whatever
is said about case. -/
def ofPattern (descriptor : String) (pattern : Pattern) (caseSensitive : Bool)
    (dialect : Regex.Dialect := Regex.compile?) : Except QueryError Matcher :=
  match pattern with
  | .integer value => .ok (literals [(Literal.integer value).written] true)
  | .text value =>
    if value = wildcard then .ok any
    else match dialect value !caseSensitive with
      | some expression => .ok (regex value expression)
      | none => .error (.invalidPattern descriptor)
  | .list items => .ok (literals (literalValues caseSensitive items) caseSensitive)
  | .nested _ => .error (.invalidDescriptor descriptor .nestedPattern)

end Matcher

/-! ## Display -/

namespace Matcher

/-- The values of literals in the order of their code points. -/
def sortedValues (values : List String) : List String :=
  values.mergeSort fun first second => first ≤ second

/-- A matcher as diagnostics show it. -/
def display : Matcher → String
  | any => "Any"
  | regex pattern _ => "Regex(" ++ Text.quoted pattern ++ ")"
  | literals values caseSensitive =>
    "Literals([" ++ ", ".intercalate ((sortedValues values).map Text.quoted) ++ "], "
      ++ toString caseSensitive ++ ")"

end Matcher

end Concordancer
