import Concordancer.Regex.Escape

/-!
# Classes in brackets

A class in brackets is a union of characters, ranges, escapes, named classes and further
classes, perhaps negated, and perhaps combined by intersection, difference and symmetric
difference.  All three operations have one precedence and group to the left.

Case is ignored at every level: named classes, both sides of an operation and finished
classes are each closed under change of case, always before they are negated.
-/

namespace Concordancer.Regex

inductive SetOperation
  | intersection | difference | symmetricDifference

/-- The left side of a set operation, waiting for its right side. -/
abbrev Pending := Option (CharSet × SetOperation)

/-- A class so far: its items since the last operation, and what that operation waits for.
Both sides of an operation are closed under change of case before it is applied. -/
private def settle (flags : Flags) (pending : Pending) (items : CharSet) : CharSet :=
  match pending with
  | none => items
  | some (left, operation) =>
    let left := left.foldCaseIf flags.ignoreCase
    let right := items.foldCaseIf flags.ignoreCase
    match operation with
    | .intersection => fun c => left c && right c
    | .difference => fun c => left c && !right c
    | .symmetricDifference => fun c => left c != right c

/-- A finished class. -/
private def finish (flags : Flags) (negated : Bool) (pending : Pending) (items : CharSet) :
    CharSet :=
  ((settle flags pending items).foldCaseIf flags.ignoreCase).negateIf negated

/-- Hyphens at the start of a class stand for themselves. -/
private def leadingHyphens (flags : Flags) : (fuel : Nat) → (items : CharSet) → List Char →
    CharSet × List Char
  | fuel + 1, items, '-' :: rest =>
    leadingHyphens flags fuel (items.union (.single '-')) (flags.skip rest)
  | _, items, text => (items, text)

/-- Reads the start of a class, after its bracket: whether it is negated, and its first
items.  A closing bracket stands for itself when it is the first item.  A negated class of
ASCII would match in the middle of a character. -/
private def readClassStart (flags : Flags) (text : List Char) :
    Option (Bool × CharSet × List Char) :=
  let (negated, text) := match flags.skip text with
    | '^' :: rest => (true, flags.skip rest)
    | text => (false, text)
  if negated && !flags.unicode then none
  else match text with
    | ']' :: rest => some (negated, .single ']', flags.skip rest)
    | _ =>
      let (items, rest) := leadingHyphens flags text.length .none text
      some (negated, items, rest)

/-- Reads a class by its name, after `[`.  A bracket that opens no such name opens a class
of its own. -/
private def readBracketName (text : List Char) : Option (Bool × CharSet × List Char) :=
  match text with
  | ':' :: rest =>
    let (negated, rest) := match rest with
      | '^' :: rest => (true, rest)
      | rest => (false, rest)
    match rest.dropWhile (· != ':') with
    | ':' :: ']' :: after =>
      (bracketClass? (String.ofList (rest.takeWhile (· != ':')))).map
        fun set => (negated, set, after)
    | _ => none
  | _ => none

/-- Reads one item of a class: an escape or a character that stands for itself. -/
private def readItem (flags : Flags) : List Char → Option (Atom × List Char)
  | [] => none
  | '\\' :: rest => readEscape flags rest
  | c :: rest => some (.character c, rest)

/-- Reads an item and, if a hyphen joins it to another one, the range of the two.  A hyphen
before a closing bracket or before another hyphen joins nothing. -/
private def readRange (flags : Flags) (text : List Char) : Option (CharSet × List Char) := do
  let (first, rest) ← readItem flags text
  let rest := flags.skip rest
  let single : Option (CharSet × List Char) := match first with
    | .character c => some (.single c, rest)
    | .oneOf set => some (set, rest)
    | .place _ => none
  match rest with
  | [] => none
  | '-' :: after =>
    match flags.skip after with
    | ']' :: _ | '-' :: _ => single
    | [] => none
    | after =>
      match first, ← readItem flags after with
      | .character first, (.character last, rest) =>
        if first ≤ last then some (.range first last, rest) else none
      | _, _ => none
  | _ => single

/-- Reads the items of a class up to its closing bracket. -/
private def readClassItems (flags : Flags) : (fuel : Nat) → (negated : Bool) → Pending →
    (items : CharSet) → List Char → Option (CharSet × List Char)
  | 0, _, _, _, _ => none
  | fuel + 1, negated, pending, items, text =>
    let operate (operation : SetOperation) (rest : List Char) :=
      readClassItems flags fuel negated (some (settle flags pending items, operation)) .none
        rest
    match flags.skip text with
    | [] => none
    | ']' :: rest => some (finish flags negated pending items, rest)
    | '&' :: '&' :: rest => operate .intersection rest
    | '-' :: '-' :: rest => operate .difference rest
    | '~' :: '~' :: rest => operate .symmetricDifference rest
    | '[' :: rest =>
      match readBracketName rest with
      | some (inverted, set, rest) =>
        let set := (set.foldCaseIf flags.ignoreCase).negateIf inverted
        readClassItems flags fuel negated pending (items.union set) rest
      | none => do
        let (innerNegated, innerItems, rest) ← readClassStart flags rest
        let (set, rest) ← readClassItems flags fuel innerNegated none innerItems rest
        readClassItems flags fuel negated pending (items.union set) rest
    | text => do
      let (set, rest) ← readRange flags text
      readClassItems flags fuel negated pending (items.union set) rest

/-- Reads a class, after its opening bracket. -/
def readClass (flags : Flags) (text : List Char) : Option (CharSet × List Char) := do
  let (negated, items, rest) ← readClassStart flags text
  readClassItems flags (rest.length + 1) negated none items rest

end Concordancer.Regex
