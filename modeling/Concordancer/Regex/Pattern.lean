import Concordancer.Regex.Bracket

/-!
# Reading patterns

The written form of regular expressions: literals, classes, groups, repetitions, flags, and
escapes.  `compile?` reads a pattern as a whole and answers nothing for a pattern that is
not well formed.  Look-around and references to groups are not part of the language, since
neither fits a match that advances by one character at a time.

## Strategy

Flags hold from where they are set to the end of the group, so they are applied while the
pattern is read: an expression carries no flags.  Reading is a recursion on the number of
characters left, which bounds both the nesting of groups and the number of items.
-/

namespace Concordancer.Regex

/-! ## Repetitions -/

/-- White space is allowed around the numbers of a repetition under all flags. -/
private def skipBlank (text : List Char) : List Char := text.dropWhile Unicode.isSpace

/-- Digits, with white space between them where it means nothing. -/
private def readDigits (flags : Flags) : (fuel : Nat) → (digits : List Char) → List Char →
    List Char × List Char
  | fuel + 1, digits, c :: rest =>
    if c.isDigit then readDigits flags fuel (c :: digits) (flags.skip rest)
    else (digits.reverse, c :: rest)
  | _, digits, text => (digits.reverse, text)

/-- The largest number that a repetition may name. -/
private def largestCount : Nat := 4294967295

private def readCount (flags : Flags) (text : List Char) : Option (Nat × List Char) :=
  match readDigits flags (text.length + 1) [] (skipBlank text) with
  | ([], _) => none
  | (digits, rest) =>
    let count := digits.foldl (fun n c => 10 * n + (c.toNat - 48)) 0
    if count ≤ largestCount then some (count, flags.skip (skipBlank rest)) else none

/-- A question mark after a repetition makes it lazy, which does not change what matches. -/
private def skipLazy : List Char → List Char
  | '?' :: rest => rest
  | text => text

/-- Reads the bounds of a repetition, after its opening brace. -/
private def readBounds (flags : Flags) (text : List Char) :
    Option ((Nat × Option Nat) × List Char) := do
  let (least, rest) ← readCount flags (flags.skip text)
  let (most, rest) ← match rest with
    | ',' :: rest =>
      match flags.skip rest with
      | '\x7d' :: rest => some (none, '\x7d' :: rest)
      | rest => (readCount flags rest).map fun (most, rest) => (some most, rest)
    | rest => some (some least, rest)
  match rest with
  | '\x7d' :: rest =>
    if most.all (least ≤ ·) then
      some ((least, most), skipLazy (flags.skip rest))
    else none
  | _ => none

/-! ## Groups -/

/-- How a parenthesis goes on: with flags for the rest of the group around it, or with a
group of its own, which may have a name. -/
inductive Opening
  | setFlags (flags : Flags)
  | group (flags : Flags) (name : Option (List Char))

/-- Reads the name of a group up to its closing angle. -/
private def readGroupName (text : List Char) : Option (List Char × List Char) :=
  let name := text.takeWhile (· != '>')
  match text.dropWhile (· != '>') with
  | '>' :: rest =>
    let isStart (c : Char) := c == '_' || Unicode.isAlphabetic c
    let isFurther (c : Char) :=
      c == '.' || c == '[' || c == ']' || isStart c || Unicode.isNumeric c
    if (name.head?.map isStart).getD false && name.all isFurther then some (name, rest)
    else none
  | _ => none

/-- Reads what stands between an opening parenthesis and the body of its group. -/
private def readOpening (flags : Flags) (text : List Char) : Option (Opening × List Char) :=
  let named (text : List Char) :=
    (readGroupName text).map fun (name, rest) => (Opening.group flags (some name), rest)
  match flags.skip text with
  | '?' :: '=' :: _ | '?' :: '!' :: _ | '?' :: '<' :: '=' :: _ | '?' :: '<' :: '!' :: _ => none
  | '?' :: 'P' :: '<' :: rest => named rest
  | '?' :: '<' :: rest => named rest
  | '?' :: ')' :: _ => none
  | '?' :: rest => do
    match ← Flags.read [] true flags rest with
    | (flags, ':' :: rest) => some (.group flags none, rest)
    | (flags, _ :: rest) => some (.setFlags flags, rest)
    | (_, []) => none
  | text => some (.group flags none, text)

/-! ## Expressions -/

/-- The dot.  In ASCII it would match in the middle of a character. -/
private def dot? (flags : Flags) : Option Expression :=
  if !flags.unicode then none
  else some <| .oneOf fun c =>
    flags.dotAll || !(c == '\n' || flags.carriageReturn && c == '\r')

private def lineStart (flags : Flags) : Condition := fun left right =>
  match left with
  | none => true
  | some c =>
    flags.multiLine && (c == '\n' || flags.carriageReturn && c == '\r' && right != some '\n')

private def lineEnd (flags : Flags) : Condition := fun left right =>
  match right with
  | none => true
  | some c =>
    flags.multiLine && (if flags.carriageReturn then c == '\r' || c == '\n' && left != some '\r'
      else c == '\n')

private def Atom.expression (flags : Flags) : Atom → Expression
  | .character c => .oneOf (CharSet.foldCaseIf flags.ignoreCase (.single c))
  | .oneOf set => .oneOf set
  | .place condition => .place condition

/-- The part of a group that has been read. -/
structure Draft where
  /-- The branches before the last bar. -/
  branches : Option Expression
  /-- The items of the current branch, but for the last one. -/
  before : Expression
  /-- The last item, if it can be repeated. -/
  last : Option Expression

namespace Draft

def start : Draft := ⟨none, .empty, none⟩

private def branch (group : Draft) : Expression :=
  match group.last with
  | none => group.before
  | some last => .sequence group.before last

private def add (group : Draft) (item : Expression) : Draft :=
  { group with before := group.branch, last := some item }

/-- Ends an item that cannot be repeated. -/
private def close (group : Draft) : Draft :=
  { group with before := group.branch, last := none }

private def whole (group : Draft) : Expression :=
  match group.branches with
  | none => group.branch
  | some branches => .choice branches group.branch

private def bar (group : Draft) : Draft :=
  ⟨some group.whole, .empty, none⟩

private def repeatLast? (group : Draft) (least : Nat) (most : Option Nat) : Option Draft :=
  group.last.map fun last => { group with last := some (.repeated last least most) }

end Draft

/-- Reads a group up to its closing parenthesis, or the whole pattern up to its end.  The
names of groups already read are passed on, since no two groups may share one. -/
private def readGroup : (fuel : Nat) → (nested : Bool) → Flags → (names : List (List Char)) →
    Draft → List Char → Option (Expression × List (List Char) × List Char)
  | 0, _, _, _, _, _ => none
  | fuel + 1, nested, flags, names, group, text =>
    let resume (group : Option Draft) (rest : List Char) := do
      readGroup fuel nested flags names (← group) rest
    match flags.skip text with
    | [] => if nested then none else some (group.whole, names, [])
    | ')' :: rest => if nested then some (group.whole, names, rest) else none
    | '|' :: rest => resume group.bar rest
    | '*' :: rest => resume (group.repeatLast? 0 none) (skipLazy rest)
    | '+' :: rest => resume (group.repeatLast? 1 none) (skipLazy rest)
    | '?' :: rest => resume (group.repeatLast? 0 (some 1)) (skipLazy rest)
    | '\x7b' :: rest => do
      let ((least, most), rest) ← readBounds flags rest
      resume (group.repeatLast? least most) rest
    | '(' :: rest => do
      match ← readOpening flags rest with
      | (.setFlags flags, rest) => readGroup fuel nested flags names group.close rest
      | (.group inner name, rest) =>
        let names ← match name with
          | none => some names
          | some name => if names.contains name then none else some (name :: names)
        let (body, names, rest) ← readGroup fuel true inner names .start rest
        readGroup fuel nested flags names (group.add body) rest
    | '[' :: rest => do
      let (set, rest) ← readClass flags rest
      resume (group.add (.oneOf set)) rest
    | '.' :: rest => do resume (group.add (← dot? flags)) rest
    | '^' :: rest => resume (group.add (.place (lineStart flags))) rest
    | '$' :: rest => resume (group.add (.place (lineEnd flags))) rest
    | '\\' :: rest => do
      let (atom, rest) ← readEscape flags rest
      resume (group.add (atom.expression flags)) rest
    | c :: rest => resume (group.add (Atom.expression flags (.character c))) rest

/-- The expression that a pattern stands for, if the pattern is well formed. -/
def compile? (pattern : String) (ignoreCase : Bool) : Option Expression :=
  let text := pattern.toList
  (readGroup (text.length + 1) false (.initial ignoreCase) [] .start text).map Prod.fst

end Concordancer.Regex
