import Concordancer.Regex.CharacterClass

/-!
# Flags and escapes of patterns

What single characters and escapes of a pattern stand for: a character, a set of characters,
or a condition on a place.  That depends on the flags in force, which also decide whether
white space and comments in a pattern mean anything.

Readers take the text of a pattern as a list of characters and answer with what is left of
it, or with nothing where the pattern is not well formed.  Loops that may pass over white
space recurse on the number of characters left.
-/

namespace Concordancer.Regex

/-! ## Flags -/

structure Flags where
  ignoreCase : Bool
  /-- `^` and `$` also match at the ends of lines. -/
  multiLine : Bool
  /-- The dot also matches an end of line. -/
  dotAll : Bool
  /-- A carriage return, too, ends a line. -/
  carriageReturn : Bool
  /-- Classes hold characters of all scripts. -/
  unicode : Bool
  /-- White space and comments in the pattern mean nothing. -/
  spaced : Bool

namespace Flags

def initial (ignoreCase : Bool) : Flags := ⟨ignoreCase, false, false, false, true, false⟩

/-- Sets the flag with this letter.  Greediness decides which match is found and not
whether there is one, so its flag has nothing to set. -/
def set? (flags : Flags) (letter : Char) (value : Bool) : Option Flags :=
  match letter with
  | 'i' => some { flags with ignoreCase := value }
  | 'm' => some { flags with multiLine := value }
  | 's' => some { flags with dotAll := value }
  | 'R' => some { flags with carriageReturn := value }
  | 'u' => some { flags with unicode := value }
  | 'x' => some { flags with spaced := value }
  | 'U' => some flags
  | _ => none

/-- Reads flags up to `:` or `)`, which is the first character of the answer's rest.  Each
letter and the sign `-` may occur once, and the sign needs a letter after it. -/
def read (seen : List Char) (value : Bool) (flags : Flags) :
    List Char → Option (Flags × List Char)
  | [] => none
  | c :: rest =>
    if c == ':' || c == ')' then
      if seen.head? == some '-' then none else some (flags, c :: rest)
    else if seen.contains c then none
    else if c == '-' then read (c :: seen) false flags rest
    else do read (c :: seen) value (← flags.set? c value) rest

end Flags

/-! ## White space -/

private def dropMeaningless : (inComment : Bool) → List Char → List Char
  | _, [] => []
  | true, c :: rest => dropMeaningless (c != '\n') rest
  | false, c :: rest =>
    if Unicode.isSpace c then dropMeaningless false rest
    else if c == '#' then dropMeaningless true rest
    else c :: rest

/-- What is left after white space and comments, where these mean nothing. -/
def Flags.skip (flags : Flags) (text : List Char) : List Char :=
  if flags.spaced then dropMeaningless false text else text

/-! ## Escapes -/

/-- What one escape or character stands for. -/
inductive Atom
  | character (c : Char)
  | oneOf (set : CharSet)
  | place (condition : Condition)

private def hexValue? (c : Char) : Option Nat :=
  if c.isDigit then some (c.toNat - 48)
  else if CharSet.range 'a' 'f' c then some (c.toNat - 87)
  else if CharSet.range 'A' 'F' c then some (c.toNat - 55)
  else none

/-- The character of a code point; surrogates are none. -/
private def scalar? (n : Nat) : Option Char :=
  if n.isValidChar then some (Char.ofNat n) else none

/-- Reads exactly so many hexadecimal digits. -/
private def fixedHex (flags : Flags) (value : Nat) : Nat → List Char → Option (Nat × List Char)
  | 0, text => some (value, text)
  | _ + 1, [] => none
  | digits + 1, c :: rest => do
    fixedHex flags (16 * value + (← hexValue? c)) digits (flags.skip rest)

/-- Reads hexadecimal digits up to the closing brace; there must be one. -/
private def bracedHex (flags : Flags) : (fuel value count : Nat) → List Char →
    Option (Nat × List Char)
  | 0, _, _, _ => none
  | _ + 1, _, _, [] => none
  | fuel + 1, value, count, c :: rest =>
    if c == '\x7d' then if count = 0 then none else some (value, flags.skip rest)
    else do bracedHex flags fuel (16 * value + (← hexValue? c)) (count + 1) (flags.skip rest)

/-- Reads a character by its code point, after `\x`, `\u` or `\U`. -/
private def readHex (flags : Flags) (digits : Nat) (text : List Char) :
    Option (Atom × List Char) := do
  let (n, rest) ← match flags.skip text with
    | '\x7b' :: rest => bracedHex flags (rest.length + 1) 0 0 (flags.skip rest)
    | text => fixedHex flags 0 digits text
  some (.character (← scalar? n), rest)

/-- Characters up to the closing brace. -/
private def readName (flags : Flags) : (fuel : Nat) → (name : List Char) → List Char →
    Option (List Char × List Char)
  | 0, _, _ => none
  | _ + 1, _, [] => none
  | fuel + 1, name, c :: rest =>
    if c == '\x7d' then some (name.reverse, rest)
    else readName flags fuel (c :: name) (flags.skip rest)

/-- Reads a property, after `\p` or `\P`. -/
private def readProperty (flags : Flags) (negated : Bool) (text : List Char) :
    Option (Atom × List Char) := do
  if !flags.unicode then none
  let (name, rest) ← match flags.skip text with
    | [] => none
    | '\\' :: _ => none
    | '\x7b' :: rest => readName flags (rest.length + 1) [] (flags.skip rest)
    | c :: rest => some ([c], flags.skip rest)
  let set ← propertyClass? name
  some (.oneOf ((set.foldCaseIf flags.ignoreCase).negateIf negated), rest)

/-- Is there a character of a word at this side of a place? -/
private def isWordAt (flags : Flags) (neighbour : Option Char) : Bool :=
  (neighbour.map fun c => (flags.unicode || c.toNat < 128) && Unicode.isWordCharacter c).getD
    false

def wordStart (flags : Flags) : Condition := fun left right =>
  !isWordAt flags left && isWordAt flags right

def wordEnd (flags : Flags) : Condition := fun left right =>
  isWordAt flags left && !isWordAt flags right

def wordBoundary (flags : Flags) : Condition := fun left right =>
  isWordAt flags left != isWordAt flags right

/-- Letters and hyphens, with white space between them where it means nothing. -/
private def readBoundaryName (flags : Flags) : (fuel : Nat) → (name : List Char) → List Char →
    List Char × List Char
  | 0, name, text => (name.reverse, text)
  | _ + 1, name, [] => (name.reverse, [])
  | fuel + 1, name, c :: rest =>
    if c.isAlpha || c == '-' then readBoundaryName flags fuel (c :: name) (flags.skip rest)
    else (name.reverse, c :: rest)

/-- Reads what may follow `\b`: a name in braces picks a side of the word.  Braces around
anything else are left for a repetition. -/
private def readBoundary (flags : Flags) (text : List Char) : Option (Atom × List Char) :=
  match text with
  | '\x7b' :: rest =>
    match flags.skip rest with
    | [] => none
    | c :: more =>
      if c.isAlpha || c == '-' then
        match readBoundaryName flags (more.length + 1) [] (c :: more) with
        | (name, '\x7d' :: rest) =>
          match String.ofList name with
          | "start" => some (.place (wordStart flags), rest)
          | "end" => some (.place (wordEnd flags), rest)
          | "start-half" => some (.place fun left _ => !isWordAt flags left, rest)
          | "end-half" => some (.place fun _ right => !isWordAt flags right, rest)
          | _ => none
        | _ => none
      else some (.place (wordBoundary flags), text)
  | _ => some (.place (wordBoundary flags), text)

/-- Reads an escape, after its backslash. -/
def readEscape (flags : Flags) : List Char → Option (Atom × List Char)
  | [] => none
  | c :: rest =>
    match c with
    | 'x' => readHex flags 2 rest
    | 'u' => readHex flags 4 rest
    | 'U' => readHex flags 8 rest
    | 'p' => readProperty flags false rest
    | 'P' => readProperty flags true rest
    | 'd' | 's' | 'w' => (letterClass? flags.unicode c).map fun set => (.oneOf set, rest)
    | 'D' | 'S' | 'W' =>
      -- A negated class of ASCII would match in the middle of a character.
      if flags.unicode then
        (letterClass? true c.toLower).map fun set => (.oneOf set.complement, rest)
      else none
    | 'a' => some (.character '\x07', rest)
    | 'f' => some (.character '\x0c', rest)
    | 't' => some (.character '\t', rest)
    | 'n' => some (.character '\n', rest)
    | 'r' => some (.character '\r', rest)
    | 'v' => some (.character '\x0b', rest)
    | 'A' => some (.place fun left _ => left.isNone, rest)
    | 'z' => some (.place fun _ right => right.isNone, rest)
    | 'b' => readBoundary flags rest
    | 'B' => some (.place fun left right => !wordBoundary flags left right, rest)
    | '<' => some (.place (wordStart flags), rest)
    | '>' => some (.place (wordEnd flags), rest)
    | _ => if c.isAlphanum || c.toNat ≥ 128 then none else some (.character c, rest)

end Concordancer.Regex
