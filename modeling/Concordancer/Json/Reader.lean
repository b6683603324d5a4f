import Concordancer.Json.Value
import Concordancer.Query.Error

/-!
# Reading JSON texts

A reader takes what it reads from the front of a text and answers with the rest, or with the
first fault that it meets.  Texts are read from left to right, so of two faults the left one
counts, unless a value has to be read to its end before its shape can be judged.

## Strategy

Values are read with a bound on the nesting of arrays and objects, on which the reading of
nested values recurses; loops over items and members are bounded by the length of the text.

Some values only have to be skipped.  Skipping reads leniently: numbers of any size and
surrogates without a partner pass, because no value has to be made of them.
-/

namespace Concordancer

/-- Takes a value from the front of a text. -/
abbrev Reader (α : Type) := StateT (List Char) (Except ReadFault) α

namespace Reader

def fail {α : Type} (fault : ReadFault) : Reader α := fun _ => .error fault

def isBlank (c : Char) : Bool := c == ' ' || c == '\n' || c == '\t' || c == '\r'

def skipBlank : Reader Unit := fun text => .ok ((), text.dropWhile isBlank)

/-- The first character that is no white space, which stays in the text. -/
def peek : Reader (Option Char) := do
  skipBlank
  return (← get).head?

def skipOne : Reader Unit := fun text => .ok ((), text.tail)

/-- Takes this character; the end of the text and other characters are faults. -/
def expect (expected : Char) : Reader Unit := do
  match ← peek with
  | none => fail .truncated
  | some c => if c = expected then skipOne else fail .malformed

/-- Takes the rest of a keyword. -/
def keyword : List Char → Reader Unit
  | [] => return ()
  | expected :: further => do
    match (← get).head? with
    | none => fail .truncated
    | some c => if c = expected then do skipOne; keyword further else fail .malformed

/-! ## Strings -/

/-- Whether a value is read or only skipped. -/
inductive Care
  | strict | lenient
deriving DecidableEq

/-- Where the reading of a string stands. -/
inductive StringState
  | plain
  | escape
  /-- In the four digits of an escape, perhaps of the second one of a pair. -/
  | digits (seen : List Char) (leading : Option Nat)
  /-- After the first escape of a pair. -/
  | backslash (leading : Nat)
  /-- After the backslash of the second escape of a pair. -/
  | letter (leading : Nat)

private def simpleEscape? : Char → Option Char
  | '"' => some '"'
  | '\\' => some '\\'
  | '/' => some '/'
  | 'b' => some '\x08'
  | 'f' => some '\x0c'
  | 'n' => some '\n'
  | 'r' => some '\r'
  | 't' => some '\t'
  | _ => none

private def hexDigit? (c : Char) : Option Nat :=
  if c.isDigit then some (c.toNat - 48)
  else if 'a' ≤ c && c ≤ 'f' then some (c.toNat - 87)
  else if 'A' ≤ c && c ≤ 'F' then some (c.toNat - 55)
  else none

/-- The number of exactly four hexadecimal digits. -/
private def unit? (digits : List Char) : Option Nat :=
  if digits.length = 4 then
    digits.foldlM (fun n c => (hexDigit? c).map fun digit => 16 * n + digit) 0
  else none

private def isLeading (n : Nat) : Bool := 0xD800 ≤ n && n ≤ 0xDBFF
private def isTrailing (n : Nat) : Bool := 0xDC00 ≤ n && n ≤ 0xDFFF

/-- What an escape by number does, after a leading surrogate or without one: it is refused,
it yields a character, or it waits for its partner. -/
private def unitState (leading : Option Nat) (n : Nat) : Option (StringState × List Char) :=
  match leading with
  | none =>
    if isTrailing n then none
    else if isLeading n then some (.backslash n, [])
    else some (.plain, [Char.ofNat n])
  | some high =>
    if isTrailing n then
      some (.plain, [Char.ofNat (0x10000 + (high - 0xD800) * 0x400 + (n - 0xDC00))])
    else none

/-- Reads a string after its opening quote.  The digits of an escape are judged once four
bytes have been seen, so a text that ends before them is truncated and not malformed. -/
def stringTail (care : Care) : StringState → (built : List Char) → List Char →
    Except ReadFault (String × List Char)
  | _, _, [] => .error .truncated
  | .plain, built, c :: rest =>
    if c = '"' then .ok (String.ofList built.reverse, rest)
    else if c = '\\' then stringTail care .escape built rest
    else if c.toNat < 32 then .error .malformed
    else stringTail care .plain (c :: built) rest
  | .escape, built, c :: rest =>
    if c = 'u' then stringTail care (.digits [] none) built rest
    else match simpleEscape? c with
      | some plain => stringTail care .plain (plain :: built) rest
      | none => .error .malformed
  | .digits seen leading, built, c :: rest =>
    let seen := seen ++ [c]
    if (seen.map Char.utf8Size).sum < 4 then stringTail care (.digits seen leading) built rest
    else match unit? seen with
      | none => .error .malformed
      | some n =>
        if care = .lenient then stringTail care .plain built rest
        else match unitState leading n with
          | none => .error .malformed
          | some (state, made) => stringTail care state (made ++ built) rest
  | .backslash leading, built, c :: rest =>
    if c = '\\' then stringTail care (.letter leading) built rest else .error .malformed
  | .letter leading, built, c :: rest =>
    if c = 'u' then stringTail care (.digits [] (some leading)) built rest
    else .error .malformed

/-! ## Numbers -/

/-- Is `digits · 10 ^ exponent` beyond the numbers that double precision can round to? -/
private def isTooLarge (digits : Nat) (exponent : Int) : Bool :=
  let places := (Nat.toDigits 10 digits).length + exponent
  let limit := Nat.pow 2 1024 - Nat.pow 2 970
  if digits = 0 || places < 300 then false
  else if 320 < places then true
  else if 0 ≤ exponent then limit ≤ digits * Nat.pow 10 exponent.toNat
  else limit * Nat.pow 10 (-exponent).toNat ≤ digits

private def decimal (digits : List Char) : Nat :=
  digits.foldl (fun n c => 10 * n + (c.toNat - 48)) 0

/-- The parts of a number, as it is written. -/
structure NumberParts where
  isNegative : Bool
  whole : List Char
  fraction : Option (List Char)
  exponent : Option Int

/-- The value of a number.  Integers are those without fraction and exponent that fit into
64 bits; the negative zero is none of them. -/
def NumberParts.value (parts : NumberParts) : Except ReadFault Json :=
  let whole := decimal parts.whole
  let isInteger := parts.fraction.isNone && parts.exponent.isNone &&
    (if parts.isNegative then 0 < whole && whole ≤ Nat.pow 2 63 else whole < Nat.pow 2 64)
  if isInteger then .ok (.integer (if parts.isNegative then -whole else whole))
  else
    let fraction := parts.fraction.getD []
    let exponent := parts.exponent.getD 0 - fraction.length
    if isTooLarge (decimal (parts.whole ++ fraction)) exponent then .error .malformed
    else .ok .real

/-- Takes digits, of which there must be one. -/
private def digits (care : Care) : Reader (List Char) := fun text =>
  match text.span Char.isDigit with
  | ([], []) => .error (if care = .strict then .truncated else .malformed)
  | ([], _) => .error .malformed
  | (digits, rest) => .ok (digits, rest)

private def sign : Reader Bool := fun text =>
  match text with
  | '-' :: rest => .ok (true, rest)
  | '+' :: rest => .ok (false, rest)
  | _ => .ok (false, text)

/-- Takes a number, which begins with a digit or with the sign of negative numbers. -/
def number (care : Care) : Reader Json := do
  let isNegative ← match (← get).head? with
    | some '-' => do skipOne; pure true
    | _ => pure false
  let whole ← digits care
  if whole.head? = some '0' && 1 < whole.length then fail .malformed
  let fraction ← match (← get).head? with
    | some '.' => do skipOne; some <$> digits care
    | _ => pure none
  let exponent ← match (← get).head? with
    | some 'e' | some 'E' => do
      skipOne
      let isDown ← sign
      let size := decimal (← digits care)
      pure (some (if isDown then -(size : Int) else size))
    | _ => pure none
  if care = .lenient then return .real
  match (NumberParts.mk isNegative whole fraction exponent).value with
  | .ok value => return value
  | .error fault => fail fault

/-! ## Arrays and objects -/

/-- Is there a further item, or has the array come to its closing bracket? -/
def nextItem (isFirst : Bool) : Reader Bool := do
  match ← peek with
  | none => fail .truncated
  | some ']' => return false
  | some c =>
    if isFirst then return true
    else if c = ',' then do
      skipOne
      match ← peek with
      | none => fail .truncated
      | some ']' => fail .malformed
      | some _ => return true
    else fail .malformed

/-- The name of a further member, unless the object has come to its closing brace. -/
def nextName (care : Care) (isFirst : Bool) : Reader (Option String) := do
  let named : Reader (Option String) := do
    match ← peek with
    | none => fail .truncated
    | some '"' => do skipOne; some <$> stringTail care .plain []
    | some _ => fail .malformed
  match ← peek with
  | none => fail .truncated
  | some '\x7d' => return none
  | some c =>
    if isFirst then named
    else if c = ',' then do skipOne; named
    else fail .malformed

/-- Goes through the items of an array, after its opening bracket. -/
def foldItems {σ : Type} (step : σ → Reader σ) : (fuel : Nat) → (isFirst : Bool) → σ → Reader σ
  | 0, _, _ => fail .truncated
  | fuel + 1, isFirst, state => do
    if ← nextItem isFirst then foldItems step fuel false (← step state)
    else do skipOne; return state

/-- Goes through the members of an object, after its opening brace.  A step has the colon
and the value of its member before it. -/
def foldMembers {σ : Type} (care : Care) (step : σ → String → Reader σ) : (fuel : Nat) →
    (isFirst : Bool) → σ → Reader σ
  | 0, _, _ => fail .truncated
  | fuel + 1, isFirst, state => do
    match ← nextName care isFirst with
    | some name => foldMembers care step fuel false (← step state name)
    | none => do skipOne; return state

/-- No loop has more rounds than the text has characters, but for the last one. -/
def rounds : Reader Nat := return (← get).length + 1

/-- Takes a value whose items and members, if it may have any, are read by `inner`. -/
def valueOver (care : Care) (inner : Option (Reader Json)) : Reader Json := do
  match ← peek, inner with
  | none, _ => fail .truncated
  | some 'n', _ => do keyword ['n', 'u', 'l', 'l']; return .null
  | some 't', _ => do keyword ['t', 'r', 'u', 'e']; return .bool true
  | some 'f', _ => do keyword ['f', 'a', 'l', 's', 'e']; return .bool false
  | some '"', _ => do skipOne; .string <$> stringTail care .plain []
  | some '[', some inner => do
    skipOne
    let items ← foldItems (fun items => return (← inner) :: items) (← rounds) true []
    return .array items.reverse
  | some '\x7b', some inner => do
    skipOne
    let step (members : List (String × Json)) (name : String) := do
      expect ':'
      return (name, ← inner) :: members
    let members ← foldMembers care step (← rounds) true []
    return .object members.reverse
  | some c, _ => if c = '-' || c.isDigit then number care else fail .malformed

/-- Takes a value in which at most so many arrays and objects are nested. -/
def value (care : Care) : (depth : Nat) → Reader Json
  | 0 => valueOver care none
  | depth + 1 => valueOver care (some (value care depth))

/-- Skips a value, whatever its nesting. -/
def skipValue : Reader Unit := do
  let _ ← value .lenient (← rounds)

/-- Refuses the value that comes next because of its shape.  Of an array or an object the
first character shows it; other values are read before. -/
def mismatch {α : Type} : Reader α := do
  match ← peek with
  | some '[' | some '\x7b' => fail .mismatched
  | _ => do
    let _ ← value .strict 0
    fail .mismatched

/-! ## Records

A record is an object with known members, all of which may be missing.  It may also be
written as an array of the values of its first members, in the order in which the record
declares them. -/

/-- A member of a record: its name, and how its value is read into the record. -/
structure Member (σ : Type) where
  name : String
  readInto : σ → Reader σ

def recordItems {σ : Type} : (fields : List (Member σ)) → (isFirst : Bool) → σ → Reader σ
  | [], _, record => do
    expect ']'
    return record
  | field :: further, isFirst, record => do
    if ← nextItem isFirst then recordItems further false (← field.readInto record)
    else do skipOne; return record

def recordMember {σ : Type} (fields : List (Member σ)) :
    σ × List String → String → Reader (σ × List String)
  | (record, seen), name =>
    match fields.find? (·.name = name) with
    | some field => do
      if seen.contains name then fail .mismatched
      expect ':'
      return (← field.readInto record, name :: seen)
    | none => do
      expect ':'
      skipValue
      return (record, seen)

/-- Takes a record.  Unknown members are skipped; a known member given twice is refused. -/
def record {σ : Type} (fields : List (Member σ)) (missing : σ) : Reader σ := do
  match ← peek with
  | some '[' => do skipOne; recordItems fields true missing
  | some '\x7b' => do
    skipOne
    return (← foldMembers .strict (recordMember fields) (← rounds) true (missing, [])).1
  | _ => mismatch

/-- Takes a whole text: a value, after which only white space may follow. -/
def whole {α : Type} (reader : Reader α) (text : String) : Except ReadFault α := do
  let (value, rest) ← reader text.toList
  if rest.all isBlank then .ok value else .error .malformed

end Reader

end Concordancer
