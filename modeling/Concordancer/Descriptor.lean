import Concordancer.Query.Error

/-!
# Descriptors

Criteria and columns are written as short descriptors.  A search descriptor has an optional
adjacency, such as `+1`, and letters; a show descriptor may have the letter of an expansion
in front, and the descriptor `c` alone asks for a count.  Which letters may stand where is
decided later, so that a fault can name the letter.
-/

namespace Concordancer

/-- How a match is repeated over the tokens around it: as successive grams, or beside each
token of a window. -/
inductive Expansion
  | gram | window
deriving DecidableEq, Repr

namespace Expansion

def ofLetter? : Char → Option Expansion
  | 'n' => some gram
  | 'b' => some window
  | _ => none

end Expansion

/-- The parts of a descriptor. -/
structure Descriptor where
  expansion : Option Expansion
  adjacency : Option Int
  letters : List Char
deriving DecidableEq, Repr

inductive ShowDescriptor
  | count
  | column (descriptor : Descriptor)
deriving DecidableEq, Repr

namespace Descriptor

/-- The number of tokens that adjacencies can span: the largest number of 63 bits. -/
def largestOffset : Nat := 9223372036854775807

/-- A signed number, as its sign and its digits. -/
structure Offset where
  isNegative : Bool
  digits : List Char

namespace Offset

def value (offset : Offset) : Except DescriptorFault Int :=
  let size := offset.digits.foldl (fun n c => 10 * n + (c.toNat - 48)) 0
  if size ≤ largestOffset then .ok (if offset.isNegative then -(size : Int) else size)
  else .error .offsetOutOfRange

/-- Reads an adjacency from the front of a text, if the text begins with a sign. -/
def read (text : List Char) : Except DescriptorFault (Option Offset × List Char) :=
  match text with
  | [] => .ok (none, [])
  | c :: rest =>
    if c = '+' || c = '-' then
      match rest.takeWhile Char.isDigit with
      | [] => .error .expectedOffset
      | digits => .ok (some ⟨c = '-', digits⟩, rest.dropWhile Char.isDigit)
    else .ok (none, text)

end Offset

/-- Reads an adjacency and letters up to the end of the text.  Where nothing at all can be
read, `nothing` is the fault. -/
def readFrom (nothing : DescriptorFault) (expansion : Option Expansion)
    (text : List Char) : Except DescriptorFault Descriptor := do
  let (offset, rest) ← Offset.read text
  let letters := rest.takeWhile Char.isAlpha
  match rest.dropWhile Char.isAlpha with
  | [] => return { expansion, adjacency := ← offset.mapM Offset.value, letters }
  | _ => throw (if offset.isNone && letters.isEmpty then nothing else .expectedEnd)

def ofSearchText (text : String) : Except DescriptorFault Descriptor :=
  readFrom .expectedSearchDescriptor none text.toList

end Descriptor

namespace ShowDescriptor

def ofText (text : String) : Except DescriptorFault ShowDescriptor :=
  if text = "c" then .ok .count
  else match text.toList with
    | [] => column <$> Descriptor.readFrom .expectedShowDescriptor none []
    | c :: rest =>
      match Expansion.ofLetter? c with
      | some expansion => column <$> Descriptor.readFrom .expectedEndOrSign (some expansion) rest
      | none => column <$> Descriptor.readFrom .expectedShowDescriptor none (c :: rest)

end ShowDescriptor

end Concordancer
