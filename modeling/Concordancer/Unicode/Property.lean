import Concordancer.Unicode.Category

/-!
# Character properties

The properties that matching, lower-casing and quoting ask of a character.  Each is a union
of general categories and a short list of further code points, as the standard defines it.
The properties that are asked of nearly every character of a text answer for ASCII without
a look-up.
-/

namespace Concordancer.Unicode

/-- Membership in a short list of closed ranges of code points. -/
private def within (ranges : List (Nat × Nat)) (c : Char) : Bool :=
  ranges.any fun (first, last) => first ≤ c.toNat && c.toNat ≤ last

/-- Letters and digits in circles and squares, which count as letters although their
category is that of symbols. -/
private def enclosedLetters : List (Nat × Nat) :=
  [(0x24B6, 0x24E9), (0x1F130, 0x1F149), (0x1F150, 0x1F169), (0x1F170, 0x1F189)]

def isLetter (c : Char) : Bool :=
  if c.toNat < 128 then c.isAlpha else (Category.ofChar c).isLetter

def isDecimalDigit (c : Char) : Bool :=
  if c.toNat < 128 then c.isDigit else Category.ofChar c == .decimalNumber

/-- White space: the separators and the control characters that lay out text. -/
def isSpace (c : Char) : Bool :=
  if c.toNat < 128 then c == ' ' || (9 ≤ c.toNat && c.toNat ≤ 13)
  else c.toNat == 0x85 || (Category.ofChar c).isSeparator

/-- Characters that words are made of: letters, marks, digits, connecting punctuation and
the two joiners. -/
def isWordCharacter (c : Char) : Bool :=
  if c.toNat < 128 then c.isAlphanum || c == '_'
  else
    let category := Category.ofChar c
    category.isLetter || category.isMark || category == .decimalNumber
      || category == .letterNumber || category == .connectorPunctuation
      || within ((0x200C, 0x200D) :: enclosedLetters) c

/-- Letters in the wide sense that names are made of, letter-like numerals included. -/
def isAlphabetic (c : Char) : Bool :=
  isLetter c || Category.ofChar c == .letterNumber || within enclosedLetters c

def isNumeric (c : Char) : Bool :=
  match Category.ofChar c with
  | .decimalNumber | .letterNumber | .otherNumber => true
  | _ => false

/-! ## Case -/

private def otherCased : List (Nat × Nat) :=
  [(0xAA, 0xAA), (0xBA, 0xBA), (0x2B0, 0x2B8), (0x2C0, 0x2C1), (0x2E0, 0x2E4),
   (0x345, 0x345), (0x37A, 0x37A), (0x10FC, 0x10FC), (0x1D2C, 0x1D6A), (0x1D78, 0x1D78),
   (0x1D9B, 0x1DBF), (0x2071, 0x2071), (0x207F, 0x207F), (0x2090, 0x209C),
   (0x2160, 0x217F), (0x24B6, 0x24E9), (0x2C7C, 0x2C7D), (0xA69C, 0xA69D),
   (0xA770, 0xA770), (0xA7F2, 0xA7F4), (0xA7F8, 0xA7F9), (0xAB5C, 0xAB5F),
   (0xAB69, 0xAB69), (0x10780, 0x10780), (0x10783, 0x10785), (0x10787, 0x107B0),
   (0x107B2, 0x107BA), (0x1E030, 0x1E06D), (0x1F130, 0x1F149), (0x1F150, 0x1F169),
   (0x1F170, 0x1F189)]

/-- Characters that have or are a case. -/
def isCased (c : Char) : Bool :=
  match Category.ofChar c with
  | .uppercaseLetter | .lowercaseLetter | .titlecaseLetter => true
  | _ => within otherCased c

/-- Punctuation that may stand inside a word. -/
private def midWord : List (Nat × Nat) :=
  [(0x27, 0x27), (0x2E, 0x2E), (0x3A, 0x3A), (0xB7, 0xB7), (0x387, 0x387), (0x55F, 0x55F),
   (0x5F4, 0x5F4), (0x2018, 0x2019), (0x2024, 0x2024), (0x2027, 0x2027),
   (0xFE13, 0xFE13), (0xFE52, 0xFE52), (0xFE55, 0xFE55), (0xFF07, 0xFF07),
   (0xFF0E, 0xFF0E), (0xFF1A, 0xFF1A)]

/-- Characters that are passed over when a rule looks for the nearest cased letter. -/
def isCaseIgnorable (c : Char) : Bool :=
  match Category.ofChar c with
  | .nonspacingMark | .enclosingMark | .format | .modifierLetter | .modifierSymbol => true
  | _ => within midWord c

/-! ## Display -/

private def otherExtending : List (Nat × Nat) :=
  [(0x9BE, 0x9BE), (0x9D7, 0x9D7), (0xB3E, 0xB3E), (0xB57, 0xB57), (0xBBE, 0xBBE),
   (0xBD7, 0xBD7), (0xCC2, 0xCC2), (0xCD5, 0xCD6), (0xD3E, 0xD3E), (0xD57, 0xD57),
   (0xDCF, 0xDCF), (0xDDF, 0xDDF), (0x1B35, 0x1B35), (0x200C, 0x200C), (0x302E, 0x302F),
   (0xFF9E, 0xFF9F), (0x1133E, 0x1133E), (0x11357, 0x11357), (0x114B0, 0x114B0),
   (0x114BD, 0x114BD), (0x115AF, 0x115AF), (0x11930, 0x11930), (0x1D165, 0x1D165),
   (0x1D16E, 0x1D172), (0xE0020, 0xE007F)]

/-- Characters that are drawn onto the character before them. -/
def extendsGrapheme (c : Char) : Bool :=
  if c.toNat < 128 then false
  else match Category.ofChar c with
    | .nonspacingMark | .enclosingMark => true
    | _ => within otherExtending c

/-- Characters that leave a visible mark; of the separators only the blank counts. -/
def isPrintable (c : Char) : Bool :=
  if c.toNat < 128 then 32 ≤ c.toNat && c.toNat < 127
  else
    let category := Category.ofChar c
    !(category.isOther || category.isSeparator)

end Concordancer.Unicode
