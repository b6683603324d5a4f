import Concordancer.Regex.Expression
import Concordancer.Unicode.CaseMap
import Concordancer.Unicode.Property

/-!
# Character classes

The sets of characters that a pattern can name: the classes of single letters such as `\d`,
the bracketed names such as `[:alpha:]`, and the properties such as `\p{Lu}`.  Beside them
stand the operations on sets, and the closure of a set under change of case.
-/

namespace Concordancer.Regex

open Unicode

namespace CharSet

def none : CharSet := fun _ => false

def single (c : Char) : CharSet := (· == c)

/-- The characters from `first` to `last`, both included. -/
def range (first last : Char) : CharSet := fun c => first ≤ c && c ≤ last

def union (first second : CharSet) : CharSet := fun c => first c || second c

def complement (set : CharSet) : CharSet := fun c => !set c

/-- The complement of a set where `negated` asks for it. -/
def negateIf (negated : Bool) (set : CharSet) : CharSet :=
  if negated then set.complement else set

/-- The set with every spelling of its characters in the other case. -/
def foldCase (set : CharSet) : CharSet := fun c => (caseVariants c).any set

def foldCaseIf (ignoreCase : Bool) (set : CharSet) : CharSet :=
  if ignoreCase then set.foldCase else set

end CharSet

/-! ## Named classes -/

/-- The classes `\d`, `\s` and `\w`, in all scripts or in ASCII only. -/
def letterClass? (unicode : Bool) (letter : Char) : Option CharSet :=
  let restrict (set : CharSet) : CharSet := fun c => set c && (unicode || c.toNat < 128)
  match letter with
  | 'd' => some (restrict isDecimalDigit)
  | 's' => some (restrict isSpace)
  | 'w' => some (restrict isWordCharacter)
  | _ => none

/-- The classes that are written `[:name:]` inside brackets; they hold ASCII only. -/
def bracketClass? (name : String) : Option CharSet :=
  let visible : CharSet := CharSet.range '!' '~'
  match name with
  | "alnum" => some Char.isAlphanum
  | "alpha" => some Char.isAlpha
  | "ascii" => some fun c => c.toNat < 128
  | "blank" => some fun c => c == '\t' || c == ' '
  | "cntrl" => some fun c => c.toNat < 32 || c.toNat == 127
  | "digit" => some Char.isDigit
  | "graph" => some visible
  | "lower" => some Char.isLower
  | "print" => some fun c => c == ' ' || visible c
  | "punct" => some fun c => visible c && !c.isAlphanum
  | "space" => some fun c => c == ' ' || (9 ≤ c.toNat && c.toNat ≤ 13)
  | "upper" => some Char.isUpper
  | "word" => some fun c => c.isAlphanum || c == '_'
  | "xdigit" => some fun c => c.isDigit || CharSet.range 'a' 'f' c || CharSet.range 'A' 'F' c
  | _ => none

/-! ## Properties -/

/-- Names of properties are compared without their case, their blanks, hyphens and
underscores, and without `is` in front. -/
private def plainName (name : String) : String :=
  let letters := (name.toList.filter fun c => !(c == ' ' || c == '_' || c == '-')).map
    Char.toLower
  String.ofList (match letters with
    | 'i' :: 's' :: rest => rest
    | _ => letters)

/-- The major classes of categories, with the first letter of their abbreviations. -/
private def majorClasses : List (String × Char) :=
  [("l", 'L'), ("letter", 'L'), ("m", 'M'), ("mark", 'M'), ("combiningmark", 'M'),
   ("n", 'N'), ("number", 'N'), ("p", 'P'), ("punctuation", 'P'), ("punct", 'P'),
   ("s", 'S'), ("symbol", 'S'), ("z", 'Z'), ("separator", 'Z'), ("c", 'C'), ("other", 'C')]

private def ofCategories (categories : List Category) : CharSet :=
  fun c => categories.contains (Category.ofChar c)

/-- The set of a general category or of a union of them. -/
private def category? (name : String) : Option CharSet :=
  let plain := plainName name
  match majorClasses.lookup plain with
  | some initial => some <| ofCategories <|
      (Category.names.filter fun (short, _, _) => short.toList.head? == some initial).map
        fun (_, _, category) => category
  | none =>
    match plain with
    | "lc" | "casedletter" =>
      some (ofCategories [.uppercaseLetter, .lowercaseLetter, .titlecaseLetter])
    | "digit" => some (ofCategories [.decimalNumber])
    | "cntrl" => some (ofCategories [.control])
    | "any" => some fun _ => true
    | "ascii" => some fun c => c.toNat < 128
    | "assigned" => some fun c => Category.ofChar c != .unassigned
    | _ =>
      (Category.names.find? fun (short, long, _) =>
        plainName short == plain || plainName long == plain).map
          fun (_, _, category) => ofCategories [category]

/-- The set of a property given by one name. -/
private def property? (name : String) : Option CharSet :=
  match plainName name with
  | "alphabetic" | "alpha" => some isAlphabetic
  | "whitespace" | "wspace" | "space" => some isSpace
  | _ => category? name

/-- Cuts at the first occurrence of a separator. -/
private def cutAt? (separator : List Char) : List Char → Option (List Char × List Char)
  | [] => none
  | c :: rest =>
    if separator.isPrefixOf (c :: rest) then
      some ([], (c :: rest).drop separator.length)
    else (cutAt? separator rest).map fun (before, after) => (c :: before, after)

/-- The general category is the one property that can be asked for by its name. -/
private def valued? (name value : List Char) : Option CharSet :=
  match plainName (String.ofList name) with
  | "gc" | "generalcategory" => category? (String.ofList value)
  | _ => none

/-- The set that is written `\p{text}`: one name, or a name and a value. -/
def propertyClass? (text : List Char) : Option CharSet :=
  match cutAt? ['!', '='] text with
  | some (name, value) => (valued? name value).map CharSet.complement
  | none =>
    match cutAt? [':'] text <|> cutAt? ['='] text with
    | some (name, value) => valued? name value
    | none => property? (String.ofList text)

end Concordancer.Regex
