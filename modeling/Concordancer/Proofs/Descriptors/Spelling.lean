import Concordancer.Proofs.Compiling
import Mathlib.Data.List.TakeWhile
import Mathlib.Data.Nat.Digits.Defs

/-!
# How the parts of descriptors are spelled

In front of its letters a descriptor may have an adjacency, that is a sign and a decimal number
of at most 63 bits, and its last letter may be that of a feature.  `AdjacencySpelling` and
`FeatureSpelling` say how each of them is written, with no word about how it is read.

A descriptor is read by taking the longest run of digits after a sign and the longest run of
letters after that.  No digit is a letter and no sign is either, so that there is one way only
to cut a text into a sign, digits and letters, and to take as much as possible finds
it (`read_of_letters`, `read_of_sign`).  Hence the parts of a text are an adjacency and letters
exactly as the text is spelled (`readFrom_eq_ok_iff`).
-/

namespace Concordancer

/-! ## Features -/

/-- How a feature is written.  Where none is written, the word is meant. -/
inductive FeatureSpelling : List Char → Feature → Prop
  | implied : FeatureSpelling [] .word
  | word : FeatureSpelling ['w'] .word
  | baseForm : FeatureSpelling ['l'] .baseForm
  | tag : FeatureSpelling ['p'] .tag
  | wordClass : FeatureSpelling ['x'] .wordClass
  | function : FeatureSpelling ['f'] .function
  | index : FeatureSpelling ['i'] .index
  | sentenceId : FeatureSpelling ['s'] .sentenceId
  | distance : FeatureSpelling ['r'] .distance
  | entity : FeatureSpelling ['n'] .entity

namespace FeatureSpelling

variable {letters : List Char} {feature : Feature}

theorem of_ofLetter? {letter : Char} (hletter : Feature.ofLetter? letter = some feature) :
    FeatureSpelling [letter] feature := by
  unfold Feature.ofLetter? at hletter
  split at hletter
  all_goals cases hletter
  all_goals constructor

theorem ofLetter?_eq_some {letter : Char} (hspelling : FeatureSpelling [letter] feature) :
    Feature.ofLetter? letter = some feature := by
  cases hspelling <;> rfl

/-- There is one letter for a feature, or none. -/
theorem eq_nil_or_singleton (hspelling : FeatureSpelling letters feature) :
    (letters = [] ∧ feature = .word) ∨ ∃ letter, letters = [letter] := by
  cases hspelling with
  | implied => exact .inl ⟨rfl, rfl⟩
  | _ => exact .inr ⟨_, rfl⟩

theorem isAlpha (hspelling : FeatureSpelling letters feature) :
    ∀ letter ∈ letters, letter.isAlpha = true := by
  cases hspelling with
  | implied => exact List.forall_mem_nil _
  | _ => exact List.forall_mem_singleton.mpr rfl

end FeatureSpelling

namespace Descriptor

/-! ## Adjacencies -/

/-- The number that decimal digits stand for, the most significant digit first. -/
def numeral (digits : List Char) : Nat :=
  Nat.ofDigits 10 (digits.reverse.map fun digit => digit.toNat - '0'.toNat)

/-- One or more digits of a number of at most 63 bits; it may begin with zeros. -/
structure IsNumeral (digits : List Char) : Prop where
  nonempty : digits ≠ []
  decimal : ∀ digit ∈ digits, digit.isDigit = true
  bounded : numeral digits ≤ 2 ^ 63 - 1

/-- How an adjacency is written.  None is written as nothing; an adjacency of no tokens
has either sign. -/
inductive AdjacencySpelling : List Char → Option Int → Prop
  | none : AdjacencySpelling [] none
  | right {digits : List Char} (hdigits : IsNumeral digits) :
    AdjacencySpelling ('+' :: digits) (some (numeral digits))
  | left {digits : List Char} (hdigits : IsNumeral digits) :
    AdjacencySpelling ('-' :: digits) (some (-(numeral digits : Int)))

/-! ## Signs, digits and letters -/

theorem isDigit_eq_false_of_isAlpha {c : Char} (halpha : c.isAlpha = true) :
    c.isDigit = false := by
  have hletter : (decide (c.val ≥ 'A'.val ∧ c.val ≤ 'Z'.val) ||
      (decide (c.val ≥ 'a'.val) && decide (c.val ≤ 'z'.val))) = true := halpha
  show (decide (c.val ≥ '0'.val) && decide (c.val ≤ '9'.val)) = false
  -- Letters and digits are ranges of code points, and these do not overlap.
  simp only [Bool.or_eq_true, Bool.and_eq_true, Bool.and_eq_false_iff, decide_eq_true_eq,
    decide_eq_false_iff_not, ge_iff_le, UInt32.le_iff_toNat_le] at hletter ⊢
  have hlargest : '9'.val.toNat = 57 := rfl
  have hupper : 'A'.val.toNat = 65 := rfl
  have hlower : 'a'.val.toNat = 97 := rfl
  omega

theorem ne_sign_of_isAlpha {c : Char} (halpha : c.isAlpha = true) : ¬(c = '+' ∨ c = '-') := by
  rintro (rfl | rfl)
  · cases halpha
  · cases halpha

/-- An adjacency has no letters. -/
theorem AdjacencySpelling.not_mem_of_isAlpha {sign : List Char} {adjacency : Option Int}
    (hsign : AdjacencySpelling sign adjacency) {letter : Char} (halpha : letter.isAlpha = true) :
    letter ∉ sign := by
  have hdigit : ∀ {digits : List Char}, IsNumeral digits → letter ∉ digits := by
    intro digits hdigits hletter
    have hdecimal := hdigits.decimal letter hletter
    rw [isDigit_eq_false_of_isAlpha halpha] at hdecimal
    cases hdecimal
  have hne := ne_sign_of_isAlpha halpha
  cases hsign with
  | none => exact List.not_mem_nil
  | right hdigits =>
      exact List.not_mem_cons_of_ne_of_not_mem (fun heq => hne (.inl heq)) (hdigit hdigits)
  | left hdigits =>
      exact List.not_mem_cons_of_ne_of_not_mem (fun heq => hne (.inr heq)) (hdigit hdigits)

namespace Offset

variable {text digits letters rest : List Char}

theorem read_of_letters (hletters : ∀ letter ∈ letters, letter.isAlpha = true) :
    read letters = .ok (none, letters) := by
  cases letters with
  | nil => rfl
  | cons letter further =>
      have hsign := ne_sign_of_isAlpha (hletters letter List.mem_cons_self)
      rw [read, if_neg (by simpa using hsign)]

/-- After a sign, the digits up to the letters are taken. -/
theorem read_of_sign {sign : Char} (hsign : sign = '+' ∨ sign = '-') (hnonempty : digits ≠ [])
    (hdigits : ∀ digit ∈ digits, digit.isDigit = true)
    (hletters : ∀ letter ∈ letters, letter.isAlpha = true) :
    read (sign :: (digits ++ letters)) = .ok (some ⟨sign = '-', digits⟩, letters) := by
  -- The letters do not go on with a digit, so the reader stops in front of them.
  have hfirst : ∀ hlength : 0 < letters.length, ¬ letters[0].isDigit = true := by
    intro hlength
    rw [isDigit_eq_false_of_isAlpha (hletters _ (List.getElem_mem hlength))]
    exact Bool.false_ne_true
  have htake : (digits ++ letters).takeWhile Char.isDigit = digits := by
    rw [List.takeWhile_append_of_pos hdigits, List.takeWhile_eq_nil_iff.mpr hfirst,
      List.append_nil]
  have hdrop : (digits ++ letters).dropWhile Char.isDigit = letters := by
    rw [List.dropWhile_append_of_pos hdigits, List.dropWhile_eq_self_iff.mpr hfirst]
  rw [read, if_pos (by simpa using hsign), htake, hdrop]
  cases digits with
  | nil => exact absurd rfl hnonempty
  | cons digit further => rfl

/-- What has been read stands in front of the rest. -/
theorem eq_append_of_read {offset : Option Offset} (hread : read text = .ok (offset, rest)) :
    (offset = none ∧ text = rest) ∨
      ∃ sign digits, (sign = '+' ∨ sign = '-') ∧ digits ≠ [] ∧
        (∀ digit ∈ digits, digit.isDigit = true) ∧ text = sign :: (digits ++ rest) ∧
        offset = some ⟨sign = '-', digits⟩ := by
  cases text with
  | nil =>
      cases hread
      exact .inl ⟨rfl, rfl⟩
  | cons sign further =>
      rw [read] at hread
      -- A sign without digits is refused; without a sign nothing is read.
      by_cases hsign : sign = '+' ∨ sign = '-'
      · rw [if_pos (by simpa using hsign)] at hread
        cases hdigits : further.takeWhile Char.isDigit with
        | nil =>
            rw [hdigits] at hread
            cases hread
        | cons digit digits =>
            rw [hdigits] at hread
            cases hread
            refine .inr ⟨sign, digit :: digits, hsign, List.cons_ne_nil _ _, ?_, ?_, rfl⟩
            · intro other hother
              rw [← hdigits] at hother
              exact List.mem_takeWhile_imp hother
            · rw [← hdigits, List.takeWhile_append_dropWhile]
      · rw [if_neg (by simpa using hsign)] at hread
        cases hread
        exact .inl ⟨rfl, rfl⟩

theorem value_eq (offset : Offset) :
    offset.value =
      if numeral offset.digits ≤ 2 ^ 63 - 1 then
        .ok (if offset.isNegative then -(numeral offset.digits : Int) else numeral offset.digits)
      else .error .offsetOutOfRange := by
  have hsize : offset.digits.foldl (fun n c => 10 * n + (c.toNat - 48)) 0 =
      numeral offset.digits := by
    -- The value is folded from the left, and `Nat.ofDigits` has the least significant digit
    -- first.
    rw [numeral, Nat.ofDigits_eq_foldr, List.map_reverse, List.foldr_reverse, List.foldl_map]
    exact congrArg (fun step => offset.digits.foldl step 0)
      (funext fun n => funext fun c => Nat.add_comm _ _)
  rw [value, hsize]
  rfl

end Offset

/-! ## Descriptors -/

section

variable {nothing : DescriptorFault} {expansion : Option Expansion} {text : List Char}
  {parts : Descriptor}

private theorem readFrom_complete {sign letters : List Char} {adjacency : Option Int}
    (hsign : AdjacencySpelling sign adjacency)
    (hletters : ∀ letter ∈ letters, letter.isAlpha = true) :
    readFrom nothing expansion (sign ++ letters) = .ok ⟨expansion, adjacency, letters⟩ := by
  have htake : letters.takeWhile Char.isAlpha = letters := List.takeWhile_eq_self_iff.mpr hletters
  have hdrop : letters.dropWhile Char.isAlpha = [] := List.dropWhile_eq_nil_iff.mpr hletters
  unfold readFrom
  cases hsign with
  | none =>
      rw [List.nil_append, Offset.read_of_letters hletters]
      simp only [bind, Except.bind, htake, hdrop]
      rfl
  | right hdigits =>
      rw [List.cons_append,
        Offset.read_of_sign (.inl rfl) hdigits.nonempty hdigits.decimal hletters]
      simp only [bind, Except.bind, htake, hdrop, Option.mapM_some, Offset.value_eq,
        if_pos hdigits.bounded]
      rfl
  | left hdigits =>
      rw [List.cons_append,
        Offset.read_of_sign (.inr rfl) hdigits.nonempty hdigits.decimal hletters]
      simp only [bind, Except.bind, htake, hdrop, Option.mapM_some, Offset.value_eq,
        if_pos hdigits.bounded]
      rfl

private theorem spelling_of_value {offset : Option Offset} {rest : List Char}
    {adjacency : Option Int} (hread : Offset.read text = .ok (offset, rest))
    (hvalue : offset.mapM Offset.value = .ok adjacency) :
    ∃ sign, text = sign ++ rest ∧ AdjacencySpelling sign adjacency := by
  rcases Offset.eq_append_of_read hread with
    ⟨rfl, rfl⟩ | ⟨sign, digits, hsign, hnonempty, hdecimal, rfl, rfl⟩
  · cases hvalue
    exact ⟨[], rfl, .none⟩
  · simp only [Option.mapM_some, Offset.value_eq] at hvalue
    by_cases hbounded : numeral digits ≤ 2 ^ 63 - 1
    · rw [if_pos hbounded] at hvalue
      have hdigits : IsNumeral digits := ⟨hnonempty, hdecimal, hbounded⟩
      refine ⟨sign :: digits, rfl, ?_⟩
      rcases hsign with rfl | rfl
      · cases hvalue
        exact .right hdigits
      · cases hvalue
        exact .left hdigits
    · rw [if_neg hbounded] at hvalue
      cases hvalue

private theorem readFrom_sound (hread : readFrom nothing expansion text = .ok parts) :
    parts.expansion = expansion ∧ (∀ letter ∈ parts.letters, letter.isAlpha = true) ∧
      ∃ sign, text = sign ++ parts.letters ∧ AdjacencySpelling sign parts.adjacency := by
  unfold readFrom at hread
  obtain ⟨⟨offset, rest⟩, hoffset, hrest⟩ := bind_eq_ok_iff.mp hread
  cases hleft : rest.dropWhile Char.isAlpha with
  | cons other further =>
      simp only [hleft] at hrest
      cases hrest
  | nil =>
      simp only [hleft] at hrest
      obtain ⟨adjacency, hvalue, hparts⟩ := bind_eq_ok_iff.mp hrest
      have hletters : ∀ letter ∈ rest, letter.isAlpha = true := List.dropWhile_eq_nil_iff.mp hleft
      rw [List.takeWhile_eq_self_iff.mpr hletters] at hparts
      cases hparts
      exact ⟨rfl, hletters, spelling_of_value hoffset hvalue⟩

/-- The parts of a text are the adjacency and the letters that it is spelled with. -/
theorem readFrom_eq_ok_iff :
    readFrom nothing expansion text = .ok parts ↔
      parts.expansion = expansion ∧ (∀ letter ∈ parts.letters, letter.isAlpha = true) ∧
        ∃ sign, text = sign ++ parts.letters ∧ AdjacencySpelling sign parts.adjacency := by
  constructor
  · exact readFrom_sound
  · rintro ⟨rfl, hletters, sign, rfl, hsign⟩
    exact readFrom_complete hsign hletters

end

end Descriptor

end Concordancer
