import Concordancer.Proofs.Compiling
import Concordancer.Proofs.Distances
import Concordancer.Proofs.MatcherEquality
import Concordancer.Proofs.Placeholders
import Concordancer.Proofs.Search.Found
import Std.Data.String.ToInt

/-!
# Patterns of integers

Three features are numbers: that of the token, that of its sentence, and its distance.  They are
read as texts, and an integer of a pattern is compared as it is written: as it stands if it is
alone, and in a list after lower-casing unless case counts.  What this decides is whether the
numbers are equal (`integers_accepted_iff`).  Numbers have no sign, and integers of patterns have a
bound, so negative integers accept nothing, and large numbers are accepted by none.

## Strategy

A number is written like the integer that it is equal to and like no other
(`toString_eq_written_iff`), and lower-casing leaves digits and signs as they are
(`lowercase_written`).  So a pattern of integers compiles to a matcher that compares numbers, in
either form (`ofPattern_integers`), and what is read is always the number of the token
(`read_eq_some_iff_hasNumber`).
-/

namespace Concordancer

/-! ## Integers as they are written -/

namespace Literal

theorem toString_eq_written_iff {number : Nat} {value : Int} :
    toString number = (integer value).written ↔ (number : Int) = value := by
  have hnumber : toString number = (number : Int).repr := rfl
  rw [hnumber, written, Int.toString_eq_repr, Int.repr_inj]

/-- An integer is written with digits, after a sign if it is negative. -/
theorem isDigit_or_eq_of_mem_written {value : Int} {c : Char}
    (hc : c ∈ (integer value).written.toList) : c.isDigit = true ∨ c = '-' := by
  rw [written, Int.toString_eq_repr, Int.repr_eq_if] at hc
  split at hc
  · exact .inl (Fragment.isDigit_of_mem_toString hc)
  · rw [String.toList_append] at hc
    rcases List.mem_append.mp hc with hsign | hdigit
    · exact .inr (List.mem_singleton.mp hsign)
    · exact .inl (Fragment.isDigit_of_mem_toString hdigit)

private theorem toLower_of_isDigit {c : Char} (hdigit : c.isDigit = true) :
    c.toNat < 128 ∧ c.toLower = c := by
  have hbound : c.toNat ≤ '9'.toNat :=
    UInt32.le_iff_toNat_le.mp (of_decide_eq_true (Bool.and_eq_true_iff.mp hdigit).2)
  have hnine : '9'.toNat = 57 := rfl
  refine ⟨by omega, dif_neg ?_⟩
  rintro ⟨hupper, -⟩
  have hcapital : 'A'.toNat ≤ c.toNat := UInt32.le_iff_toNat_le.mp hupper
  have hletter : 'A'.toNat = 65 := rfl
  omega

theorem lowercase_written (value : Int) :
    Text.lowercase (integer value).written = (integer value).written := by
  refine Text.lowercase_eq_self fun c hc => ?_
  rcases isDigit_or_eq_of_mem_written hc with hdigit | rfl
  · exact toLower_of_isDigit hdigit
  · decide

end Literal

/-! ## Matchers for integers -/

/-- The pattern of these integers: of one that stands alone, or of a list of them. -/
inductive Pattern.IsOfIntegers : Pattern → List Int → Prop
  | alone (value : Int) : IsOfIntegers (.integer value) [value]
  | list (values : List Int) : IsOfIntegers (.list (values.map .integer)) values

namespace Matcher

variable {descriptor : String} {caseSensitive : Bool} {dialect : Regex.Dialect}

theorem ofPattern_integers {pattern : Pattern} {values : List Int}
    (hpattern : pattern.IsOfIntegers values) :
    ∃ matcher, ofPattern descriptor pattern caseSensitive dialect = .ok matcher ∧
      matcher.isWildcard = false ∧
      ∀ number : Nat, matcher.accepts (toString number) = true ↔
        ∃ value ∈ values, (number : Int) = value := by
  have hlower : ∀ number : Nat, Text.lowercase (toString number) = toString number := fun number =>
    Literal.lowercase_written number
  cases hpattern with
  | alone value =>
      refine ⟨_, rfl, rfl, fun number => ?_⟩
      rw [accepts_literals_iff, if_pos rfl, List.mem_toFinset, List.mem_singleton,
        Literal.toString_eq_written_iff]
      simp only [List.mem_singleton, exists_eq_left]
  | list =>
      refine ⟨_, rfl, rfl, fun number => ?_⟩
      have hwritten : (if caseSensitive then toString number else Text.lowercase (toString number))
          = toString number := by
        rw [hlower, ite_self]
      have hvalues : literalValues caseSensitive (values.map .integer) =
          (values.map fun value => (Literal.integer value).written).eraseDups := by
        rw [literalValues, List.map_map]
        refine congrArg List.eraseDups (List.map_congr_left fun value _ => ?_)
        rw [Function.comp_apply, Literal.lowercase_written, ite_self]
      rw [accepts_literals_iff, hwritten, hvalues, List.mem_toFinset, List.mem_eraseDups,
        List.mem_map]
      refine exists_congr fun value => and_congr_right fun _ => ?_
      rw [eq_comm, Literal.toString_eq_written_iff]

end Matcher

/-! ## Numbers of tokens -/

/-- The features that are numbers. -/
def Feature.IsNumeric (feature : Feature) : Prop :=
  feature = .index ∨ feature = .sentenceId ∨ feature = .distance

namespace Treebank

/-- A token has a number for a feature: its own, that of its sentence, or the number of steps to
the root, if it is less than the limit. -/
def HasNumber (treebank : Treebank) (limit : Nat) (ref : TokenRef) (feature : Feature)
    (number : Nat) : Prop :=
  ∃ sentence token, treebank.corpus.sentence? ref.sentence = some sentence ∧
    sentence.token? ref.index = some token ∧
    match feature with
    | .index => number = ref.index
    | .sentenceId => number = ref.sentence
    | .distance => number < limit ∧ sentence.ReachesRoot number ref.index
    | _ => False

variable {treebank : Treebank} {filter : WordFilter} {lexicon : Lexicon} {navigator : Navigator}
  {ref : TokenRef} {feature : Feature}

/-- What is read for a numeric feature is the number of the token, as it is written. -/
theorem read_eq_some_iff_hasNumber
    (hvisible : navigator.visible = treebank.visible filter lexicon)
    (hnumeric : feature.IsNumeric) {text : String} :
    (navigator.read ref feature).value = some text ↔
      ∃ number, treebank.HasNumber navigator.distanceLimit ref feature number ∧
        toString number = text := by
  have hcorpus : navigator.visible.corpus = treebank.corpus := by rw [hvisible]; rfl
  unfold Navigator.read HasNumber
  rw [hcorpus]
  cases hsentence : treebank.corpus.sentence? ref.sentence with
  | none => simp
  | some sentence =>
      have hid : sentence.id = ref.sentence := Corpus.id_of_sentence? hsentence
      rw [sentence?_eq_parse?] at hsentence
      obtain ⟨parse, -, rfl⟩ := Option.map_eq_some_iff.mp hsentence
      cases htoken : parse.sentence.token? ref.index with
      | none => simp [htoken]
      | some token =>
          obtain ⟨-, hlast⟩ := Parse.token?_sentence_eq_some_iff.mp htoken
          have hindex : token.index = ref.index := hlast.1
          have hroot := parse.token?_root
          rcases hnumeric with rfl | rfl | rfl
          · simp [htoken, hindex]
          · simp [htoken, hid]
          · simp [htoken, hindex, Sentence.distance_eq_some_iff hroot,
              Sentence.reachesRoot_iff hroot]

end Treebank

namespace Search

variable {search : Search} {treebank : Treebank} {filter : WordFilter} {lexicon : Lexicon}
  {values : List Int}

/-- With a matcher that compares numbers, a criterion on a numeric feature holds for the tokens
whose number is one of the values. -/
theorem holds_iff_hasNumber (criterion : Criterion)
    (hvisible : search.navigator.visible = treebank.visible filter lexicon)
    (hnumeric : criterion.feature.IsNumeric) (hplain : criterion.matcher.isWildcard = false)
    (haccepts : ∀ number : Nat, criterion.matcher.accepts (toString number) = true ↔
      ∃ value ∈ values, (number : Int) = value) {ref : TokenRef} :
    (search.holds criterion ref).value = true ↔
      ∃ number, treebank.HasNumber search.navigator.distanceLimit ref criterion.feature number ∧
        ∃ value ∈ values, (number : Int) = value := by
  rw [value_holds_iff]
  constructor
  · rintro (⟨text, hread, hmatches⟩ | ⟨-, hwildcard, -⟩)
    · obtain ⟨number, hnumber, rfl⟩ :=
        (Treebank.read_eq_some_iff_hasNumber hvisible hnumeric).mp hread
      exact ⟨number, hnumber, (haccepts number).mp hmatches⟩
    · rw [hplain] at hwildcard
      cases hwildcard
  · rintro ⟨number, hnumber, hvalue⟩
    exact .inl ⟨toString number,
      (Treebank.read_eq_some_iff_hasNumber hvisible hnumeric).mpr ⟨number, hnumber, rfl⟩,
      (haccepts number).mpr hvalue⟩

/-- **Patterns of integers compare numbers.**  In every treebank, under any filter and any options,
let a descriptor ask for the number of a token, of its sentence, or of its steps to the
root, and let the pattern be an integer or a list of integers.  This compiles, and the criterion
holds for a token if and only if the token has such a number and it is equal to one of the
integers.  So negative integers never count, and a number of more than 63 bits is none of those
that a pattern can hold.  Every visible token but the root has a number and that of its
sentence. -/
theorem integers_accepted_iff (treebank : Treebank) (filter : WordFilter) (lexicon : Lexicon)
    (distanceLimit : Nat) (coreference : Option Coreference) (options : Options)
    (dialect : Regex.Dialect) {descriptor : String} {parts : Descriptor} {role : Role}
    {feature : Feature}
    (hdescriptor : Criterion.readDescriptor descriptor = .ok (parts, role, feature))
    (hnumeric : feature.IsNumeric) {pattern : Pattern} {values : List Int}
    (hpattern : pattern.IsOfIntegers values) :
    let search : Search :=
      ⟨⟨treebank.visible filter lexicon, lexicon, distanceLimit⟩, coreference⟩
    let has := fun ref number => treebank.HasNumber distanceLimit ref feature number
    ∃ criterion, Criterion.compile options descriptor pattern dialect = .ok criterion ∧
      criterion.feature = feature ∧
      (∀ ref text, (search.navigator.read ref feature).value = some text ↔
        ∃ number, has ref number ∧ toString number = text) ∧
      (∀ ref, (search.holds criterion ref).value = true ↔
        ∃ number, has ref number ∧ ∃ value ∈ values, (number : Int) = value) ∧
      (∀ ref, (∀ value ∈ values, value < 0) → (search.holds criterion ref).value = false) ∧
      (∀ ref number, (∀ value ∈ values, inPatternRange value = true) → has ref number →
        9223372036854775807 < number → (search.holds criterion ref).value = false) ∧
      ∀ ref, search.navigator.visible.shows ref = true → ref.isRoot = false →
        feature ≠ .distance → ∃ number, has ref number := by
  intro search has
  obtain ⟨matcher, hmatcher, hplain, haccepts⟩ := Matcher.ofPattern_integers hpattern
  have hread : ∀ ref text, (search.navigator.read ref feature).value = some text ↔
      ∃ number, has ref number ∧ toString number = text :=
    fun _ _ => Treebank.read_eq_some_iff_hasNumber rfl hnumeric
  let criterion : Criterion :=
    ⟨descriptor, role, feature, parts.adjacency, options.coreference, matcher⟩
  -- All that follows on negative and on large numbers is read off from this.
  have hholds : ∀ ref, (search.holds criterion ref).value = true ↔
      ∃ number, has ref number ∧ ∃ value ∈ values, (number : Int) = value :=
    fun _ => holds_iff_hasNumber criterion rfl hnumeric hplain haccepts
  refine ⟨criterion, ?_, rfl, hread, hholds, ?_, ?_, ?_⟩
  · exact Criterion.compile_eq_ok_iff.mpr
      ⟨parts, role, feature, matcher, hdescriptor, hmatcher, rfl⟩
  · intro ref hnegative
    rw [Bool.eq_false_iff, ne_eq, hholds]
    rintro ⟨number, -, value, hvalue, hequal⟩
    have := hnegative value hvalue
    omega
  · intro ref number hrange hnumber hlarge
    rw [Bool.eq_false_iff, ne_eq, hholds]
    rintro ⟨other, hother, value, hvalue, hequal⟩
    -- A token has one number, since one text is read.
    have hsame : (number : Int) = other := Literal.toString_eq_written_iff.mp
      (Option.some.inj (((hread ref _).mpr ⟨number, hnumber, rfl⟩).symm.trans
        ((hread ref _).mpr ⟨other, hother, rfl⟩)))
    have hbound := of_decide_eq_true (Bool.and_eq_true_iff.mp (hrange value hvalue)).2
    omega
  · intro ref hshows hroot hfeature
    obtain ⟨token, -, htoken⟩ := Treebank.exists_token? hshows hroot
    obtain ⟨sentence, hsentence, htoken⟩ := Option.bind_eq_some_iff.mp htoken
    rcases hnumeric with rfl | rfl | rfl
    · exact ⟨ref.index, sentence, token, hsentence, htoken, rfl⟩
    · exact ⟨ref.sentence, sentence, token, hsentence, htoken, rfl⟩
    · contradiction

/-- The identifier of the second sentence has 64 bits, and its neighbour is in the list.  The
distance of *far* is 1, which is not -1. -/
theorem integers_accepted_iff_sample :
    let treebank : Treebank := ⟨"far", [⟨7, [.parsed 1 "near" "near" "RB" 1 "root"], ∅⟩,
      ⟨9223372036854775808, [.parsed 1 "far" "far" "RB" 0 "root"], ∅⟩]⟩
    let search : Search := ⟨⟨treebank.visible .none .empty, .empty, 30⟩, none⟩
    let far : TokenRef := ⟨9223372036854775808, 1⟩
    let values : List Int := [7, -1, 9223372036854775807]
    (∃ parts, Criterion.readDescriptor "s" = .ok (parts, .self, .sentenceId)) ∧
      (∃ parts, Criterion.readDescriptor "r" = .ok (parts, .self, .distance)) ∧
      search.navigator.visible.shows far = true ∧ far.isRoot = false ∧
      (∀ value ∈ values, inPatternRange value = true) ∧
      (∃ criterion, Criterion.compile {} "s" (.list (values.map .integer)) = .ok criterion ∧
        (search.holds criterion ⟨7, 1⟩).value = true ∧
        (∃ number, treebank.HasNumber 30 far .sentenceId number ∧ 9223372036854775807 < number) ∧
        (search.holds criterion far).value = false) ∧
      ∃ criterion, Criterion.compile { caseSensitive := true } "r" (.integer (-1)) =
          .ok criterion ∧
        (search.navigator.read far .distance).value = some "1" ∧
        (search.holds criterion far).value = false := by
  intro treebank search far values
  obtain ⟨parts, hsentence⟩ :
      ∃ parts, Criterion.readDescriptor "s" = .ok (parts, .self, .sentenceId) := ⟨_, rfl⟩
  obtain ⟨steps, hdistance⟩ :
      ∃ parts, Criterion.readDescriptor "r" = .ok (parts, .self, .distance) := ⟨_, rfl⟩
  have hshows : search.navigator.visible.shows far = true := by decide +kernel
  have hrange : ∀ value ∈ values, inPatternRange value = true := by decide
  obtain ⟨criterion, hcompile, -, hread, hholds, -, hlarge, -⟩ :=
    integers_accepted_iff treebank .none .empty 30 none {} Regex.compile? hsentence
      (.inr (.inl rfl)) (.list values)
  obtain ⟨other, hother, -, -, -, hnegative, -, -⟩ :=
    integers_accepted_iff treebank .none .empty 30 none { caseSensitive := true } Regex.compile?
      hdistance (.inr (.inr rfl)) (.alone (-1))
  have hnear : (search.navigator.read ⟨7, 1⟩ .sentenceId).value = some (toString 7) := by
    decide +kernel
  have hfar : (search.navigator.read far .sentenceId).value =
      some (toString 9223372036854775808) := by
    decide +kernel
  obtain ⟨seven, hseven, hsame⟩ := (hread ⟨7, 1⟩ _).mp hnear
  obtain rfl : seven = 7 := Nat.repr_inj.mp hsame
  obtain ⟨large, hhas, hsame⟩ := (hread far _).mp hfar
  obtain rfl : large = 9223372036854775808 := Nat.repr_inj.mp hsame
  have hmany : 9223372036854775807 < 9223372036854775808 := by decide
  refine ⟨⟨_, hsentence⟩, ⟨_, hdistance⟩, hshows, rfl, hrange, ⟨criterion, hcompile, ?_, ?_, ?_⟩,
    other, hother, by decide +kernel, ?_⟩
  · exact (hholds ⟨7, 1⟩).mpr ⟨7, hseven, 7, List.mem_cons_self, rfl⟩
  · exact ⟨_, hhas, hmany⟩
  · exact hlarge far _ hrange hhas hmany
  · exact hnegative far (by decide)

end Search

end Concordancer
