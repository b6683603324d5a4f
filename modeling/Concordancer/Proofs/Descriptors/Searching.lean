import Concordancer.Proofs.Descriptors.Spelling

/-!
# The language of search descriptors

A search descriptor is an adjacency, the letter of a role and the letter of a feature, in this
order, and each of them may be missing.  `SearchSpelling` says which texts this gives, and what
each of them means.  A criterion compiles from a descriptor of this language, to what it
means, and from no other text (`compile_iff_spelled`).

The letters are read by how many there are.  A single one may be that of a role or that of a
feature, and is tried as a role first; nothing is lost by this, as no letter is both.
-/

namespace Concordancer

/-- How the role of the tested token is written.  Where none is written, the match is tested. -/
inductive RoleSpelling : List Char → Role → Prop
  | implied : RoleSpelling [] .self
  | self : RoleSpelling ['m'] .self
  | governor : RoleSpelling ['g'] .governor
  | dependent : RoleSpelling ['d'] .dependent

namespace RoleSpelling

variable {letters : List Char} {role : Role}

theorem of_ofLetter? {letter : Char} (hletter : Role.ofLetter? letter = some role) :
    RoleSpelling [letter] role := by
  unfold Role.ofLetter? at hletter
  split at hletter
  all_goals cases hletter
  all_goals constructor

theorem isAlpha (hspelling : RoleSpelling letters role) :
    ∀ letter ∈ letters, letter.isAlpha = true := by
  cases hspelling with
  | implied => exact List.forall_mem_nil _
  | _ => exact List.forall_mem_singleton.mpr rfl

end RoleSpelling

/-- How a search descriptor is written: an adjacency, a role and a feature, and nothing else. -/
inductive SearchSpelling : List Char → Option Int → Role → Feature → Prop
  | intro {sign roleLetter featureLetter : List Char} {adjacency : Option Int} {role : Role}
    {feature : Feature} (hsign : Descriptor.AdjacencySpelling sign adjacency)
    (hrole : RoleSpelling roleLetter role) (hfeature : FeatureSpelling featureLetter feature) :
    SearchSpelling (sign ++ (roleLetter ++ featureLetter)) adjacency role feature

namespace Criterion

variable {letters : List Char} {role : Role} {feature : Feature}

/-! ## Letters -/

private theorem readLetters_complete {roleLetter featureLetter : List Char}
    (hrole : RoleSpelling roleLetter role) (hfeature : FeatureSpelling featureLetter feature) :
    readLetters (roleLetter ++ featureLetter) = .ok (role, feature) := by
  cases hrole with
  | implied => cases hfeature <;> rfl
  | self => cases hfeature <;> rfl
  | governor => cases hfeature <;> rfl
  | dependent => cases hfeature <;> rfl

private theorem readLetters_sound (hread : readLetters letters = .ok (role, feature)) :
    ∃ roleLetter featureLetter, letters = roleLetter ++ featureLetter ∧
      RoleSpelling roleLetter role ∧ FeatureSpelling featureLetter feature := by
  match letters with
  | [] =>
      cases hread
      exact ⟨[], [], rfl, .implied, .implied⟩
  | [letter] =>
      rw [readLetters] at hread
      split at hread
      · next named hrole =>
          cases hread
          exact ⟨[letter], [], rfl, .of_ofLetter? hrole, .implied⟩
      · next named _ hfeature =>
          cases hread
          exact ⟨[], [letter], rfl, .implied, .of_ofLetter? hfeature⟩
      · cases hread
  | [first, second] =>
      rw [readLetters] at hread
      split at hread
      · cases hread
      · cases hread
      · next hrole hfeature =>
          cases hread
          exact ⟨[first], [second], rfl, .of_ofLetter? hrole, .of_ofLetter? hfeature⟩
  | _ :: _ :: _ :: _ => cases hread

/-! ## Descriptors -/

/-- A descriptor can be read if it is spelled as one, and means what it is spelled with. -/
theorem readDescriptor_iff_spelled {descriptor : String} {adjacency : Option Int} :
    (∃ parts, readDescriptor descriptor = .ok (parts, role, feature) ∧
        parts.adjacency = adjacency) ↔
      SearchSpelling descriptor.toList adjacency role feature := by
  constructor
  · rintro ⟨parts, hread, rfl⟩
    obtain ⟨_, hparts, hrest⟩ := bind_eq_ok_iff.mp hread
    obtain ⟨_, hletters, hmeaning⟩ := bind_eq_ok_iff.mp hrest
    cases hmeaning
    obtain ⟨-, -, sign, htext, hsign⟩ := Descriptor.readFrom_eq_ok_iff.mp hparts
    obtain ⟨roleLetter, featureLetter, hcut, hrole, hfeature⟩ := readLetters_sound hletters
    rw [htext, hcut]
    exact .intro hsign hrole hfeature
  · intro hspelling
    -- The spelling is taken apart as one of a list of characters, which `cases` needs as a
    -- variable.
    generalize htext : descriptor.toList = text at hspelling
    cases hspelling with
    | @intro sign roleLetter featureLetter _ _ _ hsign hrole hfeature =>
        have halpha : ∀ letter ∈ roleLetter ++ featureLetter, letter.isAlpha = true :=
          List.forall_mem_append.mpr ⟨hrole.isAlpha, hfeature.isAlpha⟩
        have hparts : Descriptor.ofSearchText descriptor =
            .ok ⟨none, adjacency, roleLetter ++ featureLetter⟩ :=
          Descriptor.readFrom_eq_ok_iff.mpr ⟨rfl, halpha, sign, htext, hsign⟩
        have hletters := readLetters_complete hrole hfeature
        exact ⟨⟨none, adjacency, roleLetter ++ featureLetter⟩,
          bind_eq_ok_iff.mpr ⟨_, hparts, bind_eq_ok_iff.mpr ⟨_, hletters, rfl⟩⟩, rfl⟩

/-- **The language of search descriptors.**  Let a pattern compile to a matcher.  With this
pattern a descriptor compiles if and only if it is spelled as an adjacency, a role and a
feature, and to the criterion with these.  Every other text is refused as a descriptor, and
the error names it. -/
theorem compile_iff_spelled (options : Options) {descriptor : String} {pattern : Pattern}
    {dialect : Regex.Dialect} {matcher : Matcher}
    (hmatcher : Matcher.ofPattern descriptor pattern options.caseSensitive dialect = .ok matcher) :
    (∀ criterion, compile options descriptor pattern dialect = .ok criterion ↔
      ∃ adjacency role feature, SearchSpelling descriptor.toList adjacency role feature ∧
        criterion = ⟨descriptor, role, feature, adjacency, options.coreference, matcher⟩) ∧
    ((∃ fault, compile options descriptor pattern dialect =
        .error (.invalidDescriptor descriptor fault)) ↔
      ∀ adjacency role feature, ¬ SearchSpelling descriptor.toList adjacency role feature) := by
  have hcompiles : ∀ criterion, compile options descriptor pattern dialect = .ok criterion ↔
      ∃ adjacency role feature, SearchSpelling descriptor.toList adjacency role feature ∧
        criterion = ⟨descriptor, role, feature, adjacency, options.coreference, matcher⟩ := by
    intro criterion
    rw [compile_eq_ok_iff]
    constructor
    · rintro ⟨parts, role, feature, _, hread, hpattern, rfl⟩
      cases hmatcher.symm.trans hpattern
      exact ⟨_, role, feature, readDescriptor_iff_spelled.mp ⟨parts, hread, rfl⟩, rfl⟩
    · rintro ⟨adjacency, role, feature, hspelling, rfl⟩
      obtain ⟨parts, hread, rfl⟩ := readDescriptor_iff_spelled.mpr hspelling
      exact ⟨parts, role, feature, matcher, hread, hmatcher, rfl⟩
  refine ⟨hcompiles, ?_⟩
  constructor
  · rintro ⟨fault, hfault⟩ adjacency role feature hspelling
    have hok := (hcompiles _).mpr ⟨adjacency, role, feature, hspelling, rfl⟩
    cases hfault.symm.trans hok
  · intro hnone
    -- The pattern is no reason to refuse, so only the descriptor is left.
    cases hread : readDescriptor descriptor with
    | error fault =>
        refine ⟨fault, ?_⟩
        rw [compile, hread]
        rfl
    | ok meaning =>
        obtain ⟨parts, role, feature⟩ := meaning
        exact absurd (readDescriptor_iff_spelled.mp ⟨parts, hread, rfl⟩) (hnone _ role feature)

/-- Zeros in front do not count, nor does a sign in front of zero.  The number after the
largest one of 63 bits is none of an adjacency. -/
theorem compile_iff_spelled_zero :
    Matcher.ofPattern "-00gf" (.text wildcard) false = .ok .any ∧
      compile {} "-00gf" (.text wildcard) =
        .ok ⟨"-00gf", .governor, .function, some 0, false, .any⟩ ∧
      ∀ adjacency role feature,
        ¬ SearchSpelling "+9223372036854775808w".toList adjacency role feature := by
  have hzero : Descriptor.IsNumeral ['0', '0'] := by
    refine ⟨List.cons_ne_nil _ _, ?_, ?_⟩
    · exact List.forall_mem_cons.mpr ⟨rfl, List.forall_mem_singleton.mpr rfl⟩
    · show 0 ≤ 2 ^ 63 - 1
      exact Nat.zero_le _
  have hspelling : SearchSpelling "-00gf".toList (some 0) .governor .function :=
    .intro (.left hzero) .governor .function
  have hmatcher : ∀ descriptor, Matcher.ofPattern descriptor (.text wildcard) false = .ok .any :=
    fun descriptor => by rw [Matcher.ofPattern, if_pos rfl]
  refine ⟨hmatcher _, ?_, ?_⟩
  · apply ((compile_iff_spelled {} (hmatcher "-00gf")).1 _).mpr
    exact ⟨some 0, .governor, .function, hspelling, rfl⟩
  · apply (compile_iff_spelled {} (hmatcher "+9223372036854775808w")).2.mp
    exact ⟨.offsetOutOfRange, rfl⟩

end Criterion

end Concordancer
