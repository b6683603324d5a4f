import Concordancer.Proofs.Descriptors.Searching
import Concordancer.Proofs.Refusals

/-!
# Patterns without their nesting

A search mapping is a tree: what is nested under a descriptor has members of its own, and its
leaves are the patterns that a criterion can be made from.  Flattening walks through the tree and
gives each leaf the descriptors on its path as one.

`LeafAt` says where the leaves are, by the place of the member to go to at each level.  Such
addresses tell leaves apart even if they are given the same descriptor, and in the order of
lists of numbers they come depth first.  The entries of a flattened mapping are its leaves
(`Lists`, `exists_lists_flatten`).  None of them is nested, so the error for nested patterns is
never seen.

On the path, a descriptor `w` that is not the first adds nothing.  It would have been the letter
of the feature at the end, and without this letter the word is meant all the same
(`SearchSpelling.of_append_word`).
-/

namespace Concordancer

namespace Pattern

/-- Does the pattern consist of patterns? -/
def IsNested : Pattern → Prop
  | nested _ => True
  | _ => False

/-- Going down from a pattern, at each level to the member at a place, ends at a pattern
that is not nested.  The address lists the places, and the keys are those of the members. -/
inductive LeafAt : Pattern → List Nat → List String → Pattern → Prop
  | here {leaf : Pattern} (hleaf : ¬ leaf.IsNested) : LeafAt leaf [] [] leaf
  | within {members : List (String × Pattern)} {place : Nat} {key : String} {inner leaf : Pattern}
    {address : List Nat} {keys : List String} (hmember : members[place]? = some (key, inner))
    (hinner : LeafAt inner address keys leaf) :
    LeafAt (nested members) (place :: address) (key :: keys) leaf

/-- A descriptor with the further keys of a path.  Those that are `w` add nothing. -/
def extendDescriptor (descriptor : String) (keys : List String) : String :=
  descriptor ++ String.join (keys.filter (· ≠ "w"))

/-- The descriptor of a leaf: all keys on its path, less those that are `w` below the first. -/
def pathDescriptor : List String → String
  | [] => ""
  | key :: keys => extendDescriptor key keys

/-- The entries are the leaves of a pattern, one for each, depth first, under the descriptors of
their paths. -/
structure Lists (pattern : Pattern) (descriptorOf : List String → String)
    (addresses : List (List Nat)) (entries : List (String × Pattern)) : Prop where
  sorted : addresses.Pairwise (· < ·)
  mem_iff : ∀ address, address ∈ addresses ↔ ∃ keys leaf, pattern.LeafAt address keys leaf
  entries : List.Forall₂ (fun address entry => ∃ keys, pattern.LeafAt address keys entry.2 ∧
    entry.1 = descriptorOf keys) addresses entries

/-! ## Leaves of members -/

theorem LeafAt.not_isNested {pattern leaf : Pattern} {address : List Nat} {keys : List String}
    (hleaf : pattern.LeafAt address keys leaf) : ¬ leaf.IsNested := by
  induction hleaf with
  | here hleaf => exact hleaf
  | within _ _ ih => exact ih

/-- The address of the same leaf when another member is put in front. -/
def shifted : List Nat → List Nat
  | [] => []
  | place :: address => (place + 1) :: address

variable {key : String} {first : Pattern} {rest : List (String × Pattern)}

theorem leafAt_first_iff {address : List Nat} {keys : List String} {leaf : Pattern} :
    LeafAt (nested ((key, first) :: rest)) (0 :: address) keys leaf ↔
      ∃ inner, keys = key :: inner ∧ first.LeafAt address inner leaf := by
  constructor
  · rintro (_ | ⟨hmember, hinner⟩)
    cases hmember
    exact ⟨_, rfl, hinner⟩
  · rintro ⟨inner, rfl, hinner⟩
    exact .within rfl hinner

theorem leafAt_rest_iff {place : Nat} {address : List Nat} {keys : List String} {leaf : Pattern} :
    LeafAt (nested ((key, first) :: rest)) ((place + 1) :: address) keys leaf ↔
      LeafAt (nested rest) (place :: address) keys leaf := by
  constructor
  · rintro (_ | ⟨hmember, hinner⟩)
    exact .within hmember hinner
  · rintro (_ | ⟨hmember, hinner⟩)
    exact .within hmember hinner

theorem LeafAt.exists_place {members : List (String × Pattern)} {address : List Nat}
    {keys : List String} {leaf : Pattern} (hleaf : LeafAt (nested members) address keys leaf) :
    ∃ place further, address = place :: further := by
  cases hleaf with
  | here hleaf => exact absurd trivial hleaf
  | within _ _ => exact ⟨_, _, rfl⟩

/-! ## Flattening -/

/-- A leaf is flattened into itself. -/
theorem flatten_of_not_isNested (descriptor : String) {leaf : Pattern} (hleaf : ¬ leaf.IsNested) :
    leaf.flatten descriptor = [(descriptor, leaf)] := by
  cases leaf with
  | nested members => exact absurd trivial hleaf
  | _ => rfl

theorem extendDescriptor_nil (descriptor : String) :
    extendDescriptor descriptor [] = descriptor := by
  rw [extendDescriptor, List.filter_nil, String.join_nil, String.append_empty]

theorem extendDescriptor_cons (descriptor key : String) (keys : List String) :
    extendDescriptor descriptor (key :: keys) =
      extendDescriptor (nestedDescriptor descriptor key) keys := by
  by_cases hword : key = "w"
  · rw [nestedDescriptor, if_pos hword, extendDescriptor,
      List.filter_cons_of_neg (by simpa using hword), extendDescriptor]
  · rw [nestedDescriptor, if_neg hword, extendDescriptor,
      List.filter_cons_of_pos (by simpa using hword), extendDescriptor, String.join_cons,
      String.append_assoc]

namespace Lists

variable {descriptorOf inFirst : List String → String} {addresses others : List (List Nat)}
  {entries further : List (String × Pattern)}

theorem leaf (descriptor : String) {pattern : Pattern} (hleaf : ¬ pattern.IsNested) :
    Lists pattern (extendDescriptor descriptor) [[]] [(descriptor, pattern)] where
  sorted := List.pairwise_singleton _ _
  mem_iff address := by
    rw [List.mem_singleton]
    constructor
    · rintro rfl
      exact ⟨[], pattern, .here hleaf⟩
    · rintro ⟨_, _, _ | _⟩
      · rfl
      · exact absurd trivial hleaf
  entries := .cons ⟨[], .here hleaf, (extendDescriptor_nil descriptor).symm⟩ .nil

theorem nil : Lists (nested []) descriptorOf [] [] where
  sorted := .nil
  mem_iff address := by
    refine iff_of_false List.not_mem_nil ?_
    rintro ⟨_, _, hleaf | ⟨hmember, -⟩⟩
    · exact hleaf trivial
    · cases hmember
  entries := .nil

/-- The leaves of one more member come first. -/
theorem cons (hfirst : Lists first inFirst addresses entries)
    (hrest : Lists (nested rest) descriptorOf others further)
    (hdescriptor : ∀ keys, descriptorOf (key :: keys) = inFirst keys) :
    Lists (nested ((key, first) :: rest)) descriptorOf
      (addresses.map (0 :: ·) ++ others.map shifted) (entries ++ further) where
  sorted := by
    -- Only an address that names a place can be shifted, and a nested pattern is no leaf itself.
    have hplaces : ∀ address ∈ others, ∃ place inner, address = place :: inner := by
      intro address haddress
      obtain ⟨_, _, hleaf⟩ := (hrest.mem_iff address).mp haddress
      exact hleaf.exists_place
    -- Addresses in the first member begin with 0, and those in the others with more than that.
    rw [List.pairwise_append, List.pairwise_map, List.pairwise_map]
    refine ⟨hfirst.sorted.imp fun hlt => List.cons_lt_cons_iff.mpr (.inr ⟨rfl, hlt⟩), ?_, ?_⟩
    · refine hrest.sorted.imp_of_mem fun hone hother hlt => ?_
      obtain ⟨place, inner, rfl⟩ := hplaces _ hone
      obtain ⟨place', inner', rfl⟩ := hplaces _ hother
      simpa only [shifted, List.cons_lt_cons_iff, Nat.add_lt_add_iff_right,
        Nat.add_right_cancel_iff] using hlt
    · intro address haddress other hother
      obtain ⟨inner, -, rfl⟩ := List.mem_map.mp haddress
      obtain ⟨before, hbefore, rfl⟩ := List.mem_map.mp hother
      obtain ⟨place, further, rfl⟩ := hplaces before hbefore
      exact List.cons_lt_cons_iff.mpr (.inl (Nat.succ_pos place))
  mem_iff address := by
    rw [List.mem_append, List.mem_map, List.mem_map]
    constructor
    · rintro (⟨inner, hinner, rfl⟩ | ⟨before, hbefore, rfl⟩)
      · obtain ⟨keys, leaf, hleaf⟩ := (hfirst.mem_iff inner).mp hinner
        exact ⟨key :: keys, leaf, leafAt_first_iff.mpr ⟨keys, rfl, hleaf⟩⟩
      · obtain ⟨keys, leaf, hleaf⟩ := (hrest.mem_iff before).mp hbefore
        obtain ⟨place, inner, rfl⟩ := hleaf.exists_place
        exact ⟨keys, leaf, leafAt_rest_iff.mpr hleaf⟩
    · rintro ⟨keys, leaf, hleaf⟩
      obtain ⟨place, inner, rfl⟩ := hleaf.exists_place
      cases place with
      | zero =>
          obtain ⟨keys, -, hinner⟩ := leafAt_first_iff.mp hleaf
          exact .inl ⟨inner, (hfirst.mem_iff inner).mpr ⟨keys, leaf, hinner⟩, rfl⟩
      | succ place =>
          exact .inr ⟨place :: inner,
            (hrest.mem_iff _).mpr ⟨keys, leaf, leafAt_rest_iff.mp hleaf⟩, rfl⟩
  entries := by
    refine List.rel_append (List.forall₂_map_left_iff.mpr ?_) (List.forall₂_map_left_iff.mpr ?_)
    · refine hfirst.entries.imp ?_
      rintro address entry ⟨keys, hleaf, hentry⟩
      exact ⟨key :: keys, leafAt_first_iff.mpr ⟨keys, rfl, hleaf⟩,
        hentry.trans (hdescriptor keys).symm⟩
    · refine hrest.entries.imp ?_
      rintro address entry ⟨keys, hleaf, hentry⟩
      obtain ⟨place, inner, rfl⟩ := hleaf.exists_place
      exact ⟨keys, leafAt_rest_iff.mpr hleaf, hentry⟩

end Lists

mutual

/-- A pattern under a descriptor is flattened into its leaves. -/
theorem exists_lists_flatten (descriptor : String) : (pattern : Pattern) →
    ∃ addresses, pattern.Lists (extendDescriptor descriptor) addresses
      (pattern.flatten descriptor)
  | integer _ => ⟨[[]], .leaf descriptor not_false⟩
  | text _ => ⟨[[]], .leaf descriptor not_false⟩
  | list _ => ⟨[[]], .leaf descriptor not_false⟩
  | nested members => exists_lists_flattenMembers descriptor members

theorem exists_lists_flattenMembers (outer : String) : (members : List (String × Pattern)) →
    ∃ addresses, (nested members).Lists (extendDescriptor outer) addresses
      (flattenMembers outer members)
  | [] => ⟨[], .nil⟩
  | (inner, pattern) :: rest => by
      obtain ⟨addresses, hfirst⟩ := exists_lists_flatten (nestedDescriptor outer inner) pattern
      obtain ⟨others, hrest⟩ := exists_lists_flattenMembers outer rest
      exact ⟨_, hfirst.cons hrest (extendDescriptor_cons outer inner)⟩

end

end Pattern

namespace SearchMapping

open Pattern

theorem flatten_singleton (descriptor : String) (pattern : Pattern) :
    flatten [(descriptor, pattern)] = pattern.flatten descriptor :=
  List.flatMap_singleton _ _

theorem exists_lists_flatten (mapping : SearchMapping) :
    ∃ addresses, (nested mapping).Lists pathDescriptor addresses mapping.flatten := by
  induction mapping with
  | nil => exact ⟨[], .nil⟩
  | cons entry rest ih =>
      obtain ⟨addresses, hfirst⟩ := Pattern.exists_lists_flatten entry.1 entry.2
      obtain ⟨others, hrest⟩ := ih
      exact ⟨_, hfirst.cons hrest fun _ => rfl⟩

theorem not_isNested_of_mem_flatten {mapping : SearchMapping} {entry : String × Pattern}
    (hentry : entry ∈ mapping.flatten) : ¬ entry.2.IsNested := by
  obtain ⟨addresses, hlists⟩ := mapping.exists_lists_flatten
  obtain ⟨place, hplace, rfl⟩ := List.getElem_of_mem hentry
  have hbound : place < addresses.length := hlists.entries.length_eq ▸ hplace
  obtain ⟨_, hleaf, -⟩ := hlists.entries.get hbound hplace
  exact hleaf.not_isNested

end SearchMapping

/-! ## The error for nested patterns -/

namespace Descriptor

private theorem Offset.read_ne_nestedPattern {text : List Char} :
    read text ≠ .error .nestedPattern := by
  unfold read
  split
  · nofun
  · split
    · split <;> nofun
    · nofun

private theorem Offset.value_ne_nestedPattern {offset : Offset} :
    offset.value ≠ .error .nestedPattern := by
  rw [value_eq]
  split <;> nofun

private theorem Offset.mapM_value_ne_nestedPattern {offset : Option Offset} :
    offset.mapM value ≠ .error .nestedPattern := by
  cases offset with
  | none => nofun
  | some offset =>
      rw [Option.mapM_some]
      intro hvalue
      cases hnumber : offset.value with
      | ok value =>
          rw [hnumber] at hvalue
          cases hvalue
      | error fault =>
          rw [hnumber] at hvalue
          cases hvalue
          exact value_ne_nestedPattern hnumber

theorem ofSearchText_ne_nestedPattern {text : String} :
    ofSearchText text ≠ .error .nestedPattern := by
  intro hread
  rcases bind_eq_error_iff.mp hread with hoffset | ⟨⟨offset, rest⟩, -, hrest⟩
  · exact Offset.read_ne_nestedPattern hoffset
  · dsimp only at hrest
    split at hrest
    · rcases bind_eq_error_iff.mp hrest with hvalue | ⟨_, -, hparts⟩
      · exact Offset.mapM_value_ne_nestedPattern hvalue
      · cases hparts
    · split at hrest <;> cases hrest

end Descriptor

theorem Criterion.readLetters_ne_nestedPattern {letters : List Char} :
    readLetters letters ≠ .error .nestedPattern := by
  unfold readLetters
  split
  · nofun
  · split <;> nofun
  · split <;> nofun
  · nofun

theorem Criterion.compileAll_ne_nestedPattern {options : Options} {mapping : SearchMapping}
    {dialect : Regex.Dialect} {descriptor : String} :
    compileAll options mapping dialect ≠ .error (.invalidDescriptor descriptor .nestedPattern) := by
  intro hcompile
  have hrefused : refusal? (compileAll options mapping dialect) = _ :=
    refusal?_eq_some_iff.mpr hcompile
  rw [compileAll, refusal?_mapM] at hrefused
  obtain ⟨entry, hentry, hfails⟩ := List.exists_of_findSome?_eq_some hrefused
  have hfault : (QueryPart.criterion entry.1 entry.2).Fault options dialect _ :=
    QueryPart.Fails.fault (refusal?_eq_some_iff.mp hfails)
  have hleaf := SearchMapping.not_isNested_of_mem_flatten hentry
  generalize entry.1 = text, entry.2 = pattern at hfault hleaf
  cases hfault with
  | shape hshape => exact Descriptor.ofSearchText_ne_nestedPattern hshape
  | letters _ hletters => exact readLetters_ne_nestedPattern hletters
  | nested _ _ => exact hleaf trivial

/-! ## Keys as one descriptor, and nested -/

/-- Without the letter of the word at its end, a descriptor means the same. -/
theorem SearchSpelling.of_append_word {text : List Char} {adjacency : Option Int} {role : Role}
    {feature : Feature} (hspelling : SearchSpelling (text ++ ['w']) adjacency role feature) :
    SearchSpelling text adjacency role feature := by
  generalize htext : text ++ ['w'] = chars at hspelling
  cases hspelling with
  | @intro sign roleLetter featureLetter _ _ _ hsign hrole hfeature =>
      rcases hfeature.eq_nil_or_singleton with ⟨rfl, rfl⟩ | ⟨letter, rfl⟩
      · -- No adjacency and no role ends with this letter.
        rw [List.append_nil] at htext
        cases hrole with
        | implied =>
            have hmem : 'w' ∈ text ++ ['w'] := List.mem_append_right _ List.mem_cons_self
            rw [htext, List.append_nil] at hmem
            exact absurd hmem (hsign.not_mem_of_isAlpha rfl)
        | self => cases List.append_inj_right' htext rfl
        | governor => cases List.append_inj_right' htext rfl
        | dependent => cases List.append_inj_right' htext rfl
      · rw [← List.append_assoc] at htext
        obtain ⟨rfl, hletter⟩ := List.append_inj' htext rfl
        cases hletter
        cases hfeature
        rw [← List.append_nil roleLetter]
        exact .intro hsign hrole .implied

/-- Matchers do not depend on the descriptor, which only errors name. -/
theorem Matcher.ofPattern_congr {descriptor : String} (other : String) {pattern : Pattern}
    {caseSensitive : Bool} {dialect : Regex.Dialect} {matcher : Matcher}
    (hmatcher : ofPattern descriptor pattern caseSensitive dialect = .ok matcher) :
    ofPattern other pattern caseSensitive dialect = .ok matcher := by
  cases pattern with
  | integer value => exact hmatcher
  | list items => exact hmatcher
  | nested members => cases hmatcher
  | text value =>
      rw [ofPattern] at hmatcher ⊢
      split at hmatcher
      · next hwildcard =>
          rw [if_pos hwildcard]
          exact hmatcher
      · next hwildcard =>
          rw [if_neg hwildcard]
          split at hmatcher
          · exact hmatcher
          · cases hmatcher

/-- What compiles under a descriptor compiles alike when the end of the descriptor is nested. -/
theorem Criterion.compile_nestedDescriptor {options : Options} {outer inner : String}
    {pattern : Pattern} {dialect : Regex.Dialect} {criterion : Criterion}
    (hcompile : compile options (outer ++ inner) pattern dialect = .ok criterion) :
    ∃ nested, compile options (Pattern.nestedDescriptor outer inner) pattern dialect = .ok nested ∧
      nested.role = criterion.role ∧ nested.feature = criterion.feature ∧
      nested.adjacency = criterion.adjacency ∧ nested.matcher = criterion.matcher := by
  by_cases hword : inner = "w"
  · obtain ⟨parts, role, feature, matcher, hread, hmatcher, rfl⟩ := compile_eq_ok_iff.mp hcompile
    have hspelling : SearchSpelling (outer.toList ++ ['w']) parts.adjacency role feature := by
      have hwhole := readDescriptor_iff_spelled.mp ⟨parts, hread, rfl⟩
      rw [hword, String.toList_append] at hwhole
      exact hwhole
    obtain ⟨short, hshort, hadjacency⟩ :=
      readDescriptor_iff_spelled.mpr hspelling.of_append_word
    refine ⟨⟨outer, role, feature, short.adjacency, options.coreference, matcher⟩, ?_, rfl, rfl,
      hadjacency, rfl⟩
    rw [Pattern.nestedDescriptor, if_pos hword]
    exact compile_eq_ok_iff.mpr
      ⟨short, role, feature, matcher, hshort, Matcher.ofPattern_congr outer hmatcher, rfl⟩
  · refine ⟨criterion, ?_, rfl, rfl, rfl, rfl⟩
    rw [Pattern.nestedDescriptor, if_neg hword]
    exact hcompile

/-- One leaf gives one criterion. -/
theorem Criterion.compileAll_of_flatten {options : Options} {descriptor : String}
    {mapping : SearchMapping} {leaf : Pattern} {dialect : Regex.Dialect}
    (hflatten : mapping.flatten = [(descriptor, leaf)]) :
    compileAll options mapping dialect =
      (compile options descriptor leaf dialect).map fun criterion => [criterion] := by
  rw [compileAll, hflatten, List.mapM_cons, List.mapM_nil]
  dsimp only
  cases compile options descriptor leaf dialect with
  | error error => rfl
  | ok criterion => rfl

namespace SearchMapping

open Pattern

/-- **Flattening keeps each leaf and what it means.**  The entries of a flattened search mapping
are its leaves, one for each address and in the order of addresses, also where two paths give the
same descriptor.  A leaf has the keys on its path as its descriptor, less those that are `w` below
the first.  None of the entries is nested, and compiling a search never fails for nested patterns.

If a leaf compiles under a descriptor, it does so when any end of the descriptor is nested under
the rest, and what is compared with what is the same. -/
theorem flatten_keeps_leaves (mapping : SearchMapping) :
    (∃ addresses : List (List Nat), addresses.Pairwise (· < ·) ∧
      (∀ address, address ∈ addresses ↔
        ∃ keys leaf, (nested mapping).LeafAt address keys leaf) ∧
      List.Forall₂ (fun address entry => ∃ keys,
        (nested mapping).LeafAt address keys entry.2 ∧ entry.1 = pathDescriptor keys)
          addresses mapping.flatten) ∧
    (∀ entry ∈ mapping.flatten, ¬ entry.2.IsNested) ∧
    (∀ options dialect descriptor, Criterion.compileAll options mapping dialect ≠
      .error (.invalidDescriptor descriptor .nestedPattern)) ∧
    ∀ (options : Options) (dialect : Regex.Dialect) (outer inner : String) (leaf : Pattern),
      ¬ leaf.IsNested → ∀ criteria,
        Criterion.compileAll options [(outer ++ inner, leaf)] dialect = .ok criteria →
          ∃ criterion nestedCriterion, criteria = [criterion] ∧
            Criterion.compileAll options [(outer, nested [(inner, leaf)])] dialect =
              .ok [nestedCriterion] ∧
            nestedCriterion.role = criterion.role ∧
            nestedCriterion.feature = criterion.feature ∧
            nestedCriterion.adjacency = criterion.adjacency ∧
            nestedCriterion.matcher = criterion.matcher := by
  obtain ⟨addresses, hlists⟩ := mapping.exists_lists_flatten
  refine ⟨⟨addresses, hlists.sorted, hlists.mem_iff, hlists.entries⟩,
    fun _ => not_isNested_of_mem_flatten, fun _ _ _ => Criterion.compileAll_ne_nestedPattern, ?_⟩
  intro options dialect outer inner leaf hleaf criteria hcriteria
  have hwhole : flatten [(outer ++ inner, leaf)] = [(outer ++ inner, leaf)] :=
    (flatten_singleton _ _).trans (flatten_of_not_isNested _ hleaf)
  have hparts : flatten [(outer, nested [(inner, leaf)])] =
      [(nestedDescriptor outer inner, leaf)] := by
    rw [flatten_singleton, Pattern.flatten, flattenMembers, flattenMembers,
      flatten_of_not_isNested _ hleaf, List.append_nil]
  rw [Criterion.compileAll_of_flatten hwhole] at hcriteria
  obtain ⟨criterion, hcompile, rfl⟩ := map_eq_ok_iff.mp hcriteria
  obtain ⟨nestedCriterion, hnested, hsame⟩ := Criterion.compile_nestedDescriptor hcompile
  refine ⟨criterion, nestedCriterion, rfl, ?_, hsame⟩
  rw [Criterion.compileAll_of_flatten hparts, hnested]
  rfl

/-- The word of a governor is sought under `gw`, and under `w` nested in `g`. -/
theorem flatten_keeps_leaves_governor :
    ∃ criterion nestedCriterion,
      Criterion.compileAll {} [("gw", integer 3)] = .ok [criterion] ∧
        Criterion.compileAll {} [("g", nested [("w", integer 3)])] = .ok [nestedCriterion] ∧
        nestedCriterion.role = criterion.role ∧ nestedCriterion.feature = criterion.feature ∧
        nestedCriterion.adjacency = criterion.adjacency ∧
        nestedCriterion.matcher = criterion.matcher := by
  obtain ⟨criteria, hcriteria⟩ : ∃ criteria,
      Criterion.compileAll {} [("gw", integer 3)] = .ok criteria := ⟨_, rfl⟩
  obtain ⟨criterion, nestedCriterion, rfl, hsame⟩ := (flatten_keeps_leaves []).2.2.2 {}
    Regex.compile? "g" "w" (integer 3) not_false criteria hcriteria
  exact ⟨criterion, nestedCriterion, hcriteria, hsame⟩

-- Two leaves with the descriptor `g` stay two.
example :
    flatten [("g", nested [("w", text "sat"), ("", nested [("w", integer 3)]), ("fw", list [])])] =
      [("g", text "sat"), ("g", integer 3), ("gfw", list [])] := by
  rfl

end SearchMapping

end Concordancer
